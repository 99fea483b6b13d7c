import VirtualTerminal.Calendar
import VirtualTerminal.Console
import VirtualTerminal.Manifest
import VirtualTerminal.Proofs.OpenFile
import VirtualTerminal.Proofs.RecordedScripts
import VirtualTerminal.Proofs.TimerHandles
import VirtualTerminal.Session.Event
import VirtualTerminal.View
import VirtualTerminal.Proofs.Runs
import VirtualTerminal.Proofs.Halting
import VirtualTerminal.Proofs.LoadingMessages
import VirtualTerminal.Proofs.ShutdownSequence
import VirtualTerminal.Proofs.PunctualTimers
import VirtualTerminal.Proofs.LoadingSchedule
import VirtualTerminal.Proofs.ScrollbackWindow
import VirtualTerminal.Proofs.LineEditing
import VirtualTerminal.Proofs.EntryNames
import VirtualTerminal.Proofs.LineInvariant
import VirtualTerminal.Proofs.GregorianCalendar
import VirtualTerminal.Proofs.Rendering
import VirtualTerminal.Proofs.PlantedTrees
import VirtualTerminal.Proofs.EntryOperands
import VirtualTerminal.Proofs.ManifestGrowth
import VirtualTerminal.Proofs.CommandLines
import VirtualTerminal.Proofs.WrittenPaths
import VirtualTerminal.Proofs.IndependentWrites
import VirtualTerminal.Proofs.EmptiedFolders
import VirtualTerminal.Proofs.SessionScrollback
import VirtualTerminal.Proofs.EditedFiles
import VirtualTerminal.Proofs.NamingScripts
import VirtualTerminal.Proofs.GuessedNumbers
import VirtualTerminal.Proofs.GuessingGame
import VirtualTerminal.Proofs.AutocodePlayback
import VirtualTerminal.Proofs.CommandFrames
import VirtualTerminal.Proofs.ConsoleLines
import VirtualTerminal.Proofs.ClockTexts
import VirtualTerminal.Proofs.EscapeLayers
