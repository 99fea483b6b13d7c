import VirtualTerminal.Command.Execute
import VirtualTerminal.Demo.ColorCycle
import VirtualTerminal.Demo.Loading
import VirtualTerminal.Demo.Shutdown
import VirtualTerminal.Mode
import VirtualTerminal.Scrollback

/-! # Sessions

The state of one terminal: its files and working folder, the line being typed, the mode, the
scrollback, and the demos that run on timers. -/
namespace VirtualTerminal

structure Session extends Surroundings where
  input : String
  mode : Mode
  log : Scrollback
  color : Option ColorCycle
  loading : Option LoadingBar
  shutdown : Option Shutdown
  /-- The shutdown sequence is complete and keys do nothing any more. -/
  halted : Bool

/-- What the timers must do after a key or a command. -/
inductive Effect
  | startLoading
  | startColorCycle
  | stopColorCycle
  | startShutdown
  deriving DecidableEq, Repr

def Effect.label : Effect → String
  | .startLoading => "StartLoading"
  | .startColorCycle => "StartColorCycle"
  | .stopColorCycle => "StopColorCycle"
  | .startShutdown => "StartShutdown"

/-- A session after a step, what the step answered and the records it wrote. -/
structure Reply (α : Type) where
  session : Session
  answer : α
  records : List Record

namespace Session

def historyLimit : Nat := 1000

/-- Characters that the scrollback keeps of one message. -/
def messageLimit : Nat := 2000

/-- Characters that the typed line holds. -/
def inputLimit : Nat := 800

def baseColor : String := "#0f0"

def start (files : FileSystem) (random : Chance) (clock : Clock) : Session where
  files := files
  cwd := .root
  random := random
  clock := clock
  input := ""
  mode := .normal
  log := .new historyLimit messageLimit
  color := none
  loading := none
  shutdown := none
  halted := false

def prompt (s : Session) : String := s.cwd.toText ++ " > "

def textColor (s : Session) : String := (s.color.map ColorCycle.css).getD baseColor

def print (s : Session) (row : Row) : Session := { s with log := s.log.push row }

def printAll (s : Session) (rows : List Row) : Session := { s with log := s.log.extend rows }

def greet (s : Session) : Session :=
  s.print (.info "ARM-23 virtual terminal. Type 'help' to see available commands.")

end Session
end VirtualTerminal
