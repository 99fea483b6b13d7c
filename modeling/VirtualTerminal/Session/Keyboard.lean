import VirtualTerminal.Key
import VirtualTerminal.Session.Run
import VirtualTerminal.Text.Control

/-! # The keyboard

Escape leaves a sub-program, autocode answers every other key by typing, and otherwise keys edit the
input until Enter passes it to the active mode. -/
namespace VirtualTerminal.Session

def leaveMode (s : Session) : Session := { s with mode := .normal, input := "" }

def leftRecord (s : Session) : Record :=
  .ofController .debug "mode left" [("mode", Text.quoted s.mode.label)]

/-- The input in the naming mode; typing continues behind it. -/
def namePrompt : String := "Name the script file: "

def isTerminator (line : String) : Bool := Text.trim line = "."

/-- The row for a cancelled mode; some modes are not cancelled. -/
def cancelled? : Mode → Option Row
  | .editing _ => some (.info "Edit mode cancelled")
  | .collecting _ => some (.info "Script creation cancelled.")
  | .guessing game => some game.cancelled
  | .autocoding _ => some (.info "Autocode cancelled")
  | .normal | .naming _ => none

def cancelMode (s : Session) : Reply (Option Effect) :=
  match cancelled? s.mode with
  | some row => ⟨s.leaveMode.print row, none, [s.leftRecord]⟩
  | none => ⟨s, none, []⟩

/-- The order is autocode, the color cycle, any other mode. -/
def escape (s : Session) : Reply (Option Effect) :=
  match s.mode, s.color with
  | .autocoding _, _ => s.cancelMode
  | _, some _ =>
    ⟨({ s with color := none, input := "" }).print (.info "Colorcycle cancelled"),
      some .stopColorCycle, []⟩
  | _, none => s.cancelMode

/-- Control characters and characters beyond the limit are ignored. -/
def insertChar (s : Session) (c : Char) : Session :=
  if Text.isControl c ∨ inputLimit ≤ s.input.length then s else { s with input := s.input.push c }

def eraseLast (s : Session) : Session := { s with input := String.ofList s.input.toList.dropLast }

def collectLine (s : Session) (lines : List String) (line : String) : Reply (Option Effect) :=
  if isTerminator line then
    ⟨{ s with mode := .naming lines, input := namePrompt }, none,
      [.ofController .debug "script recorded" [("lines", toString lines.length)]]⟩
  else
    ⟨({ s with mode := .collecting (lines ++ [Text.trim line]) }).print (.text line), none, []⟩

/-- The name in a line that may still begin with the prompt for it. -/
def scriptName (line : String) : String :=
  let cs := line.toList
  let rest := if namePrompt.toList.isPrefixOf cs then cs.drop namePrompt.length else cs
  Text.trim (String.ofList rest)

def nameScript (s : Session) (lines : List String) (line : String) : Reply (Option Effect) :=
  let name := scriptName line
  let left := s.leaveMode
  match Script.trySave left.files left.cwd name lines with
  | (.ok saved, files) =>
    ⟨({ left with files := files }).print
        (.success ("Script '" ++ saved ++ "' saved successfully.")), none,
      [s.leftRecord, .created (left.cwd.resolve name) .file,
        .ofController .info "script saved" [("script", saved)]]⟩
  | (.error e, files) =>
    ⟨({ left with files := files }).print (.error e.message), none,
      [s.leftRecord, .ofController .warn "script discarded" [("script", Text.quoted name)]]⟩

def editLine (s : Session) (handle : EditHandle) (line : String) : Reply (Option Effect) :=
  if isTerminator line then
    ⟨s.leaveMode.print (.text ("Finished editing \"" ++ handle.name ++ "\".")), none,
      [s.leftRecord]⟩
  else
    match s.files.tryAppendLine handle line with
    | (.ok (), files) => ⟨({ s with files := files }).print (.text line), none, []⟩
    | (.error e, files) =>
      ⟨(({ s with files := files }).print (.error (TerminalError.file e).message)).leaveMode, none,
        [s.leftRecord]⟩

def guessLine (s : Session) (game : GuessGame) (line : String) : Reply (Option Effect) :=
  let (outcome, game') := game.guess (Text.trim line)
  let judged := ({ s with mode := .guessing game' }).print (game'.message outcome)
  if outcome.endsGame then
    ⟨judged.leaveMode, none,
      [.ofController .debug "guessing game over" [("outcome", outcome.label)], judged.leftRecord]⟩
  else ⟨judged, none, []⟩

def submit (s : Session) : Reply (Option Effect) :=
  let line := s.input
  let s := { s with input := "" }
  match s.mode with
  | .normal => s.runCommand line
  | .collecting lines => s.collectLine lines line
  | .naming lines => s.nameScript lines line
  | .editing handle => s.editLine handle line
  | .guessing game => s.guessLine game line
  | .autocoding _ => ⟨s, none, []⟩

def playAutocode (s : Session) (player : Autocode) : Reply (Option Effect) :=
  match player.advance with
  | (.typed c, player') =>
    ⟨{ s with mode := .autocoding player', input := s.input.push c }, none, []⟩
  | (.lineDone, player') =>
    ⟨({ s with mode := .autocoding player', input := "" }).print (.command s.prompt s.input),
      none, []⟩
  | (.finished, _) => ⟨s.leaveMode.print (.info "<< End of code >>"), none, [s.leftRecord]⟩

def handleKey (s : Session) (key : Key) : Reply (Option Effect) :=
  if s.halted then ⟨s, none, []⟩
  else
    match key, s.mode with
    | .escape, _ => s.escape
    | _, .autocoding player => s.playAutocode player
    | .enter, _ => s.submit
    | .backspace, _ => ⟨s.eraseLast, none, []⟩
    | .char c, _ => ⟨s.insertChar c, none, []⟩
    | .other, _ => ⟨s, none, []⟩

/-- Presses keys in turn; the answer is that of the last one. -/
def handleKeys (s : Session) : List Key → Reply (Option Effect)
  | [] => ⟨s, none, []⟩
  | [key] => s.handleKey key
  | key :: next :: rest =>
    let first := s.handleKey key
    let last := first.session.handleKeys (next :: rest)
    { last with records := first.records ++ last.records }

/-- The keys that type a text. -/
def keysOf (text : String) : List Key := text.toList.map Key.char

def typeText (s : Session) (text : String) : Reply (Option Effect) := s.handleKeys (keysOf text)

def enterLine (s : Session) (line : String) : Reply (Option Effect) :=
  s.handleKeys (keysOf line ++ [.enter])

end VirtualTerminal.Session
