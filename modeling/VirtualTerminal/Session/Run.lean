import VirtualTerminal.Script
import VirtualTerminal.Session.Ticks

/-! # Running command lines

A command that opens a sub-program is refused while another one is active, before it does anything.
All others run in every mode. -/
namespace VirtualTerminal.Session

def refusal? (s : Session) (requested : String) : Option TerminalError :=
  if s.mode = .normal then none else some (.modalConflict requested s.mode.label)

def enterMode (s : Session) (next : Mode) (opening : List Row) : Reply (Option Effect) :=
  match s.refusal? next.word with
  | some e => ⟨s.print (.error e.message), none, []⟩
  | none =>
    ⟨({ s with mode := next, input := "" }).printAll opening, none,
      [.ofController .debug "mode entered" [("mode", Text.quoted next.label)]]⟩

def absorb (s : Session) (e : Execution) : Session :=
  { s with
    files := e.files
    random := e.random
    clock := e.clock
    log := s.log.extend e.output }

/-- Shows and runs one line of a script; of all requests, only clearing the screen is granted. -/
def runScriptLine (s : Session) (line : String) : Reply Unit :=
  let shown := s.print (.text (">> " ++ line))
  let e := Script.runLine shown.toSurroundings line
  let after := shown.absorb e
  let log := if e.request = some .clearScreen then after.log.clear else after.log
  ⟨{ after with log := log }, (), e.records⟩

def runScriptLines (s : Session) : List String → Reply Unit
  | [] => ⟨s, (), []⟩
  | line :: rest =>
    let first := s.runScriptLine line
    let last := first.session.runScriptLines rest
    ⟨last.session, (), first.records ++ last.records⟩

def runScript (s : Session) (name content : String) : Reply (Option Effect) :=
  let opened := s.print (.info ("--- RUNNING SCRIPT: " ++ name ++ " ---"))
  let ran := opened.runScriptLines (Script.lines content)
  ⟨ran.session.print (.info ("--- SCRIPT FINISHED: " ++ name ++ " ---")), none,
    .ofController .info "running script" [("script", Text.quoted name)] :: ran.records⟩

def toggleColor (s : Session) : Reply (Option Effect) :=
  match s.color with
  | some _ =>
    ⟨({ s with color := none }).print (.info "Color cycling stopped."), some .stopColorCycle,
      [.ofController .info "color cycle stopped" []]⟩
  | none =>
    ⟨({ s with color := some .start }).print (.info "Colorcycle started (RGB). Press ESC to stop."),
      some .startColorCycle, [.ofController .info "color cycle started" []]⟩

/-- Starts the loading bar, from its first frame if one is running. -/
def startLoading (s : Session) : Reply (Option Effect) :=
  ⟨{ s with loading := some .start }, some .startLoading,
    [.ofController .info "loading started" [("restart", toString s.loading.isSome)]]⟩

/-- Shows the first line of the shutdown sequence, unless one is running. -/
def startShutdown (s : Session) : Reply (Option Effect) :=
  match s.shutdown with
  | some _ => ⟨s, none, []⟩
  | none =>
    let first := ({ s with shutdown := some .start }).stepShutdown
    ⟨first.session, some .startShutdown,
      .ofController .info "shutdown started" [] :: first.records⟩

def grant (s : Session) : Request → Reply (Option Effect)
  | .clearScreen => ⟨{ s with log := s.log.clear }, none, []⟩
  | .changeFolder path =>
    ⟨{ s with cwd := path }, none, [.ofController .debug "cwd changed" [("path", path.toText)]]⟩
  | .startAutocode =>
    s.enterMode (.autocoding .start) [.info "Autocode mode started. Press Escape to exit."]
  | .startGuess =>
    let (game, random) := GuessGame.drawn s.random
    ({ s with random := random }).enterMode (.guessing game) GuessGame.intro
  | .startScript =>
    s.enterMode (.collecting [])
      [.info "Script mode enabled. Write '.' on a new line to finish and save."]
  | .startEdit handle =>
    s.enterMode (.editing handle)
      [.info ("Editing \"" ++ handle.name ++ "\". Type a single \".\" on a line to finish.")]
  | .runScript name content => s.runScript name content
  | .startLoading => s.startLoading
  | .toggleColor => s.toggleColor
  | .shutdown => s.startShutdown

def dispatch (s : Session) (command : Command) : Reply (Option Effect) :=
  let e := command.execute s.toSurroundings
  let after := s.absorb e
  let noted := .ofController .debug "dispatch" [("cmd", command.describe)] :: e.records
  match e.request with
  | none => ⟨after, none, noted⟩
  | some request =>
    let granted := after.grant request
    ⟨granted.session, granted.answer, noted ++ granted.records⟩

def runCommand (s : Session) (line : String) : Reply (Option Effect) :=
  let command := Command.parse line
  match command.modal? with
  | none => s.dispatch command
  | some requested =>
    match s.refusal? requested.word with
    | none => s.dispatch command
    | some e =>
      ⟨s.print (.error e.message), none,
        [.ofController .warn "modal entry refused"
          [("requested", Text.quoted requested.word), ("active", Text.quoted s.mode.label)]]⟩

end VirtualTerminal.Session
