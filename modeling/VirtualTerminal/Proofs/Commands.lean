import VirtualTerminal.Proofs.FileOperations
import VirtualTerminal.Session.Event

/-! # Commands and the keyboard

A command that opens no sub-program neither reads nor writes the mode and the input; one that does
is refused unless the mode is the normal one. -/
namespace VirtualTerminal

def Request.modal? : Request → Option Modal
  | .startAutocode => some .autocode
  | .startGuess => some .guess
  | .startScript => some .script
  | .startEdit _ => some .edit
  | _ => none

section
variable (w : Surroundings) (message : String → String) (record : Record)
  (result : Except FileError String × FileSystem)

@[simp] theorem Execution.report_request : (report w message record result).request = none := by
  obtain ⟨_ | _, _⟩ := result <;> rfl

@[simp] theorem Execution.report_random : (report w message record result).random = w.random := by
  obtain ⟨_ | _, _⟩ := result <;> rfl

end

theorem Execution.report_held (w : Surroundings) (message : String → String) (record : Record)
    (result : Except FileError (FileSystem × String)) :
    report w message record (w.files.held result) =
      match result with
      | .ok (files, leaf) => change w files (message leaf) record
      | .error e => fail w (.file e) := by
  cases result <;> rfl

/-- A command requests no sub-program but the one that it names. -/
theorem Command.request_modal {w : Surroundings} {c : Command} {r : Request}
    (h : (c.execute w).request = some r) : r.modal? = c.modal? := by
  cases c with
  | builtin b => cases b <;> cases h <;> rfl
  | echo | reverse | empty | unknown => cases h
  | script => cases h; rfl
  | scriptRun name =>
    simp only [execute, runScriptFile] at h
    split at h
    · cases h
    · split at h <;> cases h
      rfl
  | file verb name =>
    cases verb with
    | mkdir | touch | rm => simp [execute, runFile] at h
    | ls | cd | cat | edit => simp only [execute, runFile] at h; split at h <;> cases h <;> rfl

namespace Session

theorem run_cons (s : Session) (event : Event) (events : List Event) :
    s.run (event :: events) = (s.step event).run events := rfl

theorem step_key (s : Session) (key : Key) : s.step (.key key) = (s.handleKey key).session := rfl

theorem step_command (s : Session) (line : String) :
    s.step (.command line) = (s.runCommand line).session := rfl

@[simp] theorem print_toSurroundings (s : Session) (row : Row) :
    (s.print row).toSurroundings = s.toSurroundings := rfl

@[simp] theorem absorb_mode (s : Session) (e : Execution) : (s.absorb e).mode = s.mode := rfl

@[simp] theorem absorb_input (s : Session) (e : Execution) : (s.absorb e).input = s.input := rfl

@[simp] theorem absorb_files (s : Session) (e : Execution) : (s.absorb e).files = e.files := rfl

def gate? (s : Session) (line : String) : Option TerminalError :=
  (Command.parse line).modal?.bind fun m => s.refusal? m.word

theorem refusal?_of_normal {s : Session} (h : s.mode = .normal) (word : String) :
    s.refusal? word = none := by
  simp [refusal?, h]

theorem refusal?_of_not_normal {s : Session} (h : s.mode ≠ .normal) (word : String) :
    s.refusal? word = some (.modalConflict word s.mode.label) := by
  simp [refusal?, h]

theorem gate?_of_not_modal {line : String} (h : (Command.parse line).modal? = none) (s : Session) :
    s.gate? line = none := by
  simp [gate?, h]

/-- Past the gate, a command that opens a sub-program meets the normal mode. -/
theorem normal_of_gate? {s : Session} {line : String} {m : Modal} (h : s.gate? line = none)
    (hm : (Command.parse line).modal? = some m) : s.mode = .normal := by
  by_cases hn : s.mode = .normal
  · exact hn
  · simp [gate?, hm, refusal?_of_not_normal hn] at h

theorem runCommand_of_gate? {s : Session} {line : String} (h : s.gate? line = none) :
    s.runCommand line = s.dispatch (Command.parse line) := by
  cases hm : (Command.parse line).modal? with
  | none => simp only [runCommand, hm]
  | some m =>
    have normal := normal_of_gate? h hm
    simp only [runCommand, hm, refusal?_of_normal normal]

theorem runCommand_of_not_modal {line : String} (h : (Command.parse line).modal? = none)
    (s : Session) : s.runCommand line = s.dispatch (Command.parse line) :=
  runCommand_of_gate? (gate?_of_not_modal h s)

theorem runCommand_refused {s : Session} {line : String} {m : Modal} (h : s.mode ≠ .normal)
    (hm : (Command.parse line).modal? = some m) :
    (s.runCommand line).session = s.print (.error
      (TerminalError.modalConflict m.word s.mode.label).message) ∧
      (s.runCommand line).answer = none := by
  simp only [runCommand, hm, refusal?_of_not_normal h, and_self]

theorem dispatch_of_no_request {s : Session} {c : Command}
    (h : (c.execute s.toSurroundings).request = none) :
    (s.dispatch c).session = s.absorb (c.execute s.toSurroundings) ∧
      (s.dispatch c).answer = none := by
  simp only [dispatch, h, and_self]

theorem dispatch_of_request {s : Session} {c : Command} {r : Request}
    (h : (c.execute s.toSurroundings).request = some r) :
    (s.dispatch c).session = ((s.absorb (c.execute s.toSurroundings)).grant r).session ∧
      (s.dispatch c).answer = ((s.absorb (c.execute s.toSurroundings)).grant r).answer := by
  simp only [dispatch, h, and_self]

theorem dispatch_of_ask {s : Session} {c : Command} {r : Request}
    (h : c.execute s.toSurroundings = .ask s.toSurroundings r) :
    (s.dispatch c).session = (s.grant r).session ∧ (s.dispatch c).answer = (s.grant r).answer := by
  have request : (c.execute s.toSurroundings).request = some r := by rw [h]; rfl
  have kept : s.absorb (c.execute s.toSurroundings) = s := by rw [h]; rfl
  obtain ⟨session, answer⟩ := dispatch_of_request request
  rw [kept] at session answer
  exact ⟨session, answer⟩

def withKeyboard (s : Session) (mode : Mode) (input : String) : Session :=
  { s with mode := mode, input := input }

end Session

def Reply.withKeyboard {α : Type} (reply : Reply α) (mode : Mode) (input : String) : Reply α :=
  { reply with session := reply.session.withKeyboard mode input }

@[simp] theorem Reply.withKeyboard_session {α : Type} (reply : Reply α) (mode : Mode)
    (input : String) :
    (reply.withKeyboard mode input).session = reply.session.withKeyboard mode input := rfl

@[simp] theorem Reply.withKeyboard_records {α : Type} (reply : Reply α) (mode : Mode)
    (input : String) : (reply.withKeyboard mode input).records = reply.records := rfl

namespace Session

theorem withKeyboard_self (s : Session) : s.withKeyboard s.mode s.input = s := rfl

@[simp] theorem withKeyboard_mode (s : Session) (mode : Mode) (input : String) :
    (s.withKeyboard mode input).mode = mode := rfl

@[simp] theorem withKeyboard_input (s : Session) (mode : Mode) (input : String) :
    (s.withKeyboard mode input).input = input := rfl

@[simp] theorem withKeyboard_log (s : Session) (mode : Mode) (input : String) :
    (s.withKeyboard mode input).log = s.log := rfl

@[simp] theorem withKeyboard_toSurroundings (s : Session) (mode : Mode) (input : String) :
    (s.withKeyboard mode input).toSurroundings = s.toSurroundings := rfl

@[simp] theorem print_withKeyboard (s : Session) (mode : Mode) (input : String) (row : Row) :
    (s.withKeyboard mode input).print row = (s.print row).withKeyboard mode input := rfl

@[simp] theorem absorb_withKeyboard (s : Session) (mode : Mode) (input : String) (e : Execution) :
    (s.withKeyboard mode input).absorb e = (s.absorb e).withKeyboard mode input := rfl

theorem runScriptLine_withKeyboard (s : Session) (mode : Mode) (input line : String) :
    (s.withKeyboard mode input).runScriptLine line =
      (s.runScriptLine line).withKeyboard mode input := by
  simp only [runScriptLine, print_withKeyboard, withKeyboard_toSurroundings, absorb_withKeyboard,
    withKeyboard_log, Reply.withKeyboard]
  rfl

theorem runScriptLines_withKeyboard (s : Session) (mode : Mode) (input : String)
    (lines : List String) :
    (s.withKeyboard mode input).runScriptLines lines =
      (s.runScriptLines lines).withKeyboard mode input := by
  induction lines generalizing s with
  | nil => rfl
  | cons line rest ih =>
    simp only [runScriptLines, runScriptLine_withKeyboard, Reply.withKeyboard_session, ih,
      Reply.withKeyboard_records]
    rw [Reply.withKeyboard]

theorem runScript_withKeyboard (s : Session) (mode : Mode) (input name content : String) :
    (s.withKeyboard mode input).runScript name content =
      (s.runScript name content).withKeyboard mode input := by
  simp only [runScript, print_withKeyboard, runScriptLines_withKeyboard,
    Reply.withKeyboard_session, Reply.withKeyboard_records]
  rw [Reply.withKeyboard]

theorem grant_withKeyboard (s : Session) (mode : Mode) (input : String) {r : Request}
    (h : r.modal? = none) :
    (s.withKeyboard mode input).grant r = (s.grant r).withKeyboard mode input := by
  cases r with
  | clearScreen | changeFolder | startLoading => rfl
  | startAutocode | startGuess | startScript | startEdit => cases h
  | runScript name content => exact runScript_withKeyboard s mode input name content
  | toggleColor =>
    cases hc : s.color <;> simp [grant, toggleColor, withKeyboard, Reply.withKeyboard, hc, print]
  | shutdown =>
    cases hs : s.shutdown <;>
      simp [grant, startShutdown, withKeyboard, Reply.withKeyboard, hs, stepShutdown, print,
        Shutdown.step, Shutdown.start, Shutdown.lines]

/-- A command that opens no sub-program neither reads nor writes the mode and the typed line. -/
theorem runCommand_withKeyboard (s : Session) (mode : Mode) (input : String) {line : String}
    (h : (Command.parse line).modal? = none) :
    (s.withKeyboard mode input).runCommand line = (s.runCommand line).withKeyboard mode input := by
  rw [runCommand_of_not_modal h, runCommand_of_not_modal h]
  cases hr : ((Command.parse line).execute s.toSurroundings).request with
  | none =>
    simp only [dispatch, withKeyboard_toSurroundings, hr, absorb_withKeyboard, Reply.withKeyboard]
  | some r =>
    have hm : r.modal? = none := (Command.request_modal hr).trans h
    simp only [dispatch, withKeyboard_toSurroundings, hr, absorb_withKeyboard,
      grant_withKeyboard _ mode input hm, Reply.withKeyboard]

theorem runCommand_keyboard_of_not_modal (s : Session) {line : String}
    (h : (Command.parse line).modal? = none) :
    (s.runCommand line).session.mode = s.mode ∧ (s.runCommand line).session.input = s.input := by
  have kept := runCommand_withKeyboard s s.mode s.input h
  rw [withKeyboard_self] at kept
  rw [kept, Reply.withKeyboard_session]
  exact ⟨withKeyboard_mode _ _ _, withKeyboard_input _ _ _⟩

end Session
end VirtualTerminal
