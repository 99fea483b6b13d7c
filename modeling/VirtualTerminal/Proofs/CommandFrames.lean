import VirtualTerminal.Proofs.DemoEffects
import VirtualTerminal.Proofs.ModeChanges

/-! # Frames of command lines

Each command changes its own part of the session only. A failing line shows its error and changes
nothing else. -/
namespace VirtualTerminal

def FileSystem.refusal? {α : Type} : Except FileError α → Option FileError
  | .error e => some e
  | .ok _ => none

theorem FileSystem.refusal?_eq_some {α : Type} {result : Except FileError α} {e : FileError} :
    refusal? result = some e ↔ result = .error e := by
  cases result with
  | error e' => simp [refusal?]
  | ok a => simp [refusal?]

/-- Why the operation of a verb fails for a name. -/
def FileVerb.refusal? (w : Surroundings) (name : String) : FileVerb → Option FileError
  | .ls => FileSystem.refusal? (w.files.list w.cwd name)
  | .cd => FileSystem.refusal? (w.files.changeFolder w.cwd name)
  | .mkdir => FileSystem.refusal? (w.files.makeFolder w.cwd name)
  | .touch => FileSystem.refusal? (w.files.makeFile w.cwd name)
  | .cat => FileSystem.refusal? (w.files.read w.cwd name)
  | .rm => FileSystem.refusal? (w.files.remove w.cwd name)
  | .edit => FileSystem.refusal? (w.files.beginEdit w.cwd name)

namespace Command

inductive Fails (w : Surroundings) : Command → TerminalError → Prop
  | unknown (line : String) : Fails w (.unknown line) (.unknownCommand line)
  | file {verb : FileVerb} {name : String} {e : FileError}
      (refused : verb.refusal? w name = some e) : Fails w (.file verb name) (.file e)
  | unnamed : Fails w (.scriptRun "") (.invalidArgument "Specify script file")
  | unreadable {name : String} {e : FileError} (named : name ≠ "")
      (refused : FileVerb.cat.refusal? w name = some e) :
    Fails w (.scriptRun name)
      (.invalidArgument ("Script file '" ++ name ++ "' not found or is a directory."))

inductive Asks : Command → Request → Prop
  | clear : Asks (.builtin .clear) .clearScreen
  | cd (name : String) (path : Path) : Asks (.file .cd name) (.changeFolder path)
  | autocode : Asks (.builtin .autocode) .startAutocode
  | guess : Asks (.builtin .guess) .startGuess
  | script : Asks .script .startScript
  | edit (name : String) (handle : EditHandle) : Asks (.file .edit name) (.startEdit handle)
  | scriptRun (name content : String) : Asks (.scriptRun name) (.runScript name content)
  | loading : Asks (.builtin .loading) .startLoading
  | colorCycle : Asks (.builtin .colorCycle) .toggleColor
  | exit : Asks (.builtin .exit) .shutdown

def writes : Command → Bool
  | .file .mkdir _ | .file .touch _ | .file .rm _ | .scriptRun _ => true
  | _ => false

/-- The result of a command: only a request, a failure, rows without an error, a drawn cheer, a
reading of the clock, or a change of the files. -/
inductive Outcome (w : Surroundings) : Command → Execution → Prop
  | asks {c : Command} {r : Request} (asks : Asks c r) : Outcome w c (.ask w r)
  | fails {c : Command} {e : TerminalError} (failed : Fails w c e) : Outcome w c (.fail w e)
  | shows {c : Command} {rows : List Row} (clean : ∀ text, .error text ∉ rows) :
    Outcome w c (.print w rows)
  | cheers (line : String) (random : Chance) :
    Outcome w (.builtin .cheer) { Execution.print w [.success line] with random }
  | dates (text : String) (clock : Clock) :
    Outcome w (.builtin .date) { Execution.print w [.text text] with clock }
  | changes {c : Command} (writes : c.writes = true) (files : FileSystem) (message : String)
      (record : Record) : Outcome w c (.change w files message record)

theorem text_clean (lines : List String) (text : String) : .error text ∉ lines.map Row.text := by
  simp

theorem listing_clean (entries : List (String × Kind)) (text : String) :
    .error text ∉ listing entries := by
  unfold listing
  split <;> simp

theorem report_outcome {w : Surroundings} {c : Command} (writes : c.writes = true)
    {result : Except FileError (FileSystem × String)} (message : String → String)
    (record : Record) (refused : ∀ e, result = .error e → Outcome w c (.fail w (.file e))) :
    Outcome w c (Execution.report w message record (w.files.held result)) := by
  rw [Execution.report_held]
  cases result with
  | ok changed => exact .changes writes _ _ _
  | error e => exact refused e rfl

theorem runFile_outcome (w : Surroundings) (name : String) (verb : FileVerb) :
    Outcome w (.file verb name) (runFile w name verb) := by
  have refused {e : FileError} (h : verb.refusal? w name = some e) :
      Outcome w (.file verb name) (.fail w (.file e)) := .fails (.file h)
  cases verb with
  | ls =>
    simp only [runFile]
    split
    · exact .shows (listing_clean _)
    · next failed => exact refused (FileSystem.refusal?_eq_some.mpr failed)
  | cd =>
    simp only [runFile]
    split
    · exact .asks (.cd name _)
    · next failed => exact refused (FileSystem.refusal?_eq_some.mpr failed)
  | mkdir =>
    simp only [runFile, FileSystem.tryMakeFolder_eq]
    exact report_outcome rfl _ _ fun _ failed => refused (FileSystem.refusal?_eq_some.mpr failed)
  | touch =>
    simp only [runFile, FileSystem.tryMakeFile_eq]
    exact report_outcome rfl _ _ fun _ failed => refused (FileSystem.refusal?_eq_some.mpr failed)
  | rm =>
    simp only [runFile, FileSystem.tryRemove_eq]
    exact report_outcome rfl _ _ fun _ failed => refused (FileSystem.refusal?_eq_some.mpr failed)
  | cat =>
    simp only [runFile]
    split
    · exact .shows (text_clean [_])
    · next failed => exact refused (FileSystem.refusal?_eq_some.mpr failed)
  | edit =>
    simp only [runFile]
    split
    · exact .asks (.edit name _)
    · next failed => exact refused (FileSystem.refusal?_eq_some.mpr failed)

theorem execute_outcome (w : Surroundings) (c : Command) : Outcome w c (c.execute w) := by
  cases c with
  | empty => exact .shows (text_clean [])
  | echo text => exact .shows (text_clean [_])
  | reverse text => exact .shows (text_clean [_])
  | script => exact .asks .script
  | unknown line => exact .fails (.unknown line)
  | file verb name => exact runFile_outcome w name verb
  | builtin b =>
    cases b with
    | clear => exact .asks .clear
    | autocode => exact .asks .autocode
    | loading => exact .asks .loading
    | colorCycle => exact .asks .colorCycle
    | exit => exact .asks .exit
    | guess => exact .asks .guess
    | help => exact .shows (text_clean _)
    | hello => exact .shows (text_clean _)
    | whoami => exact .shows (text_clean [_])
    | date => exact .dates _ _
    | cheer => exact .cheers _ _
  | scriptRun name =>
    simp only [execute, runScriptFile]
    split
    · next empty =>
      rw [empty]
      exact .fails .unnamed
    · next named =>
      split
      · exact .asks (.scriptRun name _)
      · next failed =>
        exact .fails (.unreadable named (FileSystem.refusal?_eq_some.mpr failed))

/-- Only a failure shows an error. -/
theorem fails_of_error {w : Surroundings} {c : Command} {text : String}
    (h : .error text ∈ (c.execute w).output) : ∃ e, c.Fails w e ∧ e.message = text := by
  have outcome := c.execute_outcome w
  generalize c.execute w = execution at h outcome
  cases outcome with
  | asks => cases h
  | fails failed =>
    refine ⟨_, failed, ?_⟩
    simpa [Execution.fail, Execution.print, eq_comm] using h
  | shows clean => exact absurd h (clean text)
  | cheers | dates => simp [Execution.print] at h
  | changes => simp [Execution.change] at h

theorem execute_of_fails {w : Surroundings} {c : Command} {e : TerminalError} (h : c.Fails w e) :
    c.execute w = .fail w e := by
  cases h with
  | unknown line => rfl
  | unnamed => rfl
  | unreadable named refused =>
    have failed := FileSystem.refusal?_eq_some.mp refused
    simp only [execute, runScriptFile, if_neg named, failed]
  | @file verb name e refused =>
    cases verb with
    | ls | cd | cat | edit =>
      have failed := FileSystem.refusal?_eq_some.mp refused
      simp only [execute, runFile, failed]
    | mkdir | touch | rm =>
      have failed := FileSystem.refusal?_eq_some.mp refused
      simp only [execute, runFile, FileSystem.tryMakeFolder_eq, FileSystem.tryMakeFile_eq,
        FileSystem.tryRemove_eq, Execution.report_held, failed]

/-- A command admitted in a mode changes at most one part of its surroundings, unless it runs a
script. -/
inductive Affects (c : Command) (mode : Mode) (w : Surroundings) : Surroundings → Prop
  | nothing : Affects c mode w w
  | files (writes : c.writes = true) (files : FileSystem) : Affects c mode w { w with files }
  | folder {name : String} (moves : c = .file .cd name) (path : Path) :
    Affects c mode w { w with cwd := path }
  | random (draws : c = .builtin .cheer ∨ c = .builtin .guess ∧ mode = .normal)
      (random : Chance) : Affects c mode w { w with random }
  | clock (reads : c = .builtin .date) (clock : Clock) : Affects c mode w { w with clock }
  | script {name : String} (runs : c = .scriptRun name) (files : FileSystem) (clock : Clock) :
    Affects c mode w { w with files, clock }

namespace Affects
variable {c : Command} {mode : Mode} {w w' : Surroundings}

theorem writes (h : c.Affects mode w w') (changed : w'.files ≠ w.files) : c.writes = true := by
  cases h with
  | files writes => exact writes
  | script runs => rw [runs, Command.writes]
  | nothing | folder | random | clock => exact absurd rfl changed

theorem moves (h : c.Affects mode w w') (changed : w'.cwd ≠ w.cwd) :
    ∃ name, c = .file .cd name := by
  cases h with
  | folder moves => exact ⟨_, moves⟩
  | nothing | files | random | clock | script => exact absurd rfl changed

theorem draws (h : c.Affects mode w w') (changed : w'.random ≠ w.random) :
    c = .builtin .cheer ∨ c = .builtin .guess ∧ mode = .normal := by
  cases h with
  | random draws => exact draws
  | nothing | files | folder | clock | script => exact absurd rfl changed

theorem reads (h : c.Affects mode w w') (changed : w'.clock ≠ w.clock) :
    c = .builtin .date ∨ ∃ name, c = .scriptRun name := by
  cases h with
  | clock reads => exact .inl reads
  | script runs => exact .inr ⟨_, runs⟩
  | nothing | files | folder | random => exact absurd rfl changed

end Affects

end Command

namespace Session

theorem enterMode_toSurroundings (s : Session) (next : Mode) (opening : List Row) :
    (s.enterMode next opening).session.toSurroundings = s.toSurroundings := by
  unfold enterMode
  split <;> rfl

theorem runScript_toSurroundings (s : Session) (name content : String) :
    ∃ files clock, (s.runScript name content).session.toSurroundings =
      { s.toSurroundings with files, clock } := by
  rw [runScript_eq, typeScriptLines_frame]
  exact ⟨_, _, rfl⟩

def Admits (s : Session) (c : Command) : Prop := c.modal? = none ∨ s.mode = .normal

theorem runCommand_of_admits {s : Session} {line : String} (h : s.Admits (Command.parse line)) :
    s.runCommand line = s.dispatch (Command.parse line) := by
  apply runCommand_of_gate?
  rcases h with free | normal
  · exact gate?_of_not_modal free s
  · simp [gate?, refusal?_of_normal normal]

theorem refuses_of_not_admits {s : Session} {c : Command} (h : ¬ s.Admits c) :
    ∃ m, c.modal? = some m ∧ s.mode ≠ .normal := by
  obtain ⟨modal, active⟩ := not_or.mp h
  obtain ⟨m, opens⟩ := Option.ne_none_iff_exists'.mp modal
  exact ⟨m, opens, active⟩

theorem grant_affects {s : Session} {c : Command} {r : Request} (asks : c.Asks r)
    (admitted : s.Admits c) :
    c.Affects s.mode s.toSurroundings (s.grant r).session.toSurroundings := by
  cases asks with
  | clear | loading => exact .nothing
  | cd name path => exact .folder rfl path
  | autocode | script | edit =>
    rw [grant, enterMode_toSurroundings]
    exact .nothing
  | guess =>
    have normal : s.mode = .normal := admitted.resolve_left (by decide)
    simp only [grant]
    rw [enterMode_toSurroundings]
    exact .random (.inr ⟨rfl, normal⟩) _
  | scriptRun name content =>
    obtain ⟨files, clock, same⟩ := s.runScript_toSurroundings name content
    rw [grant, same]
    exact .script rfl files clock
  | colorCycle =>
    simp only [grant, toggleColor]
    split <;> exact .nothing
  | exit =>
    simp only [grant, startShutdown]
    split
    · exact .nothing
    · have timer : Event.stepShutdown.IsTimer := trivial
      have kept := (step_frame_of_isTimer timer { s with shutdown := some .start }).1
      exact kept ▸ .nothing

theorem dispatch_toSurroundings {s : Session} {c : Command} {e : Execution}
    (executed : c.execute s.toSurroundings = e) (silent : e.request = none) :
    (s.dispatch c).session.toSurroundings =
      { s.toSurroundings with files := e.files, random := e.random, clock := e.clock } := by
  subst executed
  rw [(dispatch_of_no_request silent).1]
  rfl

theorem dispatch_affects {s : Session} {c : Command} (admitted : s.Admits c) :
    c.Affects s.mode s.toSurroundings (s.dispatch c).session.toSurroundings := by
  have outcome := c.execute_outcome s.toSurroundings
  generalize executed : c.execute s.toSurroundings = e at outcome
  cases outcome with
  | asks asks =>
    rw [(dispatch_of_ask executed).1]
    exact grant_affects asks admitted
  | fails | shows =>
    rw [dispatch_toSurroundings executed rfl]
    exact .nothing
  | cheers =>
    rw [dispatch_toSurroundings executed rfl]
    exact .random (.inl rfl) _
  | dates =>
    rw [dispatch_toSurroundings executed rfl]
    exact .clock rfl _
  | changes writes =>
    rw [dispatch_toSurroundings executed rfl]
    exact .files writes _

theorem runCommand_affects (s : Session) (line : String) :
    (Command.parse line).Affects s.mode s.toSurroundings
      (s.runCommand line).session.toSurroundings := by
  by_cases admitted : s.Admits (Command.parse line)
  · rw [runCommand_of_admits admitted]
    exact dispatch_affects admitted
  · obtain ⟨m, opens, active⟩ := refuses_of_not_admits admitted
    rw [(runCommand_refused active opens).1]
    exact .nothing

end Session

def Demo.command : Demo → Command
  | .loading => .builtin .loading
  | .color => .builtin .colorCycle
  | .shutdown => .builtin .exit

theorem Command.demo?_eq_some_iff {c : Command} {demo : Demo} :
    c.demo? = some demo ↔ c = demo.command := by
  constructor
  · intro asked
    unfold demo? at asked
    split at asked <;> cases asked <;> rfl
  · rintro rfl
    cases demo <;> rfl

namespace Demos

def Same (d d' : Demos) : Demo → Prop
  | .loading => d'.loading = d.loading
  | .color => d'.color = d.color
  | .shutdown => d'.shutdown = d.shutdown

theorem same_refl (d : Demos) (demo : Demo) : d.Same d demo := by
  cases demo <;> rfl

theorem same_ask (d : Demos) {demo other : Demo} (h : demo ≠ other) :
    d.Same (d.ask demo) other := by
  cases demo with
  | loading | color => cases other <;> first | rfl | exact absurd rfl h
  | shutdown =>
    unfold ask
    cases other with
    | shutdown => exact absurd rfl h
    | loading | color => cases sequence : d.shutdown <;> rfl

theorem ask_of_no_effect {d : Demos} {demo : Demo} (h : d.effect? demo = none) :
    d.ask demo = d := by
  cases demo with
  | loading | color => cases h
  | shutdown =>
    cases sequence : d.shutdown with
    | none => simp [effect?, sequence] at h
    | some => simp [ask, sequence]

end Demos

namespace Session

/-- The command sets a demo, with the effect that corresponds. -/
inductive Sets (s t : Session) : Command → Effect → Prop
  | loading (started : t.loading = some .start) : Sets s t (.builtin .loading) .startLoading
  | color (idle : s.color = none) (started : t.color = some .start) :
    Sets s t (.builtin .colorCycle) .startColorCycle
  | stopColor (cycling : s.color.isSome = true) (stopped : t.color = none) :
    Sets s t (.builtin .colorCycle) .stopColorCycle
  | shutdown (idle : s.shutdown = none) (begun : t.shutdown = some ⟨1⟩) :
    Sets s t (.builtin .exit) .startShutdown

namespace Asked
variable {s : Session} {c : Command} {demo : Option Demo} {reply : Reply (Option Effect)}

theorem same (h : s.Asked demo reply) {other : Demo} (different : demo ≠ some other) :
    s.demos.Same reply.session.demos other := by
  rw [h.demos]
  cases demo with
  | none => exact s.demos.same_refl other
  | some demo => exact s.demos.same_ask fun same => different (congrArg some same)

theorem command_of_changed (h : s.Asked c.demo? reply) (demo : Demo)
    (changed : ¬ s.demos.Same reply.session.demos demo) : c = demo.command :=
  Command.demo?_eq_some_iff.mp (by_contra fun different => changed (h.same different))

theorem command_of_color (h : s.Asked c.demo? reply) (changed : reply.session.color ≠ s.color) :
    c = .builtin .colorCycle := h.command_of_changed .color changed

theorem command_of_loading (h : s.Asked c.demo? reply)
    (changed : reply.session.loading ≠ s.loading) : c = .builtin .loading :=
  h.command_of_changed .loading changed

theorem command_of_shutdown (h : s.Asked c.demo? reply)
    (changed : reply.session.shutdown ≠ s.shutdown) : c = .builtin .exit :=
  h.command_of_changed .shutdown changed

theorem same_of_silent (h : s.Asked demo reply) (silent : reply.answer = none) :
    reply.session.color = s.color ∧ reply.session.loading = s.loading ∧
      reply.session.shutdown = s.shutdown := by
  have kept : reply.session.demos = s.demos := by
    rw [h.demos]
    cases demo with
    | none => rfl
    | some demo => exact Demos.ask_of_no_effect (h.answer.symm.trans silent)
  exact ⟨congrArg Demos.color kept, congrArg Demos.loading kept, congrArg Demos.shutdown kept⟩

theorem sets_of_answer (h : s.Asked c.demo? reply) {effect : Effect}
    (answered : reply.answer = some effect) : s.Sets reply.session c effect := by
  obtain ⟨demo, asked, announced⟩ := Option.bind_eq_some_iff.mp (h.answer.symm.trans answered)
  have after : reply.session.demos = s.demos.ask demo := by
    rw [h.demos, asked]
    rfl
  cases Command.demo?_eq_some_iff.mp asked
  cases demo with
  | loading =>
    cases announced
    exact .loading (congrArg Demos.loading after)
  | color =>
    have color : reply.session.color = (s.demos.ask .color).color := congrArg Demos.color after
    cases cycle : s.color <;>
      simp only [Session.demos, Demos.effect?, Demos.ask, cycle] at announced color
    · cases announced
      exact .color cycle color
    · cases announced
      exact .stopColor (by rw [cycle]; rfl) color
  | shutdown =>
    have shutdown : reply.session.shutdown = (s.demos.ask .shutdown).shutdown :=
      congrArg Demos.shutdown after
    cases sequence : s.shutdown <;>
      simp only [Session.demos, Demos.effect?, Demos.ask, sequence] at announced shutdown
    · cases announced
      exact .shutdown sequence shutdown
    · cases announced

theorem answer_of_sets (h : s.Asked c.demo? reply) {effect : Effect}
    (sets : s.Sets reply.session c effect) : reply.answer = some effect := by
  rw [h.answer]
  cases sets with
  | loading => rfl
  | color idle => simp [Command.demo?, Demos.effect?, Session.demos, idle]
  | stopColor cycling => simp [Command.demo?, Demos.effect?, Session.demos, cycling]
  | shutdown idle => simp [Command.demo?, Demos.effect?, Session.demos, idle]

end Asked

/-- A line is not run if it opens a sub-program while another one is active, or if its command
fails. -/
inductive Fails (s : Session) (c : Command) : TerminalError → Prop
  | refused {m : Modal} (opens : c.modal? = some m) (active : s.mode ≠ .normal) :
    Fails s c (.modalConflict m.word s.mode.label)
  | failed {e : TerminalError} (admitted : s.Admits c) (failed : c.Fails s.toSurroundings e) :
    Fails s c e

theorem runCommand_of_fails {s : Session} {line : String} {e : TerminalError}
    (h : s.Fails (Command.parse line) e) :
    (s.runCommand line).session = s.print (.error e.message) ∧
      (s.runCommand line).answer = none := by
  cases h with
  | refused opens active => exact runCommand_refused active opens
  | failed admitted failed =>
    have executed := Command.execute_of_fails failed
    obtain ⟨session, answer⟩ := dispatch_of_no_request (s := s) (by rw [executed]; rfl)
    rw [runCommand_of_admits admitted, session, executed]
    exact ⟨rfl, answer⟩

theorem runCommand_keyboard_of_changed {s : Session} {line : String}
    (changed : (s.runCommand line).session.mode ≠ s.mode ∨
      (s.runCommand line).session.input ≠ s.input) :
    (Command.parse line).modal?.isSome = true ∧ s.mode = .normal := by
  constructor
  · by_contra free
    have free : (Command.parse line).modal? = none := Option.not_isSome_iff_eq_none.mp free
    obtain ⟨mode, input⟩ := runCommand_keyboard_of_not_modal s free
    exact changed.elim (absurd mode) (absurd input)
  · by_contra active
    obtain ⟨mode, input⟩ := runCommand_keyboard active line
    exact changed.elim (absurd mode) (absurd input)

/-- Frames of a command line, in any state. The files change only by a command that adds or removes
an entry or runs a script, the working folder only by `cd`, the source of chance only by a command
that draws, the clock only by `date` and by a script, the mode and the input only by a command that
opens a sub-program from the normal mode, and each demo only by its own command; no line halts the
session. The answer is an effect exactly when a demo was set. A failing line only shows its error,
and apart from script lines no other line shows an error. -/
theorem runCommand_keeps_the_rest (s : Session) (line : String) :
    let c := Command.parse line
    let reply := s.runCommand line
    let t := reply.session
    (t.files ≠ s.files → c.writes = true) ∧
      (t.cwd ≠ s.cwd → ∃ name, c = .file .cd name) ∧
      (t.random ≠ s.random → c = .builtin .cheer ∨ c = .builtin .guess ∧ s.mode = .normal) ∧
      (t.mode ≠ s.mode ∨ t.input ≠ s.input → c.modal?.isSome = true ∧ s.mode = .normal) ∧
      (t.color ≠ s.color → c = .builtin .colorCycle) ∧
      (t.loading ≠ s.loading → c = .builtin .loading) ∧
      (t.shutdown ≠ s.shutdown → c = .builtin .exit) ∧
      (t.clock ≠ s.clock → c = .builtin .date ∨ ∃ name, c = .scriptRun name) ∧
      t.halted = s.halted ∧
      (∀ effect, reply.answer = some effect ↔ s.Sets t c effect) ∧
      (reply.answer = none →
        t.color = s.color ∧ t.loading = s.loading ∧ t.shutdown = s.shutdown) ∧
      (∀ e, s.Fails c e →
        t = { s with log := s.log.push (.error e.message) } ∧ reply.answer = none) ∧
      ∀ text, .error text ∈ (c.execute s.toSurroundings).output →
        ∃ e, c.Fails s.toSurroundings e ∧ e.message = text := by
  intro c reply t
  have asked : s.Asked c.demo? reply := s.runCommand_asked line
  have affected : c.Affects s.mode s.toSurroundings t.toSurroundings := s.runCommand_affects line
  exact ⟨affected.writes, affected.moves, affected.draws, runCommand_keyboard_of_changed,
    asked.command_of_color, asked.command_of_loading, asked.command_of_shutdown, affected.reads,
    asked.halted, fun _ => ⟨asked.sets_of_answer, asked.answer_of_sets⟩, asked.same_of_silent,
    fun e => runCommand_of_fails, fun text => Command.fails_of_error⟩

/-- A folder that is not empty stays, also while a script is recorded. -/
example :
    let s := { start (FileSystem.empty.plant ⟨["a", "b"]⟩ .file "") (.ofWords [7]) "noon" with
      mode := .collecting ["ls"] }
    s.Fails (Command.parse "rm a") (.file (.folderNotEmpty "a")) ∧
      (s.runCommand "rm a").session =
        { s with log := s.log.push (.error "Error: Folder \"a\" is not empty.") } := by
  have parsed : Command.parse "rm a" = .file .rm "a" := by decide
  have failed : ({ start (FileSystem.empty.plant ⟨["a", "b"]⟩ .file "") (.ofWords [7]) "noon" with
      mode := .collecting ["ls"] } : Session).Fails (Command.parse "rm a")
        (.file (.folderNotEmpty "a")) := by
    rw [parsed]
    exact .failed (.inl rfl) (.file (by decide))
  exact ⟨failed, (runCommand_of_fails failed).1⟩

end Session
end VirtualTerminal
