import Mathlib.Logic.Function.Basic
import VirtualTerminal.Proofs.ScriptReplay
import VirtualTerminal.Proofs.Typing

/-! # Demos and their effects

A key or a command that starts or stops a demo answers with the corresponding effect. Without an
effect the demos are unchanged. -/
namespace VirtualTerminal

/-- What runs on timers. -/
inductive Demo
  | loading
  | color
  | shutdown
  deriving DecidableEq, Repr

def Effect.after (running : Demo → Bool) : Effect → Demo → Bool
  | .startLoading => Function.update running .loading true
  | .startColorCycle => Function.update running .color true
  | .stopColorCycle => Function.update running .color false
  | .startShutdown => Function.update running .shutdown true

/-- The demos of a session with their states, and whether the session is halted. -/
structure Demos where
  color : Option ColorCycle
  loading : Option LoadingBar
  shutdown : Option Shutdown
  halted : Bool

namespace Demos

/-- The demos after a request for one of them: a loading bar is started over, a color cycle is
turned on or off, and a shutdown sequence is started once. -/
def ask (d : Demos) : Demo → Demos
  | .loading => { d with loading := some .start }
  | .color => { d with color := if d.color.isSome then none else some .start }
  | .shutdown => if d.shutdown.isSome then d else { d with shutdown := some ⟨1⟩ }

/-- The effect of asking for a demo. -/
def effect? (d : Demos) : Demo → Option Effect
  | .loading => some .startLoading
  | .color => some (if d.color.isSome then .stopColorCycle else .startColorCycle)
  | .shutdown => if d.shutdown.isSome then none else some .startShutdown

def running (d : Demos) : Demo → Bool
  | .loading => d.loading.isSome
  | .color => d.color.isSome
  | .shutdown => d.shutdown.isSome

theorem halted_ask (d : Demos) (demo : Demo) : (d.ask demo).halted = d.halted := by
  cases demo with
  | loading | color => rfl
  | shutdown =>
    simp only [ask]
    split <;> rfl

theorem loading_ask (d : Demos) {demo : Demo} (other : demo ≠ .loading) :
    (d.ask demo).loading = d.loading := by
  cases demo with
  | loading => exact absurd rfl other
  | color => rfl
  | shutdown =>
    simp only [ask]
    split <;> rfl

theorem effect?_eq_startLoading {d : Demos} {demo : Demo} :
    d.effect? demo = some .startLoading ↔ demo = .loading := by
  cases demo with
  | loading => exact iff_of_true rfl rfl
  | color => cases cycle : d.color <;> simp [effect?, cycle]
  | shutdown => cases sequence : d.shutdown <;> simp [effect?, sequence]

theorem shutdown_ask (d : Demos) {sequence : Shutdown} (going : d.shutdown = some sequence)
    (demo : Demo) : (d.ask demo).shutdown = some sequence := by
  cases demo with
  | loading | color => exact going
  | shutdown => simp [ask, going]

theorem running_ask (d : Demos) (demo : Demo) :
    (d.ask demo).running = ((d.effect? demo).map (Effect.after d.running)).getD d.running := by
  funext other
  cases demo with
  | loading => cases other <;> rfl
  | color => cases other <;> cases cycle : d.color <;>
      simp [ask, effect?, running, Effect.after, cycle]
  | shutdown => cases other <;> cases sequence : d.shutdown <;>
      simp [ask, effect?, running, Effect.after, sequence]

end Demos

def Request.demo? : Request → Option Demo
  | .startLoading => some .loading
  | .toggleColor => some .color
  | .shutdown => some .shutdown
  | _ => none

def Command.demo? : Command → Option Demo
  | .builtin .loading => some .loading
  | .builtin .colorCycle => some .color
  | .builtin .exit => some .shutdown
  | _ => none

theorem Command.demo?_eq_loading {c : Command} :
    c.demo? = some .loading ↔ c = .builtin .loading := by
  unfold demo?
  split <;> simp_all

theorem Command.demo?_of_modal {c : Command} {m : Modal} (h : c.modal? = some m) :
    c.demo? = none := by
  unfold demo?
  split <;> first | rfl | cases h

theorem Command.request_demo (w : Surroundings) (c : Command) :
    (c.execute w).request.bind Request.demo? = c.demo? := by
  cases c with
  | builtin b => cases b <;> rfl
  | echo | reverse | script | empty | unknown => rfl
  | scriptRun name =>
    simp only [execute, runScriptFile]
    split
    · rfl
    · split <;> rfl
  | file verb name =>
    cases verb with
    | mkdir | touch | rm => simp only [execute, runFile, Execution.report_request]; rfl
    | ls | cd | cat | edit => simp only [execute, runFile]; split <;> rfl

namespace Session

def demos (s : Session) : Demos := ⟨s.color, s.loading, s.shutdown, s.halted⟩

def running (s : Session) : Demo → Bool
  | .loading => s.loading.isSome
  | .color => s.color.isSome
  | .shutdown => s.shutdown.isSome

theorem running_eq (s : Session) : s.running = s.demos.running := by
  funext demo
  cases demo <;> rfl

/-- A reply has the result of asking for a demo, or no result where no demo was asked for. -/
structure Asked (s : Session) (demo : Option Demo) (reply : Reply (Option Effect)) : Prop where
  demos : reply.session.demos = (demo.map s.demos.ask).getD s.demos
  answer : reply.answer = demo.bind s.demos.effect?

namespace Asked
variable {s : Session} {demo : Option Demo} {reply : Reply (Option Effect)}

theorem halted (h : s.Asked demo reply) : reply.session.halted = s.halted := by
  have asked : reply.session.halted = ((demo.map s.demos.ask).getD s.demos).halted :=
    congrArg Demos.halted h.demos
  cases demo with
  | none => exact asked
  | some demo => exact asked.trans (s.demos.halted_ask demo)

theorem loading (h : s.Asked demo reply) (other : demo ≠ some .loading) :
    reply.session.loading = s.loading := by
  have asked : reply.session.loading = ((demo.map s.demos.ask).getD s.demos).loading :=
    congrArg Demos.loading h.demos
  cases demo with
  | none => exact asked
  | some demo => exact asked.trans (s.demos.loading_ask fun same => other (congrArg some same))

theorem shutdown (h : s.Asked demo reply) {sequence : Shutdown}
    (going : s.shutdown = some sequence) : reply.session.shutdown = some sequence := by
  have asked : reply.session.shutdown = ((demo.map s.demos.ask).getD s.demos).shutdown :=
    congrArg Demos.shutdown h.demos
  cases demo with
  | none => exact asked.trans going
  | some demo => exact asked.trans (s.demos.shutdown_ask going demo)

theorem startLoading_iff (h : s.Asked demo reply) :
    reply.answer = some .startLoading ↔ demo = some .loading := by
  rw [h.answer, Option.bind_eq_some_iff]
  simp only [Demos.effect?_eq_startLoading]
  exact ⟨fun ⟨_, asked, same⟩ => same ▸ asked, fun asked => ⟨.loading, asked, rfl⟩⟩

end Asked

theorem enterMode_asked (s : Session) (next : Mode) (opening : List Row) :
    s.Asked none (s.enterMode next opening) := by
  unfold enterMode
  split <;> exact ⟨rfl, rfl⟩

theorem runScript_demos (s : Session) (name content : String) :
    (s.runScript name content).session.demos = s.demos := by
  rw [runScript_eq, typeScriptLines_frame]
  rfl

theorem toggleColor_asked (s : Session) : s.Asked (some .color) s.toggleColor := by
  unfold toggleColor
  split <;> next cycle =>
    constructor <;> simp [demos, Demos.ask, Demos.effect?, cycle, print]

theorem startShutdown_asked (s : Session) : s.Asked (some .shutdown) s.startShutdown := by
  unfold startShutdown
  split <;> next sequence =>
    constructor <;> simp [demos, Demos.ask, Demos.effect?, sequence, stepShutdown, print,
      Shutdown.step, Shutdown.start, Shutdown.lines]

theorem grant_asked (s : Session) (r : Request) : s.Asked r.demo? (s.grant r) := by
  cases r with
  | clearScreen | changeFolder | startLoading => exact ⟨rfl, rfl⟩
  | startAutocode | startScript | startEdit => exact s.enterMode_asked _ _
  | startGuess =>
    have asked := enterMode_asked { s with random := (GuessGame.drawn s.random).2 }
      (.guessing (GuessGame.drawn s.random).1) GuessGame.intro
    exact ⟨asked.demos, asked.answer⟩
  | runScript name content => exact ⟨s.runScript_demos name content, rfl⟩
  | toggleColor => exact s.toggleColor_asked
  | shutdown => exact s.startShutdown_asked

theorem dispatch_asked (s : Session) (c : Command) : s.Asked c.demo? (s.dispatch c) := by
  have requested := c.request_demo s.toSurroundings
  cases hr : (c.execute s.toSurroundings).request with
  | none =>
    obtain ⟨session, answer⟩ := dispatch_of_no_request hr
    rw [← requested, hr]
    exact ⟨by rw [session]; rfl, answer⟩
  | some r =>
    obtain ⟨session, answer⟩ := dispatch_of_request hr
    have granted := (s.absorb (c.execute s.toSurroundings)).grant_asked r
    rw [← requested, hr, Option.bind_some]
    exact ⟨by rw [session, granted.demos]; rfl, answer.trans granted.answer⟩

/-- A command starts or stops its own demo and answers with the corresponding effect; any other
command leaves the demos unchanged. -/
theorem runCommand_asked (s : Session) (line : String) :
    s.Asked (Command.parse line).demo? (s.runCommand line) := by
  unfold runCommand
  dsimp only
  split
  · exact s.dispatch_asked _
  · next m modal =>
    split
    · exact s.dispatch_asked _
    · rw [Command.demo?_of_modal modal]
      exact ⟨rfl, rfl⟩

/-- The result of a key on the demos: that of its command or, without a command, none, unless the
key stops the color cycle. -/
inductive Touches (s : Session) (key : Key) (reply : Reply (Option Effect)) : Prop
  | asks {c : Command} (ran : s.command? (.key key) = some c) (asked : s.Asked c.demo? reply)
  | nothing (ran : s.command? (.key key) = none) (asked : s.Asked none reply)
  | stops (ran : s.command? (.key key) = none)
      (demos : reply.session.demos = { s.demos with color := none })
      (answer : reply.answer = some .stopColorCycle)

theorem cancelMode_asked (s : Session) : s.Asked none s.cancelMode := by
  unfold cancelMode
  split <;> exact ⟨rfl, rfl⟩

theorem command?_of_not_normal {s : Session} (h : s.mode ≠ .normal) (key : Key) :
    s.command? (.key key) = none := by
  cases key <;> simp [command?, h]

theorem escape_touches (s : Session) : s.Touches .escape s.escape := by
  unfold escape
  split
  · exact .nothing rfl s.cancelMode_asked
  · exact .stops rfl rfl rfl
  · exact .nothing rfl s.cancelMode_asked

theorem submit_asked_of_not_normal {s : Session} (h : s.mode ≠ .normal) :
    s.Asked none s.submit := by
  unfold submit
  dsimp only
  split
  · next normal => exact absurd normal h
  · next lines _ =>
    unfold collectLine
    split <;> exact ⟨rfl, rfl⟩
  · next lines _ =>
    unfold nameScript
    dsimp only
    split <;> exact ⟨rfl, rfl⟩
  · next handle _ =>
    unfold editLine
    split
    · exact ⟨rfl, rfl⟩
    · split <;> exact ⟨rfl, rfl⟩
  · next game _ =>
    unfold guessLine
    dsimp only
    split <;> exact ⟨rfl, rfl⟩
  · exact ⟨rfl, rfl⟩

theorem submit_touches {s : Session} (live : s.halted = false) : s.Touches .enter s.submit := by
  by_cases normal : s.mode = .normal
  · have ran : s.command? (.key .enter) = some (.parse s.input) := by
      simp [command?, live, normal]
    have asked := runCommand_asked { s with input := "" } s.input
    have submitted : s.submit = ({ s with input := "" } : Session).runCommand s.input := by
      simp only [submit, normal]
    rw [submitted]
    exact .asks ran ⟨asked.demos, asked.answer⟩
  · exact .nothing (command?_of_not_normal normal .enter) (submit_asked_of_not_normal normal)

theorem playAutocode_asked (s : Session) (player : Autocode) :
    s.Asked none (s.playAutocode player) := by
  unfold playAutocode
  split <;> exact ⟨rfl, rfl⟩

theorem handleKey_touches (s : Session) (key : Key) : s.Touches key (s.handleKey key) := by
  unfold handleKey
  split
  · next halted =>
    have ran : s.command? (.key key) = none := by cases key <;> simp [command?, halted]
    exact .nothing ran ⟨rfl, rfl⟩
  · next live =>
    split
    · exact s.escape_touches
    · next pressed _ _ player _ playing =>
      have active : s.mode ≠ .normal := by simp [playing]
      have ran := command?_of_not_normal active pressed
      exact .nothing ran (s.playAutocode_asked player)
    · exact submit_touches (Bool.eq_false_iff.mpr live)
    · exact .nothing rfl ⟨rfl, rfl⟩
    · next c _ =>
      unfold insertChar
      split <;> exact .nothing rfl ⟨rfl, rfl⟩
    · exact .nothing rfl ⟨rfl, rfl⟩

def StartsLoading (s : Session) (event : Event) : Prop :=
  s.command? event = some (.builtin .loading)

def Exits (s : Session) (event : Event) : Prop := s.command? event = some (.builtin .exit)

instance (s : Session) : DecidablePred s.StartsLoading := by
  unfold StartsLoading
  infer_instance

instance (s : Session) : DecidablePred s.Exits := by
  unfold Exits
  infer_instance

/-- The timers of a loading bar are requested exactly when it is started. -/
theorem effect?_eq_startLoading {s : Session} {event : Event} :
    s.effect? event = some .startLoading ↔ s.StartsLoading event := by
  constructor
  · intro effect
    cases event with
    | key key =>
      cases s.handleKey_touches key with
      | asks ran asked =>
        have loads := Command.demo?_eq_loading.mp (asked.startLoading_iff.mp effect)
        exact ran.trans (congrArg some loads)
      | nothing _ asked => cases asked.startLoading_iff.mp effect
      | stops _ _ answer => cases answer.symm.trans effect
    | command line =>
      have asked := s.runCommand_asked line
      exact congrArg some (Command.demo?_eq_loading.mp (asked.startLoading_iff.mp effect))
    | tickLoading | stopLoading | tickColor | stepShutdown => cases effect
  · intro starts
    obtain ⟨line, parsed, -, answered⟩ := runs_of_command? starts
    have asked := (s.handing event).runCommand_asked line
    exact answered.trans (asked.startLoading_iff.mpr (Command.demo?_eq_loading.mpr parsed))

theorem loading_of_start {s : Session} {event : Event} (starts : s.StartsLoading event) :
    (s.step event).loading = some .start := by
  obtain ⟨line, parsed, stepped, -⟩ := runs_of_command? starts
  have asked := ((s.handing event).runCommand_asked line).demos
  rw [Command.demo?_eq_loading.mpr parsed] at asked
  rw [stepped]
  exact congrArg Demos.loading asked

theorem runCommand_halted (s : Session) (line : String) :
    (s.runCommand line).session.halted = s.halted := (s.runCommand_asked line).halted

theorem handleKey_halted (s : Session) (key : Key) :
    (s.handleKey key).session.halted = s.halted := by
  cases s.handleKey_touches key with
  | asks _ asked | nothing _ asked => exact asked.halted
  | stops _ demos => exact congrArg Demos.halted demos

theorem runCommand_loading {s : Session} {line : String}
    (quiet : ¬ s.StartsLoading (.command line)) :
    (s.runCommand line).session.loading = s.loading := by
  refine (s.runCommand_asked line).loading fun asked => quiet ?_
  exact congrArg some (Command.demo?_eq_loading.mp asked)

theorem handleKey_loading {s : Session} {key : Key} (quiet : ¬ s.StartsLoading (.key key)) :
    (s.handleKey key).session.loading = s.loading := by
  cases s.handleKey_touches key with
  | asks ran asked =>
    refine asked.loading fun loads => quiet ?_
    exact ran.trans (congrArg some (Command.demo?_eq_loading.mp loads))
  | nothing _ asked => exact asked.loading nofun
  | stops _ demos => exact congrArg Demos.loading demos

theorem runCommand_shutdown {s : Session} {sequence : Shutdown}
    (going : s.shutdown = some sequence) (line : String) :
    (s.runCommand line).session.shutdown = some sequence := (s.runCommand_asked line).shutdown going

theorem handleKey_shutdown {s : Session} {sequence : Shutdown}
    (going : s.shutdown = some sequence) (key : Key) :
    (s.handleKey key).session.shutdown = some sequence := by
  cases s.handleKey_touches key with
  | asks _ asked | nothing _ asked => exact asked.shutdown going
  | stops _ demos => exact (congrArg Demos.shutdown demos).trans going

/-- The answer of a reply describes the demos that were running before. -/
inductive Announces (before : Demo → Bool) (reply : Reply (Option Effect)) : Prop
  | nothing (answer : reply.answer = none) (same : reply.session.running = before)
  | change {effect : Effect} (answer : reply.answer = some effect)
      (changed : reply.session.running = effect.after before)

theorem Asked.announces {s : Session} {demo : Option Demo} {reply : Reply (Option Effect)}
    (h : s.Asked demo reply) : Announces s.running reply := by
  obtain ⟨demos, answer⟩ := h
  cases demo with
  | none => exact .nothing answer (by rw [running_eq, demos, running_eq]; rfl)
  | some demo =>
    have asked : reply.session.running =
        ((s.demos.effect? demo).map (Effect.after s.running)).getD s.running := by
      rw [running_eq, demos, Option.map_some, Option.getD_some, Demos.running_ask, ← running_eq]
    rw [Option.bind_some] at answer
    cases effect : s.demos.effect? demo with
    | none => exact .nothing (answer.trans effect) (by rw [asked, effect]; rfl)
    | some effect' => exact .change (answer.trans effect) (by rw [asked, effect]; rfl)

theorem runCommand_announces (s : Session) (line : String) :
    Announces s.running (s.runCommand line) := (s.runCommand_asked line).announces

theorem handleKey_announces (s : Session) (key : Key) :
    Announces s.running (s.handleKey key) := by
  cases s.handleKey_touches key with
  | asks _ asked | nothing _ asked => exact asked.announces
  | stops _ demos answer =>
    refine .change answer ?_
    rw [running_eq, demos, running_eq]
    funext demo
    cases demo <;> rfl

theorem tickLoading_running (s : Session) :
    s.tickLoading.session.running = Function.update s.running .loading s.tickLoading.answer := by
  funext demo
  unfold tickLoading
  split
  · next idle => cases demo <;> simp [running, idle]
  · split <;> cases demo <;> rfl

theorem stopLoading_running (s : Session) :
    s.stopLoading.session.running = Function.update s.running .loading false := by
  funext demo
  unfold stopLoading
  split
  · next idle => cases demo <;> simp [running, idle]
  · cases demo <;> rfl

theorem tickColor_running (s : Session) :
    s.tickColor.session.running = Function.update s.running .color s.tickColor.answer := by
  funext demo
  unfold tickColor
  split
  · next idle => cases demo <;> simp [running, idle]
  · cases demo <;> rfl

theorem stepShutdown_running {s : Session} (h : s.running .shutdown = true) :
    s.stepShutdown.session.running =
      if s.stepShutdown.answer then s.running else fun _ => false := by
  obtain ⟨sequence, going⟩ := Option.isSome_iff_exists.mp h
  simp only [stepShutdown, going]
  funext demo
  cases sequence.step with
  | none => cases demo <;> rfl
  | some line => cases demo <;> simp [running, going, print]

end Session
end VirtualTerminal
