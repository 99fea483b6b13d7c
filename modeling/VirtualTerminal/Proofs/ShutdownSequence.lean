import VirtualTerminal.Proofs.DemoEffects
import VirtualTerminal.Proofs.Runs

/-! # The shutdown sequence

An `exit` shows the first line, each call of the shutdown timer the next one, and the call after the
last line halts the session. No other event advances the sequence. -/
namespace VirtualTerminal

namespace Session

theorem stepShutdown_of_line {s : Session} {sequence : Shutdown} {line : String}
    (h : s.shutdown = some sequence) (left : Shutdown.lines[sequence.shown]? = some line) :
    s.stepShutdown =
      ⟨({ s with shutdown := some ⟨sequence.shown + 1⟩ }).print (.text line), true, []⟩ := by
  simp only [stepShutdown, h, Shutdown.step, left, Option.map_some]

theorem stepShutdown_of_last {s : Session} {sequence : Shutdown} (h : s.shutdown = some sequence)
    (left : Shutdown.lines[sequence.shown]? = none) :
    s.stepShutdown =
      ⟨{ s with shutdown := none, halted := true, loading := none, color := none, input := "" },
        false, [⟨.info, .session, "terminal halted", []⟩]⟩ := by
  simp only [stepShutdown, h, Shutdown.step, left, Option.map_none]

theorem handing_shutdown (s : Session) (event : Event) :
    (s.handing event).shutdown = s.shutdown := by
  cases event <;> rfl

theorem exit_runs {s : Session} {event : Event} (exits : s.Exits event) :
    s.step event = (s.handing event).startShutdown.session ∧
      s.effect? event = (s.handing event).startShutdown.answer := by
  obtain ⟨line, parsed, stepped, answered⟩ := runs_of_command? exits
  have asked : (Command.parse line).execute (s.handing event).toSurroundings =
      .ask (s.handing event).toSurroundings .shutdown := by
    rw [parsed]
    rfl
  have free : (Command.parse line).modal? = none := by rw [parsed]; rfl
  obtain ⟨session, answer⟩ := dispatch_of_ask asked
  rw [stepped, answered, runCommand_of_not_modal free]
  exact ⟨session, answer⟩

theorem exit_begins {s : Session} {event : Event} (exits : s.Exits event)
    (idle : s.shutdown = none) :
    s.effect? event = some .startShutdown ∧
      s.step event = ({ s.handing event with shutdown := some ⟨1⟩ } : Session).print
        (.text "Shutting down terminal...") := by
  obtain ⟨session, answer⟩ := exit_runs exits
  have handed : (s.handing event).shutdown = none := (s.handing_shutdown event).trans idle
  have begun : ({ s.handing event with shutdown := some .start } : Session).stepShutdown =
      ⟨({ s.handing event with shutdown := some ⟨1⟩ } : Session).print
        (.text "Shutting down terminal..."), true, []⟩ := stepShutdown_of_line rfl rfl
  rw [session, answer, startShutdown, handed, begun]
  exact ⟨rfl, rfl⟩

theorem exit_again {s : Session} {event : Event} (exits : s.Exits event) {sequence : Shutdown}
    (going : s.shutdown = some sequence) :
    s.effect? event = none ∧ s.step event = s.handing event := by
  obtain ⟨session, answer⟩ := exit_runs exits
  have handed : (s.handing event).shutdown = some sequence :=
    (s.handing_shutdown event).trans going
  rw [session, answer, startShutdown, handed]
  exact ⟨rfl, rfl⟩

/-- This many lines of the sequence were shown, and the session is not halted. -/
structure ShuttingDown (s : Session) (shown : Nat) : Prop where
  sequence : s.shutdown = some ⟨shown⟩
  live : s.halted = false

theorem ShuttingDown.step {s : Session} {shown : Nat} (h : s.ShuttingDown shown) {event : Event}
    (other : event ≠ .stepShutdown) : (s.step event).ShuttingDown shown := by
  obtain ⟨sequence, live⟩ := h
  cases event with
  | key key =>
    rw [step_key]
    exact ⟨handleKey_shutdown sequence key, (s.handleKey_halted key).trans live⟩
  | command line =>
    rw [step_command]
    exact ⟨runCommand_shutdown sequence line, (s.runCommand_halted line).trans live⟩
  | tickLoading =>
    simp only [Session.step, tickLoading]
    split
    · exact ⟨sequence, live⟩
    · split <;> exact ⟨sequence, live⟩
  | stopLoading =>
    simp only [Session.step, stopLoading]
    split <;> exact ⟨sequence, live⟩
  | tickColor =>
    simp only [Session.step, tickColor]
    split <;> exact ⟨sequence, live⟩
  | stepShutdown => exact absurd rfl other

theorem ShuttingDown.stepShutdown {s : Session} {shown : Nat} (h : s.ShuttingDown shown)
    (left : shown < Shutdown.lines.length) : (s.step .stepShutdown).ShuttingDown (shown + 1) := by
  have next := stepShutdown_of_line h.sequence (List.getElem?_eq_getElem left)
  rw [Session.step, next]
  exact ⟨rfl, h.live⟩

/-- Only the calls of the shutdown timer advance the sequence, each by one line. -/
theorem ShuttingDown.run {s : Session} {shown : Nat} (h : s.ShuttingDown shown)
    {events : List Event} (left : shown + events.count .stepShutdown ≤ Shutdown.lines.length) :
    (s.run events).ShuttingDown (shown + events.count .stepShutdown) := by
  induction events generalizing s shown with
  | nil => exact h
  | cons event rest ih =>
    rw [run_cons]
    by_cases call : event = .stepShutdown
    · subst call
      rw [List.count_cons_self] at left ⊢
      have next := ih (h.stepShutdown (by omega)) (by omega)
      rwa [show shown + (rest.count Event.stepShutdown + 1) =
        shown + 1 + rest.count .stepShutdown by omega]
    · rw [List.count_cons_of_ne call] at left ⊢
      exact ih (h.step call) left

/-- In a session that is not halted and runs no shutdown sequence, an `exit`, typed or run in any
mode, shows the first line and requests the timer. After any events in any order: with fewer calls
of the timer than lines, the session is not halted; the next call shows the next line and requests
another one or, if all lines were shown, shows nothing, requests none and halts the session, which
ends all demos, empties the input and changes nothing else; another `exit` changes nothing. -/
theorem shutdown_shows_each_line_once {s : Session} (live : s.halted = false)
    (idle : s.shutdown = none) {event : Event} (exits : s.Exits event) :
    s.effect? event = some .startShutdown ∧
    (∃ line, Shutdown.lines[0]? = some line ∧
      s.step event =
        ({ s.handing event with shutdown := some ⟨1⟩ } : Session).print (.text line)) ∧
    ∀ later : List Event, later.count .stepShutdown < Shutdown.lines.length →
      let t := (s.step event).run later
      let shown := 1 + later.count .stepShutdown
      t.halted = false ∧
      (∀ line, Shutdown.lines[shown]? = some line →
        t.stepShutdown.answer = true ∧
        t.step .stepShutdown =
          ({ t with shutdown := some ⟨shown + 1⟩ } : Session).print (.text line)) ∧
      (Shutdown.lines[shown]? = none →
        t.stepShutdown.answer = false ∧
        t.step .stepShutdown =
          { t with
            shutdown := none
            halted := true
            loading := none
            color := none
            input := "" }) ∧
      ∀ again, t.Exits again → t.effect? again = none ∧ t.step again = t.handing again := by
  obtain ⟨asked, begun⟩ := exit_begins exits idle
  have first : (s.step event).ShuttingDown 1 := by
    have handed : (s.handing event).halted = false := by cases event <;> exact live
    rw [begun]
    exact ⟨rfl, handed⟩
  refine ⟨asked, ⟨_, rfl, begun⟩, ?_⟩
  intro later left t shown
  have going : t.ShuttingDown shown := first.run (by omega)
  refine ⟨going.live, fun line next => ?_, fun last => ?_, fun again exits' => ?_⟩
  · rw [step, stepShutdown_of_line going.sequence next]
    exact ⟨rfl, rfl⟩
  · rw [step, stepShutdown_of_last going.sequence last]
    exact ⟨rfl, rfl⟩
  · exact exit_again exits' going.sequence

/-- An `exit` run while a file is open and a loading bar is running; a letter is typed and another
`exit` is run before the halting call. -/
theorem shutdown_shows_each_line_once_editing :
    let s := (start (FileSystem.empty.put ⟨["f"]⟩ .file "") (.ofWords [7]) "noon").run
      [.command "edit f", .command "loading"]
    let t := (s.step (.command "exit")).run
      [.stepShutdown, .key (.char 'x'), .stepShutdown, .command " EXIT ", .stepShutdown]
    s.halted = false ∧ s.shutdown = none ∧ s.Exits (.command "exit") ∧
      s.effect? (.command "exit") = some .startShutdown ∧ t.halted = false ∧
      t.mode = .editing ⟨⟨["f"]⟩, "f"⟩ ∧ t.input = "x" ∧ t.loading = some ⟨0⟩ ∧
      t.step (.command "exit") = t.handing (.command "exit") ∧
      t.step .stepShutdown =
        { t with
          shutdown := none
          halted := true
          loading := none
          color := none
          input := "" } := by
  intro s t
  have live : s.halted = false := by decide +kernel
  have idle : s.shutdown = none := by decide +kernel
  have exits : s.Exits (.command "exit") := by decide +kernel
  obtain ⟨asked, -, course⟩ := shutdown_shows_each_line_once live idle exits
  obtain ⟨going, -, last, again⟩ := course
    [.stepShutdown, .key (.char 'x'), .stepShutdown, .command " EXIT ", .stepShutdown] (by decide)
  have exits' : t.Exits (.command "exit") := by decide +kernel
  have mode : t.mode = .editing ⟨⟨["f"]⟩, "f"⟩ := by decide +kernel
  have input : t.input = "x" := by decide +kernel
  have loading : t.loading = some ⟨0⟩ := by decide +kernel
  have same : t.step (.command "exit") = t.handing (.command "exit") := (again _ exits').2
  have halts := (last (by decide)).2
  exact ⟨live, idle, exits, asked, going, mode, input, loading, same, halts⟩

end Session
end VirtualTerminal
