import VirtualTerminal.Proofs.LineInvariant
import VirtualTerminal.Proofs.SessionScrollback

/-! # Autocode plays its program

Before it is left, autocode types one character of its program for each key, for any keys and any
commands and timers in between. -/
namespace VirtualTerminal

namespace Autocode

theorem advance_of_char {k : Nat} {c : Char} (here : program.toList[k]? = some c)
    (other : c ≠ '\n') : (Autocode.mk k).advance = (.typed c, ⟨k + 1⟩) := by
  unfold advance
  rw [here]
  simp only [if_neg other]

theorem advance_of_newline {k : Nat} (here : program.toList[k]? = some '\n') :
    (Autocode.mk k).advance = (.lineDone, ⟨k + 1⟩) := by
  unfold advance
  rw [here]
  rfl

theorem advance_of_end : (Autocode.mk program.length).advance = (.finished, ⟨program.length⟩) := by
  decide

/-- The line ended by a newline is a line of the program, preceded by as many lines as newlines. -/
theorem line_mem_split {k : Nat} (here : program.toList[k]? = some '\n') :
    (Text.split '\n' program)[(program.toList.take k).count '\n']? = some (Autocode.mk k).line := by
  rw [Text.split, List.getElem?_map, Text.getElem?_splitChars here, Option.map_some, line]

end Autocode

def Event.isKey : Event → Bool
  | .key _ => true
  | _ => false

def keysIn (events : List Event) : Nat := events.countP Event.isKey

theorem Event.isKey_of_isTimer {event : Event} (h : event.IsTimer) : event.isKey = false := by
  cases event with
  | key => cases h
  | command | tickLoading | stopLoading | tickColor | stepShutdown => rfl

theorem keysIn_cons_key (key : Key) (events : List Event) :
    keysIn (.key key :: events) = keysIn events + 1 := List.countP_cons_of_pos rfl

theorem keysIn_cons_of_not_isKey {event : Event} (h : event.isKey = false) (events : List Event) :
    keysIn (event :: events) = keysIn events :=
  List.countP_cons_of_neg (Bool.eq_false_iff.mp h)

namespace Session

theorem step_key_of_autocoding {s : Session} {player : Autocode} (live : s.halted = false)
    (playing : s.mode = .autocoding player) {key : Key} (stays : key ≠ .escape) :
    s.step (.key key) = (s.playAutocode player).session := by
  rw [step_key, handleKey_of_autocoding live playing stays]

theorem playAutocode_of_typed (s : Session) {player player' : Autocode} {c : Char}
    (advanced : player.advance = (.typed c, player')) :
    (s.playAutocode player).session =
      { s with mode := .autocoding player', input := s.input.push c } := by
  unfold playAutocode
  rw [advanced]

theorem playAutocode_of_lineDone (s : Session) {player player' : Autocode}
    (advanced : player.advance = (.lineDone, player')) :
    (s.playAutocode player).session =
      ({ s with mode := .autocoding player', input := "" } : Session).print
        (.command s.prompt s.input) := by
  unfold playAutocode
  rw [advanced]

theorem playAutocode_of_finished (s : Session) {player player' : Autocode}
    (advanced : player.advance = (.finished, player')) :
    (s.playAutocode player).session =
      ({ s with mode := .normal, input := "" } : Session).print (.info "<< End of code >>") := by
  unfold playAutocode
  rw [advanced, leaveMode]

theorem playAutocode_mode (s : Session) {k : Nat} (within : k < Autocode.program.length) :
    (s.playAutocode ⟨k⟩).session.mode = .autocoding ⟨k + 1⟩ := by
  rw [← String.length_toList] at within
  have here := List.getElem?_eq_getElem within
  by_cases newline : Autocode.program.toList[k] = '\n'
  · rw [newline] at here
    rw [s.playAutocode_of_lineDone (Autocode.advance_of_newline here)]
    rfl
  · rw [s.playAutocode_of_typed (Autocode.advance_of_char here newline)]

/-- Before autocode is left, its cursor is the number of keys pressed. -/
theorem run_autocoding {s : Session} {k : Nat} {events : List Event}
    (playing : s.mode = .autocoding ⟨k⟩) (stays : Event.key .escape ∉ events)
    (live : (s.run events).halted = false) (within : k + keysIn events ≤ Autocode.program.length) :
    (s.run events).mode = .autocoding ⟨k + keysIn events⟩ := by
  induction events generalizing s k with
  | nil => exact playing
  | cons event rest ih =>
    obtain ⟨other, later⟩ := not_or.mp (List.mem_cons.not.mp stays)
    have before : s.halted = false := live_of_run live
    have silent (h : event.isKey = false) (same : (s.step event).mode = s.mode) :
        (s.run (event :: rest)).mode = .autocoding ⟨k + keysIn (event :: rest)⟩ := by
      rw [keysIn_cons_of_not_isKey h] at within ⊢
      exact ih (same.trans playing) later live within
    cases event using Event.byTimer with
    | timer event timer =>
      exact silent (Event.isKey_of_isTimer timer) (step_mode_of_isTimer timer s)
    | command line =>
      have active : s.mode ≠ .normal := by simp [playing]
      exact silent rfl (runCommand_keyboard active line).1
    | key key =>
      rw [keysIn_cons_key, Nat.add_comm (keysIn rest), ← Nat.add_assoc] at within ⊢
      have awake : key ≠ .escape := fun escape => other (congrArg Event.key escape.symm)
      have typed : (s.step (.key key)).mode = .autocoding ⟨k + 1⟩ := by
        rw [step_key_of_autocoding before playing awake]
        exact s.playAutocode_mode (by omega)
      exact ih typed later live within

theorem Reachable.input_eq_line {s : Session} (h : Reachable s) (live : s.halted = false)
    {player : Autocode} (playing : s.mode = .autocoding player) : s.input = player.line :=
  h.keepsTidy.plays live player playing

/-- While autocode is active, the input is the part of the program between the last newline before
the cursor and the cursor. From its start, with any keys but Escape and any commands and timers in
between, the cursor is the number of keys pressed. The next key appends one character, or shows the
program line that a newline ends behind the current prompt, or shows the end of the program and
returns to the normal mode; nothing else changes. -/
theorem autocode_plays_program {s : Session} (reachable : Reachable s) (live : s.halted = false)
    {player : Autocode} (playing : s.mode = .autocoding player) :
    s.input = player.line ∧
      (player = .start → ∀ events : List Event, Event.key .escape ∉ events →
        (s.run events).halted = false → keysIn events ≤ Autocode.program.length →
        let t := s.run events
        let k := keysIn events
        t.mode = .autocoding ⟨k⟩ ∧ t.input = (Autocode.mk k).line ∧
          ∀ key : Key, key ≠ .escape →
            (∀ c, Autocode.program.toList[k]? = some c → c ≠ '\n' →
              t.step (.key key) =
                { t with mode := .autocoding ⟨k + 1⟩, input := t.input.push c }) ∧
            (Autocode.program.toList[k]? = some '\n' →
              ∃ line,
                (Text.split '\n' Autocode.program)[(Autocode.program.toList.take k).count '\n']? =
                  some line ∧
                t.step (.key key) =
                  ({ t with mode := .autocoding ⟨k + 1⟩, input := "" } : Session).print
                    (.command t.prompt line)) ∧
            (k = Autocode.program.length →
              t.step (.key key) =
                ({ t with mode := .normal, input := "" } : Session).print
                  (.info "<< End of code >>"))) := by
  refine ⟨reachable.input_eq_line live playing, ?_⟩
  rintro rfl events stays going within t k
  have typed : t.mode = .autocoding ⟨k⟩ := by
    have counted := run_autocoding playing stays going (by rwa [Nat.zero_add])
    rwa [Nat.zero_add] at counted
  have line : t.input = (Autocode.mk k).line :=
    (reachable.run events).input_eq_line going typed
  refine ⟨typed, line, fun key awake => ?_⟩
  rw [step_key_of_autocoding going typed awake]
  refine ⟨fun c here other => ?_, fun here => ?_, fun ended => ?_⟩
  · exact t.playAutocode_of_typed (Autocode.advance_of_char here other)
  · refine ⟨_, Autocode.line_mem_split here, ?_⟩
    rw [t.playAutocode_of_lineDone (Autocode.advance_of_newline here), line]
  · rw [ended]
    exact t.playAutocode_of_finished Autocode.advance_of_end

/-- The first line of the program is shown behind the prompt of a folder that was made and entered
while it was typed. -/
theorem autocode_plays_program_first_line :
    let s := (start .empty (.ofWords [7]) "noon").run (entering "autocode")
    let events : List Event := (keysOf "qwerty").map .key ++
      [.command "mkdir a", .key .enter, .command "colorcycle", .tickColor, .key .backspace,
        .command "cd a", .command "clear", .key .other, .key .other]
    let t := s.run events
    Reachable s ∧ s.halted = false ∧ s.mode = .autocoding .start ∧
      Event.key .escape ∉ events ∧ t.halted = false ∧ t.input = "MOV AX, BX" ∧
      t.step (.key .enter) =
        ({ t with mode := .autocoding ⟨11⟩, input := "" } : Session).print
          (.command "/a > " "MOV AX, BX") := by
  intro s events t
  have reachable : Reachable s :=
    (Reachable.start .empty (.ofWords [7]) "noon").run (entering "autocode")
  have before : s.halted = false ∧ s.mode = .autocoding .start := by decide +kernel
  have after : t.halted = false ∧ t.prompt = "/a > " := by decide +kernel
  have stays : Event.key .escape ∉ events := by decide
  have keys : keysIn events = 10 := by decide
  obtain ⟨live, entered⟩ := before
  obtain ⟨going, prompt⟩ := after
  obtain ⟨-, played⟩ := autocode_plays_program reachable live entered
  obtain ⟨-, line, next⟩ := played rfl events stays going (by rw [keys]; decide)
  obtain ⟨-, newline, -⟩ := next .enter nofun
  rw [keys] at line newline
  obtain ⟨ended, whole, stepped⟩ := newline (by decide)
  have first : ended = "MOV AX, BX" := Option.some.inj (whole.symm.trans (by decide))
  rw [prompt, first] at stepped
  exact ⟨reachable, live, entered, stays, going, line.trans (by decide), stepped⟩

end Session
end VirtualTerminal
