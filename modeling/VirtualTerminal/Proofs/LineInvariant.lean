import Mathlib.Data.List.DropRight
import VirtualTerminal.Proofs.DemoEffects
import VirtualTerminal.Proofs.LineEditing
import VirtualTerminal.Proofs.ModeChanges
import VirtualTerminal.Proofs.TextLaws

/-! # An invariant of the input

The input stays short and free of control characters, although only typing checks it: autocode
writes lines of its own program, and the naming mode starts with a fixed text. -/
namespace VirtualTerminal

structure Tidy (line : String) : Prop where
  short : line.length ≤ Session.inputLimit
  free : Text.ControlFree line

theorem tidy_empty : Tidy "" := ⟨by decide, by decide⟩

theorem Tidy.trim {line : String} (h : Tidy line) : Tidy (Text.trim line) :=
  ⟨(Text.length_trim_le line).trans h.short, fun c hc => h.free c (Text.mem_of_mem_trim hc)⟩

theorem tidy_namePrompt : Tidy Session.namePrompt := ⟨by decide, by decide⟩

theorem Tidy.typed {line : String} (h : Tidy line) {key : Key} (edits : key.Edits) :
    Tidy (typedLine line [key]) := by
  cases key with
  | enter | escape => cases edits
  | other =>
    rw [typedLine_other]
    exact h
  | backspace =>
    rw [typedLine_backspace]
    refine ⟨?_, fun c hc => ?_⟩
    · have short := h.short
      rw [String.length_ofList, List.length_dropLast, String.length_toList]
      omega
    · rw [String.toList_ofList] at hc
      exact h.free c (List.dropLast_subset _ hc)
  | char c =>
    rw [typedLine_char]
    split
    · exact h
    · next taken =>
      simp only [not_or, Bool.not_eq_true, Nat.not_le] at taken
      refine ⟨?_, fun other ho => ?_⟩
      · rw [String.length_push]
        exact taken.2
      · rw [String.toList_push, List.mem_append, List.mem_singleton] at ho
        rcases ho with ho | rfl
        · exact h.free other ho
        · exact taken.1

namespace Autocode

/-- The part of the program between the last newline before the cursor and the cursor. -/
def line (player : Autocode) : String :=
  String.ofList ((program.toList.take player.cursor).rtakeWhile fun c => c ≠ '\n')

theorem line_start : start.line = "" := by decide

theorem advance_eq_typed {player player' : Autocode} {c : Char}
    (h : player.advance = (.typed c, player')) :
    c ≠ '\n' ∧ program.toList.take player'.cursor = program.toList.take player.cursor ++ [c] := by
  unfold advance at h
  split at h
  · cases h
  · next c' here =>
    split at h
    · cases h
    · next other =>
      cases h
      exact ⟨other, by rw [List.take_add_one, here, Option.toList_some]⟩

theorem line_of_typed {player player' : Autocode} {c : Char}
    (h : player.advance = (.typed c, player')) : player'.line = player.line.push c := by
  obtain ⟨other, before⟩ := advance_eq_typed h
  rw [line, before, List.rtakeWhile_concat_pos _ _ _ (by simpa using other), line,
    ← String.toList_inj]
  simp

theorem line_of_lineDone {player player' : Autocode} (h : player.advance = (.lineDone, player')) :
    player'.line = "" := by
  unfold advance at h
  split at h
  · cases h
  · next c here =>
    split at h
    · next newline =>
      cases h
      rw [line, List.take_add_one, here, newline]
      simp
    · cases h

theorem tidy_line (player : Autocode) : Tidy player.line := by
  have within : (program.toList.take player.cursor).rtakeWhile (fun c => c ≠ '\n') <:+:
      program.toList :=
    (List.rtakeWhile_suffix _ _).isInfix.trans (List.take_prefix _ _).isInfix
  refine ⟨?_, fun c hc => ?_⟩
  · have whole : program.toList.length ≤ Session.inputLimit := by decide
    rw [line, String.length_ofList]
    exact within.length_le.trans whole
  · have letters : (program.toList.all fun c => c == '\n' || !Text.isControl c) = true := by decide
    rw [line, String.toList_ofList] at hc
    have other : c ≠ '\n' := by simpa using List.mem_rtakeWhile_imp hc
    simpa [other] using List.all_eq_true.mp letters c (within.subset hc)

end Autocode

namespace Session

/-- While autocode is active, the input is the part of the current line that it has typed. -/
def Plays (s : Session) : Prop :=
  s.halted = false → ∀ player, s.mode = .autocoding player → s.input = player.line

theorem ModeChange.entered {mode : Mode} {t : Session} (h : ModeChange mode t)
    (awake : ∀ player, mode ≠ .autocoding player) {player : Autocode}
    (after : t.mode = .autocoding player) : player = .start ∧ t.input = "" := by
  cases h with
  | stay same => exact absurd (same.symm.trans after) (awake player)
  | autocode _ entered cleared =>
    cases entered.symm.trans after
    exact ⟨rfl, cleared⟩
  | type before => exact absurd before (awake _)
  | edit _ other | record _ other | play _ other | leave _ other | collect _ other
  | name _ other | guess _ other => cases other.symm.trans after

theorem step_input_of_isTimer {event : Event} (h : event.IsTimer) (s : Session) :
    (s.step event).input = s.input ∧ (s.step event).halted = s.halted ∨
      (s.step event).input = "" ∧ (s.step event).halted = true := by
  cases event with
  | key | command => cases h
  | tickLoading =>
    simp only [step, tickLoading]
    split
    · exact .inl ⟨rfl, rfl⟩
    · split <;> exact .inl ⟨rfl, rfl⟩
  | stopLoading =>
    simp only [step, stopLoading]
    split <;> exact .inl ⟨rfl, rfl⟩
  | tickColor =>
    simp only [step, tickColor]
    split <;> exact .inl ⟨rfl, rfl⟩
  | stepShutdown =>
    simp only [step, stepShutdown]
    split
    · exact .inl ⟨rfl, rfl⟩
    · split
      · exact .inl ⟨rfl, rfl⟩
      · exact .inr ⟨rfl, rfl⟩

theorem live_of_step {s : Session} {event : Event} (live : (s.step event).halted = false) :
    s.halted = false := by
  cases event using Event.byTimer with
  | key key => exact (s.handleKey_halted key).symm.trans live
  | command line => exact (s.runCommand_halted line).symm.trans live
  | timer event timer =>
    rcases step_input_of_isTimer timer s with ⟨-, same⟩ | ⟨-, halted⟩
    · exact same.symm.trans live
    · cases halted.symm.trans live

theorem live_of_run {s : Session} {events : List Event} (live : (s.run events).halted = false) :
    s.halted = false := by
  induction events generalizing s with
  | nil => exact live
  | cons event rest ih => exact live_of_step (ih live)

theorem escape_of_autocoding {s : Session} {player : Autocode}
    (playing : s.mode = .autocoding player) : s.escape.session.mode = .normal := by
  simp [escape, playing, cancelMode, cancelled?, leaveMode, print]

theorem Plays.of_same {s t : Session} (h : s.Plays) (line : t.input = s.input)
    (mode : t.mode = s.mode) (halted : t.halted = s.halted) : t.Plays := by
  intro live player after
  rw [line]
  exact h (halted.symm.trans live) player (mode.symm.trans after)

theorem Plays.of_awake {s t : Session} (change : ModeChange s.mode t)
    (awake : ∀ player, s.mode ≠ .autocoding player) : t.Plays := by
  intro _ player after
  obtain ⟨rfl, empty⟩ := change.entered awake after
  rw [empty, Autocode.line_start]

theorem playAutocode_plays {s : Session} {player : Autocode} (typed : s.input = player.line) :
    (s.playAutocode player).session.Plays := by
  unfold playAutocode
  split
  · next c player' advanced =>
    rintro _ _ ⟨⟩
    rw [Autocode.line_of_typed advanced, ← typed]
  · next player' advanced =>
    rintro _ _ ⟨⟩
    exact (Autocode.line_of_lineDone advanced).symm
  · rintro _ _ ⟨⟩

theorem Plays.handleKey {s : Session} (h : s.Plays) {player : Autocode}
    (playing : s.mode = .autocoding player) (key : Key) : (s.handleKey key).session.Plays := by
  cases live : s.halted with
  | true =>
    rw [handleKey_of_halted live]
    exact h
  | false =>
    by_cases escape : key = .escape
    · intro _ other after
      have left : (s.handleKey key).session.mode = .normal := by
        rw [escape, handleKey_escape live]
        exact escape_of_autocoding playing
      cases left.symm.trans after
    · rw [handleKey_of_autocoding live playing escape]
      exact playAutocode_plays (h live player playing)

theorem Plays.step {s : Session} (h : s.Plays) (event : Event) : (s.step event).Plays := by
  by_cases awake : ∀ player, s.mode ≠ .autocoding player
  · exact .of_awake (s.step_modeChange event) awake
  · simp only [not_forall, not_not] at awake
    obtain ⟨player, playing⟩ := awake
    by_cases timer : event.IsTimer
    · rcases step_input_of_isTimer timer s with ⟨line, halted⟩ | ⟨-, halted⟩
      · exact h.of_same line (step_mode_of_isTimer timer s) halted
      · intro live
        cases halted.symm.trans live
    · cases event with
      | tickLoading | stopLoading | tickColor | stepShutdown => exact absurd trivial timer
      | command line =>
        have active : s.mode ≠ .normal := by simp [playing]
        obtain ⟨mode, input⟩ := runCommand_keyboard active line
        rw [step_command]
        exact h.of_same input mode (s.runCommand_halted line)
      | key key => exact h.handleKey playing key

inductive LineChange (s t : Session) : Prop
  | keep (same : t.input = s.input)
  | clear (empty : t.input = "")
  | ask (prompted : t.input = namePrompt)
  | edit {key : Key} (edits : key.Edits) (typed : t.input = typedLine s.input [key])
  | play {player : Autocode} (live : t.halted = false) (playing : t.mode = .autocoding player)

theorem runCommand_input (s : Session) (line : String) :
    (s.runCommand line).session.input = s.input ∨ (s.runCommand line).session.input = "" := by
  cases hm : (Command.parse line).modal? with
  | none => exact .inl (runCommand_keyboard_of_not_modal s hm).2
  | some m =>
    by_cases normal : s.mode = .normal
    · have gate : s.gate? line = none := by
        rw [gate?, hm, Option.bind_some, refusal?_of_normal normal]
      cases hr : ((Command.parse line).execute s.toSurroundings).request with
      | none =>
        rw [runCommand_of_gate? gate, (dispatch_of_no_request hr).1]
        exact .inl (absorb_input s _)
      | some r =>
        obtain ⟨_, _, _, -, -, -, entered⟩ :=
          enters_of_gate? gate hr ((Command.request_modal hr).trans hm)
        rw [entered]
        exact .inr rfl
    · exact .inl (runCommand_keyboard normal line).2

theorem escape_keyboard (s : Session) :
    (s.escape.session.mode = s.mode ∨ s.escape.session.mode = .normal) ∧
      (s.escape.session.input = s.input ∨ s.escape.session.input = "") := by
  have cancelled : (s.cancelMode.session.mode = s.mode ∨ s.cancelMode.session.mode = .normal) ∧
      (s.cancelMode.session.input = s.input ∨ s.cancelMode.session.input = "") := by
    unfold cancelMode
    split
    · exact ⟨.inr rfl, .inr rfl⟩
    · exact ⟨.inl rfl, .inl rfl⟩
  unfold escape
  split
  · exact cancelled
  · exact ⟨.inl rfl, .inr rfl⟩
  · exact cancelled

theorem submit_input (s : Session) :
    s.submit.session.input = "" ∨ s.submit.session.input = namePrompt := by
  unfold submit
  dsimp only
  split
  · rcases runCommand_input { s with input := "" } s.input with kept | cleared
    · exact .inl kept
    · exact .inl cleared
  · unfold collectLine
    split
    · exact .inr rfl
    · exact .inl rfl
  · unfold nameScript
    dsimp only
    split <;> exact .inl rfl
  · unfold editLine
    split
    · exact .inl rfl
    · split <;> exact .inl rfl
  · unfold guessLine
    dsimp only
    split <;> exact .inl rfl
  · exact .inl rfl

theorem handleKey_lineChange (s : Session) (key : Key) :
    LineChange s (s.handleKey key).session := by
  cases live : s.halted with
  | true =>
    rw [handleKey_of_halted live]
    exact .keep rfl
  | false =>
    by_cases awake : ∀ player, s.mode ≠ .autocoding player
    · rw [handleKey_of_listens ⟨live, awake⟩]
      by_cases edits : key.Edits
      · rw [press_edits edits]
        exact .edit edits rfl
      · cases key with
        | escape => exact s.escape_keyboard.2.elim .keep .clear
        | enter => exact s.submit_input.elim .clear .ask
        | char | backspace | other => exact absurd trivial edits
    · simp only [not_forall, not_not] at awake
      obtain ⟨player, playing⟩ := awake
      by_cases escape : key = .escape
      · rw [escape, handleKey_escape live]
        exact s.escape_keyboard.2.elim .keep .clear
      · rw [handleKey_of_autocoding live playing escape]
        unfold playAutocode
        split
        · exact .play live rfl
        · exact .clear rfl
        · exact .clear rfl

theorem step_lineChange (s : Session) (event : Event) : LineChange s (s.step event) := by
  by_cases timer : event.IsTimer
  · rcases step_input_of_isTimer timer s with ⟨line, -⟩ | ⟨line, -⟩
    · exact .keep line
    · exact .clear line
  · cases event with
    | tickLoading | stopLoading | tickColor | stepShutdown => exact absurd trivial timer
    | command line => exact (s.runCommand_input line).elim .keep .clear
    | key key => exact s.handleKey_lineChange key

theorem LineChange.tidy {s t : Session} (h : LineChange s t) (before : Tidy s.input)
    (plays : t.Plays) : Tidy t.input := by
  cases h with
  | keep same =>
    rw [same]
    exact before
  | clear empty =>
    rw [empty]
    exact tidy_empty
  | ask prompted =>
    rw [prompted]
    exact tidy_namePrompt
  | edit edits typed =>
    rw [typed]
    exact before.typed edits
  | play live playing =>
    rw [plays live _ playing]
    exact Autocode.tidy_line _

end Session

def Mode.recorded : Mode → List String
  | .collecting lines | .naming lines => lines
  | .normal | .editing _ | .guessing _ | .autocoding _ => []

namespace Session

/-- A line is added to a script only by entering it. -/
theorem step_collects {s : Session} {event : Event} {lines : List String} {line : String}
    (before : s.mode = .collecting lines)
    (after : (s.step event).mode = .collecting (lines ++ [line])) : line = Text.trim s.input := by
  have moved : (s.step event).mode ≠ s.mode := by
    rw [before, after]
    simp
  have awake : ¬event.IsTimer := fun timer => moved (step_mode_of_isTimer timer s)
  cases event with
  | tickLoading | stopLoading | tickColor | stepShutdown => exact absurd trivial awake
  | command text =>
    have active : s.mode ≠ .normal := by simp [before]
    rw [step_command] at moved
    exact absurd (runCommand_keyboard active text).1 moved
  | key key =>
    rw [step_key] at after moved
    cases s.handleKey_pressed key with
    | play playing => cases playing.symm.trans before
    | edit input same =>
      rw [same] at moved
      exact absurd rfl moved
    | escape same =>
      rw [same] at after moved
      have left := s.escape_keyboard.1.resolve_left moved
      cases left.symm.trans after
    | submit same =>
      simp only [same, submit, before, collectLine] at after
      split at after
      · cases after
      · simpa [print, eq_comm] using after

theorem step_recorded (s : Session) (event : Event) :
    (s.step event).mode.recorded = s.mode.recorded ∨ (s.step event).mode.recorded = [] ∨
      (s.step event).mode.recorded = s.mode.recorded ++ [Text.trim s.input] := by
  cases s.step_modeChange event with
  | stay same => exact .inl (congrArg Mode.recorded same)
  | name before after => exact .inl (by rw [before, after]; rfl)
  | collect before after =>
    refine .inr (.inr ?_)
    rw [after, before, step_collects before after]
    rfl
  | edit _ after | record _ after | play _ after | autocode _ after | leave _ after
  | guess _ after | type _ after => exact .inr (.inl (congrArg Mode.recorded after))

structure KeepsTidy (s : Session) : Prop where
  line : Tidy s.input
  plays : s.Plays
  recorded : ∀ line ∈ s.mode.recorded, Text.ControlFree line

theorem keepsTidy_start (files : FileSystem) (random : Chance) (clock : Clock) :
    (start files random clock).KeepsTidy := ⟨tidy_empty, nofun, nofun⟩

theorem KeepsTidy.step {s : Session} (h : s.KeepsTidy) (event : Event) :
    (s.step event).KeepsTidy := by
  refine ⟨(s.step_lineChange event).tidy h.line (h.plays.step event), h.plays.step event, ?_⟩
  intro line hl
  rcases s.step_recorded event with same | none | more
  · rw [same] at hl
    exact h.recorded line hl
  · rw [none] at hl
    cases hl
  · rw [more, List.mem_append, List.mem_singleton] at hl
    rcases hl with hl | rfl
    · exact h.recorded line hl
    · exact fun c hc => h.line.free c (Text.mem_of_mem_trim hc)

theorem KeepsTidy.run {s : Session} (h : s.KeepsTidy) (events : List Event) :
    (s.run events).KeepsTidy := by
  induction events generalizing s with
  | nil => exact h
  | cons event rest ih =>
    rw [run_cons]
    exact ih (h.step event)

theorem Reachable.keepsTidy {s : Session} (h : Reachable s) : s.KeepsTidy := by
  induction h with
  | start files random clock => exact keepsTidy_start files random clock
  | step event _ ih => exact ih.step event

/-- Enter passes a line to the handler of the active mode, and answers with its reply. -/
inductive Handed (s : Session) (line : String) : Reply (Option Effect) → Prop
  | command (mode : s.mode = .normal) : Handed s line (s.runCommand line)
  | recorded {lines : List String} (mode : s.mode = .collecting lines) :
    Handed s line (s.collectLine lines line)
  | name {lines : List String} (mode : s.mode = .naming lines) :
    Handed s line (s.nameScript lines line)
  | appended {handle : EditHandle} (mode : s.mode = .editing handle) :
    Handed s line (s.editLine handle line)
  | guess {game : GuessGame} (mode : s.mode = .guessing game) :
    Handed s line (s.guessLine game line)

theorem handed_enter {s : Session} (h : s.Listens) :
    Handed { s with input := "" } s.input (s.handleKey .enter) := by
  rw [handleKey_of_listens h, press, submit]
  cases mode : s.mode with
  | autocoding player => exact absurd mode (h.awake player)
  | normal => exact .command rfl
  | collecting lines => exact .recorded rfl
  | naming lines => exact .name rfl
  | editing handle => exact .appended rfl
  | guessing game => exact .guess rfl

theorem newline_not_mem {text : String} (h : Text.ControlFree text) : '\n' ∉ text.toList := by
  intro newline
  exact absurd (h '\n' newline) (by decide)

/-- In every run the input has at most 800 characters and no control character. Hence every line
passed by Enter to the handler of a mode is free of line breaks, and so is every line of a script
being recorded. -/
theorem run_keeps_line_tidy (files : FileSystem) (random : Chance) (clock : Clock)
    (events : List Event) :
    let s := (start files random clock).run events
    s.input.length ≤ 800 ∧ (∀ c ∈ s.input.toList, Text.isControl c = false) ∧
      (s.halted = false → (∀ player, s.mode ≠ .autocoding player) →
        Handed { s with input := "" } s.input (s.handleKey .enter) ∧ '\n' ∉ s.input.toList) ∧
      ∀ line ∈ s.mode.recorded, '\n' ∉ line.toList := by
  intro s
  have tidy : s.KeepsTidy := (keepsTidy_start files random clock).run events
  refine ⟨tidy.line.short, tidy.line.free, fun live awake => ?_, fun line hl => ?_⟩
  · exact ⟨handed_enter ⟨live, awake⟩, newline_not_mem tidy.line.free⟩
  · exact newline_not_mem (tidy.recorded line hl)

end Session
end VirtualTerminal
