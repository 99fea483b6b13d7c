import VirtualTerminal.Proofs.Commands

/-! # Typing

Keys that type a text append it to the input within its limit; Enter passes the input to the active
mode. -/
namespace VirtualTerminal

def Text.ControlFree (text : String) : Prop := ∀ c ∈ text.toList, isControl c = false

instance (text : String) : Decidable (Text.ControlFree text) :=
  List.decidableBAll (fun c => Text.isControl c = false) text.toList

namespace Session

def press (s : Session) : Key → Reply (Option Effect)
  | .escape => s.escape
  | .enter => s.submit
  | .backspace => ⟨s.eraseLast, none, []⟩
  | .char c => ⟨s.insertChar c, none, []⟩
  | .other => ⟨s, none, []⟩

/-- The result of a key; every key but Enter and Escape only edits the input, unless autocode is
active. -/
inductive Pressed (s : Session) (reply : Reply (Option Effect)) : Prop
  | escape (same : reply = s.escape)
  | play {player : Autocode} (playing : s.mode = .autocoding player)
      (same : reply = s.playAutocode player)
  | submit (same : reply = s.submit)
  | edit (input : String) (same : reply = ⟨{ s with input := input }, none, []⟩)

theorem handleKey_pressed (s : Session) (key : Key) : s.Pressed (s.handleKey key) := by
  unfold handleKey
  split
  · exact .edit s.input rfl
  · split
    · exact .escape rfl
    · next player playing => exact .play playing rfl
    · exact .submit rfl
    · exact .edit _ rfl
    · next c _ =>
      unfold insertChar
      split
      · exact .edit s.input rfl
      · exact .edit _ rfl
    · exact .edit s.input rfl

theorem handleKey_of_halted {s : Session} (halted : s.halted = true) (key : Key) :
    s.handleKey key = ⟨s, none, []⟩ := by
  unfold handleKey
  exact if_pos halted

theorem handleKey_escape {s : Session} (live : s.halted = false) :
    s.handleKey .escape = s.escape := by
  unfold handleKey
  rw [if_neg (Bool.eq_false_iff.mp live)]

theorem handleKey_of_autocoding {s : Session} {player : Autocode} (live : s.halted = false)
    (playing : s.mode = .autocoding player) {key : Key} (h : key ≠ .escape) :
    s.handleKey key = s.playAutocode player := by
  unfold handleKey
  rw [if_neg (Bool.eq_false_iff.mp live)]
  cases key with
  | escape => exact absurd rfl h
  | char | enter | backspace | other => simp only [playing]

/-- Keys edit the input: the session is not halted, and autocode is not active. -/
structure Listens (s : Session) : Prop where
  live : s.halted = false
  awake : ∀ player, s.mode ≠ .autocoding player

theorem Listens.of_mode {s : Session} {mode : Mode} (live : s.halted = false) (h : s.mode = mode)
    (awake : ∀ player, mode ≠ .autocoding player) : s.Listens := ⟨live, h ▸ awake⟩

theorem handleKey_of_listens {s : Session} (h : s.Listens) (key : Key) :
    s.handleKey key = s.press key := by
  have live : ¬ s.halted = true := Bool.eq_false_iff.mp h.live
  unfold handleKey
  rw [if_neg live]
  cases key with
  | escape => rfl
  | enter | backspace | char | other =>
    cases mode : s.mode with
    | autocoding player => exact absurd mode (h.awake player)
    | normal | editing | collecting | naming | guessing => rfl

theorem step_key_of_listens {s : Session} (h : s.Listens) (key : Key) :
    s.step (.key key) = (s.press key).session := by
  rw [step, handleKey_of_listens h]

theorem handleKey_enter_of_normal {s : Session} (live : s.halted = false)
    (normal : s.mode = .normal) :
    s.handleKey .enter = ({ s with input := "" } : Session).runCommand s.input := by
  rw [handleKey_of_listens (.of_mode live normal nofun), press, submit]
  simp only [normal]

theorem insertChar_of_room {s : Session} {c : Char} (hc : Text.isControl c = false)
    (room : s.input.length < inputLimit) : s.insertChar c = { s with input := s.input.push c } := by
  have taken : ¬ (Text.isControl c = true ∨ inputLimit ≤ s.input.length) := by
    simp [hc, room]
  rw [insertChar, if_neg taken]

theorem run_append (s : Session) (events events' : List Event) :
    s.run (events ++ events') = (s.run events).run events' := List.foldl_append

theorem run_chars {s : Session} (h : s.Listens) {cs : List Char}
    (free : ∀ c ∈ cs, Text.isControl c = false) (fits : s.input.length + cs.length ≤ inputLimit) :
    s.run (cs.map fun c => .key (.char c)) = { s with input := s.input ++ String.ofList cs } := by
  induction cs generalizing s with
  | nil => simp [run]
  | cons c rest ih =>
    have room : s.input.length < inputLimit := by
      simp only [List.length_cons] at fits
      omega
    have typed : s.step (.key (.char c)) = { s with input := s.input.push c } := by
      rw [step_key_of_listens h]
      exact insertChar_of_room (free c List.mem_cons_self) room
    have joined : s.input.push c ++ String.ofList rest = s.input ++ String.ofList (c :: rest) := by
      simp [← String.toList_inj]
    rw [List.map_cons, run_cons, typed, ih]
    · rw [joined]
    · exact ⟨h.live, h.awake⟩
    · exact fun other ho => free other (List.mem_cons_of_mem _ ho)
    · simp only [String.length_push, List.length_cons] at fits ⊢
      omega

def entering (text : String) : List Event := (keysOf text ++ [Key.enter]).map Event.key

theorem run_entering {s : Session} (h : s.Listens) {text : String} (free : Text.ControlFree text)
    (fits : s.input.length + text.length ≤ inputLimit) :
    s.run (entering text) = ({ s with input := s.input ++ text } : Session).submit.session := by
  have typed := run_chars h free (by rwa [String.length_toList])
  rw [String.ofList_toList] at typed
  have listens : ({ s with input := s.input ++ text } : Session).Listens := ⟨h.live, h.awake⟩
  rw [entering, keysOf, List.map_append, List.map_map, run_append]
  exact (congrArg (fun t => run t [.key .enter]) typed).trans (step_key_of_listens listens .enter)

theorem run_entering_of_empty {s : Session} (h : s.Listens) (empty : s.input = "") {text : String}
    (free : Text.ControlFree text) (fits : text.length ≤ inputLimit) :
    s.run (entering text) = ({ s with input := text } : Session).submit.session := by
  rw [run_entering h free (by simpa [empty] using fits), empty, String.empty_append]

theorem run_entering_of_normal {s : Session} (live : s.halted = false) (normal : s.mode = .normal)
    (empty : s.input = "") {text : String} (free : Text.ControlFree text)
    (fits : text.length ≤ inputLimit) : s.run (entering text) = (s.runCommand text).session := by
  have listens : s.Listens := .of_mode live normal nofun
  have same : { s with input := "" } = s := by rw [← empty]
  rw [run_entering_of_empty listens empty free fits, submit]
  simp only [normal]
  rw [← normal, same]

/-- The command run by an event: that of a command line, or that of the input passed by Enter in the
normal mode. -/
def command? (s : Session) : Event → Option Command
  | .command line => some (.parse line)
  | .key .enter => if s.halted = false ∧ s.mode = .normal then some (.parse s.input) else none
  | _ => none

/-- The session in which the command of an event is run: a typed line has been taken from the input.
-/
def handing (s : Session) : Event → Session
  | .key _ => { s with input := "" }
  | _ => s

def effect? (s : Session) : Event → Option Effect
  | .key key => (s.handleKey key).answer
  | .command line => (s.runCommand line).answer
  | _ => none

theorem runs_of_command? {s : Session} {event : Event} {c : Command}
    (h : s.command? event = some c) :
    ∃ line, Command.parse line = c ∧ s.step event = ((s.handing event).runCommand line).session ∧
      s.effect? event = ((s.handing event).runCommand line).answer := by
  cases event with
  | command line => exact ⟨line, Option.some.inj h, rfl, rfl⟩
  | tickLoading | stopLoading | tickColor | stepShutdown => cases h
  | key key =>
    cases key with
    | char | backspace | escape | other => cases h
    | enter =>
      simp only [command?] at h
      split at h
      · next listening =>
        obtain ⟨live, normal⟩ := listening
        have handed := handleKey_enter_of_normal live normal
        refine ⟨s.input, Option.some.inj h, ?_, ?_⟩
        · exact congrArg Reply.session handed
        · exact congrArg Reply.answer handed
      · cases h

end Session
end VirtualTerminal
