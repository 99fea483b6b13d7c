import Mathlib.Data.List.Induction
import VirtualTerminal.Proofs.Typing

/-! # Editing the line

Between two lines the keys change the input as a stack of characters, and nothing else changes. In
the normal mode Enter runs the input as a command. -/
namespace VirtualTerminal

def Key.Edits : Key → Prop
  | .char _ | .backspace | .other => True
  | .enter | .escape => False

/-- A stack of typed characters, the last one on top. It accepts no control character, and none at
all when it is full. -/
def Key.stack (typed : List Char) : Key → List Char
  | .char c =>
    if Text.isControl c ∨ Session.inputLimit ≤ typed.length then typed else c :: typed
  | .backspace => typed.tail
  | .enter | .escape | .other => typed

def typedLine (line : String) (keys : List Key) : String :=
  String.ofList (keys.foldl Key.stack line.toList.reverse).reverse

theorem typedLine_nil (line : String) : typedLine line [] = line := by
  simp [typedLine]

theorem typedLine_concat (line : String) (keys : List Key) (key : Key) :
    typedLine line (keys ++ [key]) = typedLine (typedLine line keys) [key] := by
  simp [typedLine]

theorem typedLine_other (line : String) : typedLine line [.other] = line := by
  simp [typedLine, Key.stack]

theorem typedLine_backspace (line : String) :
    typedLine line [.backspace] = String.ofList line.toList.dropLast := by
  simp [typedLine, Key.stack]

theorem typedLine_char (line : String) (c : Char) :
    typedLine line [.char c] =
      if Text.isControl c ∨ Session.inputLimit ≤ line.length then line else line.push c := by
  rw [← String.toList_inj, typedLine, List.foldl_cons, List.foldl_nil, Key.stack,
    List.length_reverse, String.length_toList, String.toList_ofList]
  split <;> simp

theorem stack_chars (cs typed : List Char) :
    (cs.map Key.char).foldl Key.stack typed =
      ((cs.filter fun c => !Text.isControl c).take (Session.inputLimit - typed.length)).reverse ++
        typed := by
  induction cs generalizing typed with
  | nil => simp
  | cons c rest ih =>
    rw [List.map_cons, List.foldl_cons, ih]
    by_cases control : Text.isControl c = true
    · have ignored : Key.stack typed (.char c) = typed := by simp [Key.stack, control]
      rw [ignored, List.filter_cons_of_neg (by simpa using control)]
    · have kept : (c :: rest).filter (fun c => !Text.isControl c) =
          c :: rest.filter fun c => !Text.isControl c :=
        List.filter_cons_of_pos (by simpa using control)
      rw [kept]
      by_cases full : Session.inputLimit ≤ typed.length
      · have ignored : Key.stack typed (.char c) = typed := by simp [Key.stack, full]
        have none : Session.inputLimit - typed.length = 0 := Nat.sub_eq_zero_of_le full
        rw [ignored, none, List.take_zero, List.take_zero]
      · have pushed : Key.stack typed (.char c) = c :: typed := by simp [Key.stack, control, full]
        have room : Session.inputLimit - typed.length =
            (Session.inputLimit - (c :: typed).length) + 1 := by
          simp only [List.length_cons]
          omega
        rw [pushed, room, List.take_succ_cons]
        simp

theorem typedLine_keysOf (text : String) :
    typedLine "" (Session.keysOf text) = String.ofList
      ((text.toList.filter fun c => !Text.isControl c).take Session.inputLimit) := by
  have empty : "".toList.reverse = [] := rfl
  rw [typedLine, Session.keysOf, empty, stack_chars]
  simp

namespace Session

theorem handleKeys_concat (s : Session) (keys : List Key) (key : Key) :
    s.handleKeys (keys ++ [key]) =
      { (s.handleKeys keys).session.handleKey key with
        records := (s.handleKeys keys).records ++
          ((s.handleKeys keys).session.handleKey key).records } := by
  induction keys generalizing s with
  | nil => rfl
  | cons first rest ih =>
    cases rest with
    | nil => rfl
    | cons second more =>
      have later := ih (s.handleKey first).session
      simp only [List.cons_append, handleKeys] at later ⊢
      rw [later]
      simp

theorem press_edits {s : Session} {key : Key} (edits : key.Edits) :
    s.press key = ⟨{ s with input := typedLine s.input [key] }, none, []⟩ := by
  cases key with
  | enter | escape => cases edits
  | other => rw [typedLine_other]; rfl
  | backspace => rw [typedLine_backspace]; rfl
  | char c =>
    rw [typedLine_char, press, insertChar]
    split <;> rfl

theorem handleKeys_edits {s : Session} (h : s.Listens) {keys : List Key}
    (edits : ∀ key ∈ keys, key.Edits) :
    s.handleKeys keys = ⟨{ s with input := typedLine s.input keys }, none, []⟩ := by
  induction keys using List.reverseRecOn with
  | nil => rw [typedLine_nil]; rfl
  | append_singleton keys key ih =>
    have before := ih fun earlier he => edits earlier (List.mem_append_left _ he)
    have listens : ({ s with input := typedLine s.input keys } : Session).Listens :=
      ⟨h.live, h.awake⟩
    have last : key.Edits := edits key (by simp)
    rw [handleKeys_concat, before, handleKey_of_listens listens, press_edits last,
      typedLine_concat]
    rfl

/-- While the session is not halted and autocode is not active, any characters, Backspaces and other
keys change only the input, as a bounded stack of characters, and have no effect. In the normal
mode, a following Enter runs the input as a command in the same session with empty input; hence
typing a text into empty input and pressing Enter is running the first 800 of its characters that
are not control characters. -/
theorem typing_is_running {s : Session} (live : s.halted = false)
    (awake : ∀ player, s.mode ≠ .autocoding player) {keys : List Key}
    (edits : ∀ key ∈ keys, key.Edits) :
    let line := typedLine s.input keys
    s.handleKeys keys = ⟨{ s with input := line }, none, []⟩ ∧
      (∀ before, before <+: keys → (s.handleKeys before).answer = none) ∧
      (s.mode = .normal →
        s.handleKeys (keys ++ [.enter]) = ({ s with input := "" } : Session).runCommand line ∧
          (s.input = "" → ∀ text, s.enterLine text = s.runCommand
            (String.ofList ((text.toList.filter fun c => !Text.isControl c).take 800)))) := by
  intro line
  have listens : s.Listens := ⟨live, awake⟩
  have entered (more : List Key) (edits : ∀ key ∈ more, key.Edits) (normal : s.mode = .normal) :
      s.handleKeys (more ++ [.enter]) =
        ({ s with input := "" } : Session).runCommand (typedLine s.input more) := by
    rw [handleKeys_concat, handleKeys_edits listens edits]
    exact handleKey_enter_of_normal live normal
  refine ⟨handleKeys_edits listens edits, fun before hb => ?_, fun normal => ⟨?_, ?_⟩⟩
  · rw [handleKeys_edits listens fun key hk => edits key (hb.subset hk)]
  · exact entered keys edits normal
  · intro empty text
    have chars : ∀ key ∈ keysOf text, key.Edits := by
      intro key hk
      obtain ⟨c, -, rfl⟩ := List.mem_map.mp hk
      trivial
    have same : { s with input := "" } = s := by rw [← empty]
    rw [enterLine, entered (keysOf text) chars normal, same, empty, typedLine_keysOf]
    rfl

/-- A line with an ignored tab and an erased character. -/
theorem typing_is_running_corrected :
    let s := start .empty (.ofWords [7]) "noon"
    let keys : List Key := [.char 'l', .char '\t', .char 'x', .backspace, .other, .char 's']
    s.halted = false ∧ (∀ player, s.mode ≠ .autocoding player) ∧ (∀ key ∈ keys, key.Edits) ∧
      s.handleKeys (keys ++ [.enter]) = s.runCommand "ls" ∧
      s.enterLine "l\ts" = s.runCommand "ls" := by
  intro s keys
  have awake : ∀ player, s.mode ≠ .autocoding player := nofun
  have edits : ∀ key ∈ keys, key.Edits := by simp [keys, Key.Edits]
  obtain ⟨-, -, normal⟩ := typing_is_running (s := s) rfl awake edits
  obtain ⟨entered, typed⟩ := normal rfl
  have line : typedLine s.input keys = "ls" := by decide
  rw [line] at entered
  exact ⟨rfl, awake, edits, entered, typed rfl "l\ts"⟩

end Session
end VirtualTerminal
