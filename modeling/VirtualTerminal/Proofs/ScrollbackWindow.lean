import VirtualTerminal.Proofs.TextLaws
import VirtualTerminal.Scrollback

/-! # The scrollback as a window

After any calls, the scrollback contains the last rows of all that were pushed since the last
clearing. -/
namespace VirtualTerminal

/-- The rows of a pushed row: a message is cut to the limit, and each of its lines is a row in the
same tone. -/
def Row.shown (maxChars : Nat) : Row → List Row
  | .message tone s =>
    ((s.toList.take maxChars).splitOn '\n').map fun line => .message tone (String.ofList line)
  | row => [row]

theorem Row.shown_message_eq (maxChars : Nat) (tone : Tone) (s : String) :
    (Row.message tone s).shown maxChars =
      (Text.split '\n' (String.ofList (s.toList.take maxChars))).map (.message tone) := by
  rw [shown, Text.split, Text.splitChars_eq_splitOn, String.toList_ofList, List.map_map]
  rfl

theorem Row.of_mem_shown_message {maxChars : Nat} {row : Row} {tone : Tone} {s : String}
    (h : .message tone s ∈ row.shown maxChars) : '\n' ∉ s.toList ∧ s.length ≤ maxChars := by
  cases row with
  | command | entry => simp [shown] at h
  | message tone' text =>
    rw [shown_message_eq] at h
    obtain ⟨line, hl, same⟩ := List.mem_map.mp h
    cases same
    refine ⟨Text.not_mem_of_mem_split hl, ?_⟩
    have short := (Text.sublist_of_mem_split hl).length_le
    rw [String.toList_ofList, List.length_take, String.length_toList] at short
    exact short.trans (Nat.min_le_left _ _)

namespace Scrollback

inductive Call
  | push (row : Row)
  | extend (rows : List Row)
  | clear
  deriving DecidableEq, Repr

def call (log : Scrollback) : Call → Scrollback
  | .push row => log.push row
  | .extend rows => log.extend rows
  | .clear => log.clear

/-- All rows pushed since the last clearing, after one more call. -/
def Call.history (so : List Row) : Call → List Row
  | .push row => so ++ [row]
  | .extend rows => so ++ rows
  | .clear => []

/-- The scrollback with the last of some rows, up to its capacity. -/
def window (capacity maxChars : Nat) (shown : List Row) : Scrollback :=
  ⟨capacity, maxChars, shown.rtake capacity⟩

theorem window_nil (capacity maxChars : Nat) :
    window capacity maxChars [] = ⟨capacity, maxChars, []⟩ := by
  rw [window, List.rtake_nil]

theorem rtake_of_full {shown : List Row} {room : Nat}
    (full : (shown.rtake (room + 1)).length = room + 1) :
    (shown.rtake (room + 1)).drop 1 = shown.rtake room := by
  rw [List.rtake, List.length_drop] at full
  rw [List.rtake, List.rtake, List.drop_drop]
  congr 1
  omega

theorem rtake_of_not_full {shown : List Row} {room : Nat}
    (space : (shown.rtake (room + 1)).length ≠ room + 1) :
    shown.rtake (room + 1) = shown.rtake room := by
  rw [List.rtake, List.length_drop] at space
  rw [List.rtake, List.rtake]
  congr 1
  omega

theorem pushRow_window {capacity : Nat} (room : 0 < capacity) (maxChars : Nat) (shown : List Row)
    (row : Row) :
    (window capacity maxChars shown).pushRow row =
      window capacity maxChars (shown ++ [row]) := by
  obtain ⟨others, rfl⟩ := Nat.exists_eq_succ_of_ne_zero (Nat.ne_of_gt room)
  unfold pushRow window
  rw [List.rtake_concat_succ]
  dsimp only
  split
  · next full => rw [rtake_of_full full]
  · next space => rw [rtake_of_not_full space]

theorem pushRows_window {capacity : Nat} (room : 0 < capacity) (maxChars : Nat)
    (shown rows : List Row) :
    rows.foldl pushRow (window capacity maxChars shown) =
      window capacity maxChars (shown ++ rows) := by
  induction rows generalizing shown with
  | nil => rw [List.append_nil, List.foldl_nil]
  | cons row rest ih =>
    rw [List.foldl_cons, pushRow_window room, ih, List.append_assoc, List.singleton_append]

/-- A message stored whole has the same rows as its lines stored one by one. -/
theorem push_eq (log : Scrollback) (row : Row) :
    log.push row = (row.shown log.maxChars).foldl pushRow log := by
  cases row with
  | command | entry => rfl
  | message tone s =>
    rw [Row.shown_message_eq, List.foldl_map]
    unfold push
    dsimp only
    split
    · next whole =>
      obtain ⟨uncut, oneLine⟩ := whole
      rw [uncut, Text.split_of_not_mem oneLine]
      rfl
    · rfl

theorem push_window {capacity : Nat} (room : 0 < capacity) (maxChars : Nat) (shown : List Row)
    (row : Row) :
    (window capacity maxChars shown).push row =
      window capacity maxChars (shown ++ row.shown maxChars) := by
  rw [push_eq, pushRows_window room]
  rfl

theorem extend_window {capacity : Nat} (room : 0 < capacity) (maxChars : Nat)
    (shown rows : List Row) :
    (window capacity maxChars shown).extend rows =
      window capacity maxChars (shown ++ rows.flatMap (Row.shown maxChars)) := by
  unfold extend
  induction rows generalizing shown with
  | nil => rw [List.flatMap_nil, List.append_nil, List.foldl_nil]
  | cons row rest ih =>
    rw [List.foldl_cons, push_window room, ih, List.append_assoc, List.flatMap_cons]

theorem call_window {capacity : Nat} (room : 0 < capacity) (maxChars : Nat) (history : List Row)
    (call : Call) :
    (window capacity maxChars (history.flatMap (Row.shown maxChars))).call call =
      window capacity maxChars ((call.history history).flatMap (Row.shown maxChars)) := by
  cases call with
  | push row =>
    rw [Call.history, List.flatMap_append, List.flatMap_singleton]
    exact push_window room maxChars _ row
  | extend rows =>
    rw [Call.history, List.flatMap_append]
    exact extend_window room maxChars _ rows
  | clear =>
    rw [Call.history, List.flatMap_nil, window_nil]
    rfl

theorem calls_window {capacity : Nat} (room : 0 < capacity) (maxChars : Nat) (history : List Row)
    (calls : List Call) :
    calls.foldl call (window capacity maxChars (history.flatMap (Row.shown maxChars))) =
      window capacity maxChars
        ((calls.foldl Call.history history).flatMap (Row.shown maxChars)) := by
  induction calls generalizing history with
  | nil => rfl
  | cons first rest ih => rw [List.foldl_cons, call_window room, ih, List.foldl_cons]

/-- After any calls, the rows are the last ones of those pushed since the last clearing, up to the
capacity, which is at least one. Hence no message row has a line break or more characters than the
limit, whether a message is stored whole or line by line. -/
theorem rows_are_last_shown (capacity maxChars : Nat) (calls : List Call) :
    let log := calls.foldl call (new capacity maxChars)
    log.rows =
        ((calls.foldl Call.history []).flatMap (Row.shown maxChars)).rtake (max capacity 1) ∧
      log.rows.length ≤ max capacity 1 ∧
      (∀ tone s, .message tone s ∈ log.rows → '\n' ∉ s.toList ∧ s.length ≤ maxChars) ∧
      ∀ row, log.push row = (row.shown maxChars).foldl pushRow log := by
  intro log
  have room : 0 < max capacity 1 := Nat.lt_of_lt_of_le Nat.one_pos (Nat.le_max_right capacity 1)
  have whole : log = window (max capacity 1) maxChars
      ((calls.foldl Call.history []).flatMap (Row.shown maxChars)) := by
    rw [← calls_window room, List.flatMap_nil, window_nil]
    rfl
  have rows : log.rows =
      ((calls.foldl Call.history []).flatMap (Row.shown maxChars)).rtake (max capacity 1) := by
    rw [whole]
    rfl
  refine ⟨rows, ?_, fun tone s stored => ?_, fun row => ?_⟩
  · rw [rows, List.rtake, List.length_drop]
    omega
  · rw [rows] at stored
    obtain ⟨pushed, -, shown⟩ := List.mem_flatMap.mp (List.mem_of_mem_drop stored)
    exact Row.of_mem_shown_message shown
  · have cut : log.maxChars = maxChars := by
      rw [whole]
      rfl
    rw [push_eq, cut]

/-- A message cut directly after a line break ends in an empty row. -/
example : ((new 2 3).push (.error "ab\ncd")).rows = [.error "ab", .error ""] := by decide

end Scrollback
end VirtualTerminal
