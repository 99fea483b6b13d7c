import VirtualTerminal.Demo.Guess

/-! # Guessed numbers

A line is judged as a number exactly when it is a decimal numeral from 1 to 100. A numeral that
exceeds 32 bits is out of range, and leading zeros never make a numeral exceed them. -/
namespace VirtualTerminal

namespace Text

/-- The text is a decimal numeral of the number: digits, with one plus sign before them or none. -/
def Denotes (s : String) (n : Nat) : Prop :=
  ∃ digits : List Char, digits ≠ [] ∧ (∀ c ∈ digits, c.isDigit = true) ∧
    (s.toList = digits ∨ s.toList = '+' :: digits) ∧ Nat.ofDigitChars 10 digits 0 = n

theorem digitValue?_eq (c : Char) :
    digitValue? c = if c.isDigit then some (c.toNat - '0'.toNat) else none := by
  simp only [digitValue?, Char.isDigit_iff_toNat, Char.le_def, UInt32.le_iff_toNat_le,
    Char.toNat_val]

theorem readDigits_cons (value : Nat) (c : Char) (cs : List Char) :
    readDigits value (c :: cs) =
      if c.isDigit = true ∧ 10 * value + (c.toNat - '0'.toNat) < wordLimit then
        readDigits (10 * value + (c.toNat - '0'.toNat)) cs
      else none := by
  rw [readDigits, digitValue?_eq, Nat.mul_comm value]
  by_cases digit : c.isDigit = true
  · simp only [digit, if_true, true_and]
    generalize c.toNat - '0'.toNat = d
    split
    · next checked => rw [if_pos checked.2]
    · next overflows =>
      have sum : ¬ 10 * value + d < wordLimit := by omega
      rw [if_neg sum]
  · simp [digit]

theorem le_ofDigitChars (value : Nat) (cs : List Char) : value ≤ Nat.ofDigitChars 10 cs value := by
  have scaled : value ≤ 10 ^ cs.length * value :=
    Nat.le_mul_of_pos_left value (Nat.pow_pos (by decide))
  rw [Nat.ofDigitChars_eq_ofDigitChars_zero]
  exact Nat.le_add_right_of_le scaled

/-- The intermediate checks refuse exactly the numbers that do not fit in the end. -/
theorem readDigits_eq_some_iff {value n : Nat} {cs : List Char} (fits : value < wordLimit) :
    readDigits value cs = some n ↔
      (∀ c ∈ cs, c.isDigit = true) ∧ Nat.ofDigitChars 10 cs value = n ∧ n < wordLimit := by
  induction cs generalizing value with
  | nil =>
    simp only [readDigits, Option.some.injEq, Nat.ofDigitChars_nil, List.not_mem_nil,
      false_imp_iff, implies_true, true_and]
    exact ⟨fun same => ⟨same, same ▸ fits⟩, fun same => same.1⟩
  | cons c cs ih =>
    rw [readDigits_cons, List.forall_mem_cons, Nat.ofDigitChars_cons]
    split
    · next checked =>
      rw [ih checked.2]
      simp only [checked.1, true_and]
    · next refused =>
      constructor
      · nofun
      · rintro ⟨⟨digit, -⟩, same, small⟩
        have more := le_ofDigitChars (10 * value + (c.toNat - '0'.toNat)) cs
        exact absurd ⟨digit, Nat.lt_of_le_of_lt (same ▸ more) small⟩ refused

def unsigned : List Char → List Char
  | '+' :: cs => cs
  | cs => cs

theorem unsigned_of_digits {digits : List Char} (h : ∀ c ∈ digits, c.isDigit = true) :
    unsigned digits = digits := by
  unfold unsigned
  split
  · next cs =>
    have sign := h '+' List.mem_cons_self
    exact absurd sign (by decide)
  · rfl

theorem eq_unsigned_or (cs : List Char) : cs = unsigned cs ∨ cs = '+' :: unsigned cs := by
  unfold unsigned
  split
  · exact .inr rfl
  · exact .inl rfl

theorem denotes_iff {s : String} {n : Nat} :
    Denotes s n ↔ unsigned s.toList ≠ [] ∧ (∀ c ∈ unsigned s.toList, c.isDigit = true) ∧
      Nat.ofDigitChars 10 (unsigned s.toList) 0 = n := by
  constructor
  · rintro ⟨digits, filled, all, shape, value⟩
    have same : unsigned s.toList = digits := by
      rcases shape with plain | signed
      · rw [plain, unsigned_of_digits all]
      · rw [signed, unsigned]
    rw [same]
    exact ⟨filled, all, value⟩
  · rintro ⟨filled, all, value⟩
    exact ⟨unsigned s.toList, filled, all, eq_unsigned_or s.toList, value⟩

theorem readNumeral?_eq (s : String) :
    readNumeral? s =
      if unsigned s.toList = [] then none else readDigits 0 (unsigned s.toList) := by
  unfold readNumeral?
  generalize s.toList = cs
  split
  · rfl
  · rfl
  · next cs filled => exact (if_neg filled).symm
  · next empty _ unsignedOnly =>
    have same : unsigned cs = cs := by
      unfold unsigned
      split
      · exact absurd rfl (unsignedOnly _)
      · rfl
    rw [same, if_neg empty]

/-- Reading yields the number of every numeral that fits in 32 bits, and nothing for any other text.
-/
theorem readNumeral?_eq_some_iff {s : String} {n : Nat} :
    readNumeral? s = some n ↔ Denotes s n ∧ n < wordLimit := by
  have zero : 0 < wordLimit := by decide
  rw [readNumeral?_eq, denotes_iff]
  split
  · next empty => simp [empty]
  · next filled =>
    rw [readDigits_eq_some_iff zero]
    simp only [ne_eq, filled, not_false_eq_true, true_and, and_assoc]

theorem toNat_toLower (c : Char) :
    c.toLower.toNat = if 65 ≤ c.toNat ∧ c.toNat ≤ 90 then c.toNat + 32 else c.toNat := by
  have range : c.val ≥ 'A'.val ∧ c.val ≤ 'Z'.val ↔ 65 ≤ c.toNat ∧ c.toNat ≤ 90 := by
    simp only [ge_iff_le, UInt32.le_iff_toNat_le]
    exact Iff.rfl
  unfold Char.toLower
  split
  · next big =>
    have moved : 'a'.val - 'A'.val = 32 := by decide
    have small : c.val.toNat + 32 < 2 ^ 32 := by
      have top := (range.mp big).2
      rw [Char.toNat_val]
      omega
    rw [if_pos (range.mp big), Char.toNat_mk, moved, UInt32.toNat_add]
    exact Nat.mod_eq_of_lt small
  · next other => rw [if_neg (other ∘ range.mpr)]

theorem toLower_eq_iff {c upper lower : Char} (big : 65 ≤ upper.toNat ∧ upper.toNat ≤ 90)
    (pair : upper.toLower = lower) : c.toLower = lower ↔ c = lower ∨ c = upper := by
  subst pair
  rw [← Char.toNat_inj, ← Char.toNat_inj, ← Char.toNat_inj, toNat_toLower, toNat_toLower,
    if_pos big]
  split <;> omega

end Text

namespace GuessGame

def IsQuit (line : String) : Prop :=
  ∃ q u i t : Char, line.toList = [q, u, i, t] ∧ (q = 'q' ∨ q = 'Q') ∧ (u = 'u' ∨ u = 'U') ∧
    (i = 'i' ∨ i = 'I') ∧ (t = 't' ∨ t = 'T')

/-- The line is a numeral of a number that can be guessed. -/
def Guesses (line : String) (n : Nat) : Prop := Text.Denotes line n ∧ 1 ≤ n ∧ n ≤ 100

theorem sameButCase_quit_iff {line : String} :
    Text.sameButCase line "quit" = true ↔ IsQuit line := by
  have letters : "quit".toList.map Char.toLower = ['q', 'u', 'i', 't'] := by decide
  have q {c : Char} : c.toLower = 'q' ↔ c = 'q' ∨ c = 'Q' := Text.toLower_eq_iff (by decide) rfl
  have u {c : Char} : c.toLower = 'u' ↔ c = 'u' ∨ c = 'U' := Text.toLower_eq_iff (by decide) rfl
  have i {c : Char} : c.toLower = 'i' ↔ c = 'i' ∨ c = 'I' := Text.toLower_eq_iff (by decide) rfl
  have t {c : Char} : c.toLower = 't' ↔ c = 't' ∨ c = 'T' := Text.toLower_eq_iff (by decide) rfl
  rw [Text.sameButCase, beq_iff_eq, letters]
  simp only [List.map_eq_cons_iff, List.map_eq_nil_iff, q, u, i, t, IsQuit]
  constructor
  · rintro ⟨q, _, whole, hq, u, _, rfl, hu, i, _, rfl, hi, t, _, rfl, ht, rfl⟩
    exact ⟨q, u, i, t, whole, hq, hu, hi, ht⟩
  · rintro ⟨q, u, i, t, whole, hq, hu, hi, ht⟩
    exact ⟨q, _, whole, hq, u, _, rfl, hu, i, _, rfl, hi, t, _, rfl, ht, rfl⟩

theorem guesses_iff {line : String} {n : Nat} :
    Guesses line n ↔ Text.readNumeral? line = some n ∧ 1 ≤ n ∧ n ≤ 100 := by
  have fits : 100 < Text.wordLimit := by decide
  rw [Guesses, Text.readNumeral?_eq_some_iff]
  constructor
  · rintro ⟨denotes, low, high⟩
    exact ⟨⟨denotes, by omega⟩, low, high⟩
  · rintro ⟨⟨denotes, -⟩, low, high⟩
    exact ⟨denotes, low, high⟩

instance : DecidablePred IsQuit := fun _ => decidable_of_iff _ sameButCase_quit_iff

instance (line : String) (n : Nat) : Decidable (Guesses line n) :=
  decidable_of_iff _ guesses_iff.symm

theorem IsQuit.not_denotes {line : String} (quit : IsQuit line) (n : Nat) :
    ¬ Text.Denotes line n := by
  obtain ⟨q, u, i, t, whole, hq, -⟩ := quit
  rintro ⟨digits, -, all, shape, -⟩
  rw [whole] at shape
  rcases shape with rfl | signed
  · have digit := all q List.mem_cons_self
    rcases hq with rfl | rfl <;> exact absurd digit (by decide)
  · have sign : q = '+' := (List.cons.inj signed).1
    rcases hq with rfl | rfl <;> exact absurd sign (by decide)

theorem Guesses.goesOn {line : String} {n : Nat} (guessed : Guesses line n) : ¬ IsQuit line :=
  fun quit => quit.not_denotes n guessed.1

/-- The judgement of a line by the number that it denotes. -/
inductive Judged (game : GuessGame) (line : String) : GuessOutcome → Prop
  | tooLow {n : Nat} (guessed : Guesses line n) (less : n < game.target) : Judged game line .tooLow
  | tooHigh {n : Nat} (guessed : Guesses line n) (more : game.target < n) :
    Judged game line .tooHigh
  | won (guessed : Guesses line game.target) : Judged game line .won
  | quit (quit : IsQuit line) : Judged game line .quit
  | invalid (goesOn : ¬ IsQuit line) (other : ∀ n, ¬ Guesses line n) : Judged game line .invalid

theorem exists_judged (game : GuessGame) (line : String) :
    ∃ outcome, Judged game line outcome := by
  by_cases quit : IsQuit line
  · exact ⟨_, .quit quit⟩
  · by_cases number : ∃ n, Guesses line n
    · obtain ⟨n, guessed⟩ := number
      rcases Nat.lt_trichotomy n game.target with less | equal | more
      · exact ⟨_, .tooLow guessed less⟩
      · exact ⟨_, .won (equal ▸ guessed)⟩
      · exact ⟨_, .tooHigh guessed more⟩
    · exact ⟨_, .invalid quit (not_exists.mp number)⟩

variable {game : GuessGame} {line : String} {outcome : GuessOutcome}

theorem guess_of_isQuit (quit : IsQuit line) : game.guess line = (.quit, game) :=
  if_pos (sameButCase_quit_iff.mpr quit)

theorem guess_of_goesOn (goesOn : ¬ IsQuit line) :
    game.guess line =
      (((Text.readNumeral? line).map game.judge).getD .invalid,
        ⟨game.target, game.count + 1⟩) := by
  rw [guess, if_neg (goesOn ∘ sameButCase_quit_iff.mp)]
  cases Text.readNumeral? line <;> rfl

theorem guess_of_guesses {n : Nat} (guessed : Guesses line n) :
    (game.guess line).1 = game.judge n := by
  rw [guess_of_goesOn guessed.goesOn, (guesses_iff.mp guessed).1]
  rfl

theorem judge_of_within {n : Nat} (low : 1 ≤ n) (high : n ≤ 100) :
    game.judge n =
      if n < game.target then .tooLow else if game.target < n then .tooHigh else .won := by
  have within : ¬ (n < smallest ∨ largest < n) := by
    rw [smallest, largest]
    omega
  rw [judge, if_neg within]

theorem guess_of_judged (h : Judged game line outcome) : (game.guess line).1 = outcome := by
  cases h with
  | tooLow guessed less =>
    rw [guess_of_guesses guessed, judge_of_within guessed.2.1 guessed.2.2, if_pos less]
  | tooHigh guessed more =>
    rw [guess_of_guesses guessed, judge_of_within guessed.2.1 guessed.2.2,
      if_neg (Nat.lt_asymm more), if_pos more]
  | won guessed =>
    rw [guess_of_guesses guessed, judge_of_within guessed.2.1 guessed.2.2,
      if_neg (Nat.lt_irrefl _), if_neg (Nat.lt_irrefl _)]
  | quit quit => rw [guess_of_isQuit quit]
  | invalid goesOn other =>
    rw [guess_of_goesOn goesOn]
    cases read : Text.readNumeral? line with
    | none => rfl
    | some n =>
      have outside : ¬ (1 ≤ n ∧ n ≤ 100) := fun within => other n (guesses_iff.mpr ⟨read, within⟩)
      have beyond : n < smallest ∨ largest < n := by
        rw [smallest, largest]
        omega
      exact if_pos beyond

theorem guess_eq_iff : (game.guess line).1 = outcome ↔ Judged game line outcome := by
  constructor
  · rintro rfl
    obtain ⟨outcome, judged⟩ := exists_judged game line
    rwa [guess_of_judged judged]
  · exact guess_of_judged

theorem guess_eq_won_iff : (game.guess line).1 = .won ↔ Guesses line game.target :=
  guess_eq_iff.trans ⟨fun | .won guessed => guessed, .won⟩

theorem guess_eq_quit_iff : (game.guess line).1 = .quit ↔ IsQuit line :=
  guess_eq_iff.trans ⟨fun | .quit quit => quit, .quit⟩

theorem endsGame_guess_iff :
    (game.guess line).1.endsGame = true ↔ IsQuit line ∨ Guesses line game.target := by
  have quit : (game.guess line).1 = .quit ↔ IsQuit line := guess_eq_quit_iff
  rw [← quit, ← guess_eq_won_iff]
  cases (game.guess line).1 <;> simp [GuessOutcome.endsGame]

/-- A line is judged by the number that it denotes, with any number of leading zeros: it is too low,
too high or the target when that number is from 1 to 100. The word `quit` in letters of either case
ends the game, and any other line is invalid, including numerals beyond the range. -/
theorem guess_judges_numerals (game : GuessGame) (line : String) :
    let outcome := (game.guess line).1
    (outcome = .tooLow ↔ ∃ n, Guesses line n ∧ n < game.target) ∧
      (outcome = .tooHigh ↔ ∃ n, Guesses line n ∧ game.target < n) ∧
      (outcome = .won ↔ Guesses line game.target) ∧
      (outcome = .quit ↔ IsQuit line) ∧
      (outcome = .invalid ↔ ¬ IsQuit line ∧ ∀ n, ¬ Guesses line n) := by
  intro outcome
  refine ⟨?_, ?_, ?_, ?_, ?_⟩
  · rw [guess_eq_iff]
    exact ⟨fun | .tooLow guessed less => ⟨_, guessed, less⟩, fun ⟨_, guessed, less⟩ =>
      .tooLow guessed less⟩
  · rw [guess_eq_iff]
    exact ⟨fun | .tooHigh guessed more => ⟨_, guessed, more⟩, fun ⟨_, guessed, more⟩ =>
      .tooHigh guessed more⟩
  · exact guess_eq_won_iff
  · exact guess_eq_quit_iff
  · rw [guess_eq_iff]
    exact ⟨fun | .invalid goesOn other => ⟨goesOn, other⟩, fun ⟨goesOn, other⟩ =>
      .invalid goesOn other⟩

/-- Leading zeros do not overflow, and a number just beyond 32 bits is not reduced to 42. -/
example :
    ((⟨42, 0⟩ : GuessGame).guess "+00000000000000000042").1 = .won ∧
      ((⟨42, 0⟩ : GuessGame).guess "4294967338").1 = .invalid := by
  decide

end GuessGame
end VirtualTerminal
