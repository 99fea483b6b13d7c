import VirtualTerminal.Proofs.GregorianCalendar
import VirtualTerminal.Proofs.TextLaws

/-! # Texts of the clock

The text of a moment consists of six numbers, from which the moment can be computed. While the year
has four digits, all texts have the same length and the order of the moments. -/
namespace VirtualTerminal

namespace Text

structure Spells (s : String) (n : ℕ) : Prop where
  digits : ∀ c ∈ s.toList, c.isDigit = true
  value : Nat.ofDigitChars 10 s.toList 0 = n

def TwoDigits (s : String) (n : ℕ) : Prop := s.length = 2 ∧ Spells s n

/-- The value of a word of decimal digits, however large. -/
def number? (s : String) : Option ℕ :=
  if s ≠ "" ∧ (s.toList.all Char.isDigit) = true then some (Nat.ofDigitChars 10 s.toList 0)
  else none

theorem toList_padded (width n : ℕ) :
    (padded width n).toList =
      List.replicate (width - (Nat.toDigits 10 n).length) '0' ++ Nat.toDigits 10 n :=
  String.toList_ofList

theorem spells_padded (width n : ℕ) : Spells (padded width n) n := by
  constructor
  · intro c hc
    rw [toList_padded] at hc
    rcases List.mem_append.mp hc with zero | digit
    · rw [(List.mem_replicate.mp zero).2]
      decide
    · exact Nat.isDigit_of_mem_toDigits (by decide) (by decide) digit
  · rw [toList_padded, Nat.ofDigitChars_append, Nat.ofDigitChars_replicate_zero, Nat.mul_zero,
      Nat.ofDigitChars_ten_toDigits]

theorem le_length_padded (width n : ℕ) : width ≤ (padded width n).length := by
  rw [← String.length_toList, toList_padded, List.length_append, List.length_replicate]
  omega

theorem length_padded {width n : ℕ} (wide : 0 < width) (fits : n < 10 ^ width) :
    (padded width n).length = width := by
  have short : (Nat.toDigits 10 n).length ≤ width :=
    (Nat.length_toDigits_le_iff (by decide) wide).mpr fits
  rw [← String.length_toList, toList_padded, List.length_append, List.length_replicate]
  omega

theorem twoDigits_padded {n : ℕ} (fits : n < 100) : TwoDigits (padded 2 n) n :=
  ⟨length_padded (by decide) fits, spells_padded 2 n⟩

theorem number?_padded (width n : ℕ) : number? (padded width n) = some n := by
  have named : padded width n ≠ "" := by
    intro none
    have empty := String.toList_eq_nil_iff.mpr none
    rw [toList_padded, List.append_eq_nil_iff] at empty
    exact Nat.toDigits_ne_nil empty.2
  have spells := spells_padded width n
  rw [number?, if_pos ⟨named, List.all_eq_true.mpr spells.digits⟩, spells.value]

theorem not_mem_padded {c : Char} (h : c.isDigit = false) (width n : ℕ) :
    c ∉ (padded width n).toList := by
  intro hc
  rw [(spells_padded width n).digits c hc] at h
  cases h

theorem ofDigitChars_cons_zero (c : Char) (cs : List Char) :
    Nat.ofDigitChars 10 (c :: cs) 0 =
      10 ^ cs.length * (c.toNat - '0'.toNat) + Nat.ofDigitChars 10 cs 0 := by
  rw [Nat.ofDigitChars_cons, Nat.ofDigitChars_eq_ofDigitChars_zero, Nat.mul_zero, Nat.zero_add]

theorem ofDigitChars_lt_pow {cs : List Char} (digits : ∀ c ∈ cs, c.isDigit = true) :
    Nat.ofDigitChars 10 cs 0 < 10 ^ cs.length := by
  induction cs with
  | nil => decide
  | cons c cs ih =>
    obtain ⟨here, later⟩ := List.forall_mem_cons.mp digits
    have digit : c.toNat - '0'.toNat ≤ 9 := by
      have bounds := Char.isDigit_iff_toNat.mp here
      have nine : '9'.toNat = '0'.toNat + 9 := by decide
      omega
    have rest := ih later
    have first := Nat.mul_le_mul_left (10 ^ cs.length) digit
    rw [ofDigitChars_cons_zero, List.length_cons, Nat.pow_succ]
    omega

/-- Behind words of as many digits, texts are compared by the values first and then by the rest. -/
theorem digits_append_lt {cs ds rest rest' : List Char} (same : cs.length = ds.length)
    (hc : ∀ c ∈ cs, c.isDigit = true) (hd : ∀ d ∈ ds, d.isDigit = true)
    (h : Nat.ofDigitChars 10 cs 0 < Nat.ofDigitChars 10 ds 0 ∨
      Nat.ofDigitChars 10 cs 0 = Nat.ofDigitChars 10 ds 0 ∧ rest < rest') :
    cs ++ rest < ds ++ rest' := by
  induction cs generalizing ds with
  | nil =>
    cases List.length_eq_zero_iff.mp same.symm
    exact (h.resolve_left (Nat.lt_irrefl _)).2
  | cons c cs ih =>
    obtain ⟨d, ds, rfl⟩ := List.exists_cons_of_length_eq_add_one same.symm
    obtain ⟨digit, hc⟩ := List.forall_mem_cons.mp hc
    obtain ⟨digit', hd⟩ := List.forall_mem_cons.mp hd
    have same : cs.length = ds.length := Nat.succ.inj same
    have low := (Char.isDigit_iff_toNat.mp digit).1
    have low' := (Char.isDigit_iff_toNat.mp digit').1
    have below := ofDigitChars_lt_pow hc
    have below' := ofDigitChars_lt_pow hd
    rw [ofDigitChars_cons_zero, ofDigitChars_cons_zero, ← same] at h
    rw [← same] at below'
    rw [List.cons_append, List.cons_append, List.cons_lt_cons_iff]
    rcases Nat.lt_trichotomy c.toNat d.toNat with less | equal | more
    · exact .inl less
    · rw [equal, Nat.add_lt_add_iff_left, Nat.add_left_cancel_iff] at h
      exact .inr ⟨Char.toNat_inj.mp equal, ih same hc hd h⟩
    · have step : d.toNat - '0'.toNat + 1 ≤ c.toNat - '0'.toNat := by omega
      have weight := Nat.mul_le_mul_left (10 ^ cs.length) step
      rw [Nat.mul_succ] at weight
      omega

theorem padded_append_lt {width m n : ℕ} (wide : 0 < width) (hm : m < 10 ^ width)
    (hn : n < 10 ^ width) (mark : String) {rest rest' : String}
    (h : m < n ∨ m = n ∧ rest < rest') :
    padded width m ++ (mark ++ rest) < padded width n ++ (mark ++ rest') := by
  have same : (padded width m).toList.length = (padded width n).toList.length := by
    rw [String.length_toList, String.length_toList, length_padded wide hm, length_padded wide hn]
  have spells := spells_padded width m
  have spells' := spells_padded width n
  rw [String.lt_iff, String.toList_append, String.toList_append, String.toList_append,
    String.toList_append]
  refine digits_append_lt same spells.digits spells'.digits ?_
  rw [spells.value, spells'.value]
  exact h.imp_right (And.imp_right fun less => List.append_left_lt (String.lt_iff.mp less))

end Text

structure Moment where
  year : ℕ
  month : ℕ
  day : ℕ
  hour : ℕ
  minute : ℕ
  second : ℕ
  deriving DecidableEq, Repr

namespace Moment
open Text

def date (m : Moment) : Date := ⟨m.year, m.month, m.day⟩

def text (m : Moment) : String :=
  padded 4 m.year ++ "-" ++ padded 2 m.month ++ "-" ++ padded 2 m.day ++ " " ++ padded 2 m.hour ++
    ":" ++ padded 2 m.minute ++ ":" ++ padded 2 m.second ++ " UTC"

/-- All numbers but the year have two digits at most. -/
structure Fits (m : Moment) : Prop where
  month : m.month < 100
  day : m.day < 100
  hour : m.hour < 100
  minute : m.minute < 100
  second : m.second < 100

/-- The order of moments: the first number that differs decides. -/
def Before (m other : Moment) : Prop :=
  m.year < other.year ∨ m.year = other.year ∧ (m.month < other.month ∨ m.month = other.month ∧
    (m.day < other.day ∨ m.day = other.day ∧ (m.hour < other.hour ∨ m.hour = other.hour ∧
      (m.minute < other.minute ∨ m.minute = other.minute ∧ m.second < other.second))))

/-- The text holds the numbers in their order, between fixed marks: the year in four digits or more,
every other number in two. -/
def ShownBy (m : Moment) (text : String) : Prop :=
  ∃ year month day hour minute second : String,
    text = year ++ "-" ++ month ++ "-" ++ day ++ " " ++ hour ++ ":" ++ minute ++ ":" ++ second ++
      " UTC" ∧
    4 ≤ year.length ∧ Spells year m.year ∧ TwoDigits month m.month ∧ TwoDigits day m.day ∧
    TwoDigits hour m.hour ∧ TwoDigits minute m.minute ∧ TwoDigits second m.second

def read? (text : String) : Option Moment :=
  match Text.split ' ' text with
  | [date, time, "UTC"] =>
    match Text.split '-' date, Text.split ':' time with
    | [year, month, day], [hour, minute, second] => do
      return ⟨← number? year, ← number? month, ← number? day, ← number? hour, ← number? minute,
        ← number? second⟩
    | _, _ => none
  | _ => none

theorem shownBy_text {m : Moment} (fits : m.Fits) : m.ShownBy m.text :=
  ⟨padded 4 m.year, padded 2 m.month, padded 2 m.day, padded 2 m.hour, padded 2 m.minute,
    padded 2 m.second, rfl, le_length_padded 4 m.year, spells_padded 4 m.year,
    twoDigits_padded fits.month, twoDigits_padded fits.day, twoDigits_padded fits.hour,
    twoDigits_padded fits.minute, twoDigits_padded fits.second⟩

theorem split_padded {mark : Char} (h : mark.isDigit = false) (width i j k : ℕ) :
    split mark (join mark [padded width i, padded 2 j, padded 2 k]) =
      [padded width i, padded 2 j, padded 2 k] := by
  refine split_join (List.cons_ne_nil _ _) fun p hp => ?_
  simp only [List.mem_cons, List.not_mem_nil, or_false] at hp
  rcases hp with rfl | rfl | rfl <;> exact not_mem_padded h _ _

theorem not_mem_join_padded {c mark : Char} (hc : c.isDigit = false) (differ : c ≠ mark)
    (width i j k : ℕ) : c ∉ (join mark [padded width i, padded 2 j, padded 2 k]).toList := by
  intro inside
  rw [join, String.toList_ofList] at inside
  rcases mem_joinChars inside with same | ⟨cs, hcs, inside⟩
  · exact differ same
  · simp only [List.map_cons, List.map_nil, List.mem_cons, List.not_mem_nil, or_false] at hcs
    rcases hcs with rfl | rfl | rfl <;> exact not_mem_padded hc _ _ inside

theorem text_eq_join (m : Moment) :
    m.text = join ' ' [join '-' [padded 4 m.year, padded 2 m.month, padded 2 m.day],
      join ':' [padded 2 m.hour, padded 2 m.minute, padded 2 m.second], "UTC"] := by
  simp [text, join, joinChars, ← String.toList_inj]

theorem read?_text (m : Moment) : read? m.text = some m := by
  have parts : split ' ' m.text = [join '-' [padded 4 m.year, padded 2 m.month, padded 2 m.day],
      join ':' [padded 2 m.hour, padded 2 m.minute, padded 2 m.second], "UTC"] := by
    rw [text_eq_join]
    refine split_join (List.cons_ne_nil _ _) fun p hp => ?_
    simp only [List.mem_cons, List.not_mem_nil, or_false] at hp
    rcases hp with rfl | rfl | rfl
    · exact not_mem_join_padded (by decide) (by decide) _ _ _ _
    · exact not_mem_join_padded (by decide) (by decide) _ _ _ _
    · decide
  simp only [read?, parts, split_padded (by decide : '-'.isDigit = false),
    split_padded (by decide : ':'.isDigit = false), number?_padded]
  rfl

theorem length_text {m : Moment} (early : m.year < 10000) (fits : m.Fits) :
    m.text.length = 23 := by
  have year : (padded 4 m.year).length = 4 := length_padded (by decide) early
  simp only [text, String.length_append, year, (twoDigits_padded fits.month).1,
    (twoDigits_padded fits.day).1, (twoDigits_padded fits.hour).1,
    (twoDigits_padded fits.minute).1, (twoDigits_padded fits.second).1]
  rfl

theorem text_lt_text {m other : Moment} (early : m.year < 10000) (early' : other.year < 10000)
    (fits : m.Fits) (fits' : other.Fits) (before : m.Before other) : m.text < other.text := by
  simp only [text, String.append_assoc]
  refine padded_append_lt (by decide) early early' "-"
    (before.imp_right (.imp_right fun before => ?_))
  refine padded_append_lt (by decide) fits.month fits'.month "-"
    (before.imp_right (.imp_right fun before => ?_))
  refine padded_append_lt (by decide) fits.day fits'.day " "
    (before.imp_right (.imp_right fun before => ?_))
  refine padded_append_lt (by decide) fits.hour fits'.hour ":"
    (before.imp_right (.imp_right fun before => ?_))
  refine padded_append_lt (by decide) fits.minute fits'.minute ":"
    (before.imp_right (.imp_right fun before => ?_))
  have last : padded 2 m.second ++ (" UTC" ++ "") < padded 2 other.second ++ (" UTC" ++ "") :=
    padded_append_lt (by decide) fits.second fits'.second " UTC" (.inl before)
  rwa [String.append_empty] at last

end Moment

namespace Calendar
open Date

/-- The six numbers of a number of seconds since the start of 1970. -/
def moment (seconds : ℕ) : Moment :=
  let date := dateOfDay (seconds / secondsPerDay : ℕ)
  let time := seconds % secondsPerDay
  ⟨date.year.toNat, date.month.toNat, date.day.toNat, time / 3600, time % 3600 / 60, time % 60⟩

theorem utcText_eq (seconds : ℕ) : utcText seconds = (moment seconds).text := by
  simp only [utcText, Moment.text, moment]

theorem le_year_dateOfDay (day : ℕ) : 1970 ≤ (dateOfDay day).year := by
  have late : dateOfDay (0 : ℕ) ≤ dateOfDay day := strictMono_dateOfDay.monotone (Nat.zero_le day)
  rw [Nat.cast_zero, dateOfDay_zero] at late
  rcases late.eq_or_lt with same | later
  · rw [← same]
    exact le_rfl
  · rw [lt_iff] at later
    simp only [epoch] at later
    omega

theorem date_moment (seconds : ℕ) :
    (moment seconds).date = dateOfDay (seconds / secondsPerDay : ℕ) := by
  have year := le_year_dateOfDay (seconds / secondsPerDay)
  obtain ⟨month, -, day, -⟩ := (dateOfDay_spec (seconds / secondsPerDay)).1
  rw [moment, Moment.date]
  dsimp only
  generalize dateOfDay (seconds / secondsPerDay : ℕ) = date at *
  rw [Int.toNat_of_nonneg (by omega), Int.toNat_of_nonneg (by omega),
    Int.toNat_of_nonneg (by omega)]

theorem monthLength_le (year month : ℤ) : monthLength year month ≤ 31 := by
  have leap := leapDays_cases year
  unfold monthLength
  split_ifs <;> omega

theorem valid_moment (seconds : ℕ) : (moment seconds).date.Valid := by
  rw [date_moment]
  exact (dateOfDay_spec _).1

theorem clock_moment (seconds : ℕ) :
    (moment seconds).hour < 24 ∧ (moment seconds).minute < 60 ∧ (moment seconds).second < 60 := by
  simp only [moment, secondsPerDay]
  omega

theorem seconds_moment (seconds : ℕ) :
    (seconds : ℤ) = 86400 * (moment seconds).date.dayNumber + 3600 * (moment seconds).hour +
      60 * (moment seconds).minute + (moment seconds).second := by
  rw [date_moment, (dateOfDay_spec _).2]
  simp only [moment, secondsPerDay]
  omega

theorem fits_moment (seconds : ℕ) : (moment seconds).Fits := by
  obtain ⟨month_pos, month_le, day_pos, day_le⟩ := valid_moment seconds
  have short := monthLength_le (moment seconds).date.year (moment seconds).date.month
  obtain ⟨hour, minute, second⟩ := clock_moment seconds
  simp only [Moment.date] at *
  constructor <;> omega

theorem year_moment_lt {seconds : ℕ} (year : ℕ) (late : 1970 ≤ year)
    (early : (seconds : ℤ) < 86400 * dayNumber ⟨year, 1, 1⟩) : (moment seconds).year < year := by
  have first : (⟨year, 1, 1⟩ : Date).Valid :=
    ⟨le_rfl, by simp, le_rfl, by simp [monthLength]⟩
  have start : epoch ≤ ⟨year, 1, 1⟩ := by
    rw [le_iff_lt_or_eq, lt_iff, epoch, Date.mk.injEq]
    dsimp only
    omega
  obtain ⟨day, found⟩ := exists_day first start
  have counted := (dateOfDay_spec day).2
  rw [found] at counted
  have before : (moment seconds).date < ⟨year, 1, 1⟩ := by
    rw [date_moment, ← found]
    refine strictMono_dateOfDay ?_
    simp only [secondsPerDay]
    omega
  obtain ⟨month_pos, -, day_pos, -⟩ := valid_moment seconds
  rw [lt_iff] at before
  simp only [Moment.date] at *
  omega

theorem moment_before {s t : ℕ} (h : s < t) : (moment s).Before (moment t) := by
  have days : s / secondsPerDay ≤ t / secondsPerDay := Nat.div_le_div_right h.le
  rcases days.eq_or_lt with same | later
  · have date : (moment s).date = (moment t).date := by rw [date_moment, date_moment, same]
    have counted := seconds_moment s
    have counted' := seconds_moment t
    have clock := clock_moment s
    have clock' := clock_moment t
    rw [date] at counted
    simp only [Moment.date, Date.mk.injEq] at date
    unfold Moment.Before
    omega
  · have earlier : (moment s).date < (moment t).date := by
      rw [date_moment, date_moment]
      exact strictMono_dateOfDay later
    rw [lt_iff] at earlier
    simp only [Moment.date] at earlier
    unfold Moment.Before
    omega

theorem utcText_injective : Function.Injective utcText := by
  intro s t same
  have read := congrArg Moment.read? same
  rw [utcText_eq, utcText_eq, Moment.read?_text, Moment.read?_text, Option.some.injEq] at read
  have counted := seconds_moment s
  rw [read, ← seconds_moment t] at counted
  exact Int.ofNat.inj counted

/-- The text of a moment consists of its date and time of day as six numbers, and the numbers read
back determine the number of seconds. Hence distinct moments have distinct texts. Up to the end of
the year 9999 all texts have one length, and later moments have greater texts. -/
theorem clock_texts_read_back_in_order :
    (∀ seconds : ℕ, ∃ m : Moment,
      m.ShownBy (utcText seconds) ∧ Moment.read? (utcText seconds) = some m ∧ m.date.Valid ∧
        m.hour < 24 ∧ m.minute < 60 ∧ m.second < 60 ∧
        (seconds : ℤ) = 86400 * m.date.dayNumber + 3600 * m.hour + 60 * m.minute + m.second) ∧
      Function.Injective utcText ∧
      ∀ s t : ℕ, s < t → (t : ℤ) < 86400 * dayNumber ⟨10000, 1, 1⟩ →
        (utcText s).length = 23 ∧ (utcText t).length = 23 ∧ utcText s < utcText t := by
  refine ⟨fun seconds => ⟨moment seconds, ?_, ?_, valid_moment seconds, ?_⟩, utcText_injective, ?_⟩
  · rw [utcText_eq]
    exact Moment.shownBy_text (fits_moment seconds)
  · rw [utcText_eq, Moment.read?_text]
  · obtain ⟨hour, minute, second⟩ := clock_moment seconds
    exact ⟨hour, minute, second, seconds_moment seconds⟩
  · intro s t less early
    have year := year_moment_lt 10000 (by decide) ((Int.ofNat_lt.mpr less).trans early)
    have year' := year_moment_lt 10000 (by decide) early
    rw [utcText_eq, utcText_eq]
    exact ⟨Moment.length_text year (fits_moment s), Moment.length_text year' (fits_moment t),
      Moment.text_lt_text year year' (fits_moment s) (fits_moment t) (moment_before less)⟩

/-- The last second of a leap day, and the last second before the year 10000. -/
theorem clock_texts_read_back_in_order_last_seconds :
    951868799 < 253402300799 ∧
      ((253402300799 : ℕ) : ℤ) < 86400 * dayNumber ⟨10000, 1, 1⟩ ∧
      utcText 951868799 = "2000-02-29 23:59:59 UTC" ∧
      utcText 253402300799 = "9999-12-31 23:59:59 UTC" ∧
      utcText 951868799 < utcText 253402300799 := by
  have less : 951868799 < 253402300799 := by decide
  have early : ((253402300799 : ℕ) : ℤ) < 86400 * dayNumber ⟨10000, 1, 1⟩ := by decide
  obtain ⟨-, -, inOrder⟩ := clock_texts_read_back_in_order
  exact ⟨less, early, by decide, by decide, (inOrder _ _ less early).2.2⟩

end Calendar
end VirtualTerminal
