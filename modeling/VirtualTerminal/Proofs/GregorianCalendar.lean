import Mathlib.Data.Set.Function
import Mathlib.Order.RelClasses
import Mathlib.Tactic.IntervalCases
import VirtualTerminal.Calendar

/-! # The Gregorian calendar

The dates of the days from 1970-01-01 on: each is valid, each is the successor of the date before
it, and every later date is the date of exactly one day. Days are counted from dates by whole years
and months, and the calculation of dates inverts that count. -/
namespace VirtualTerminal

namespace Date

/-- Every fourth year is a leap year, but of the centuries only every fourth. -/
def IsLeap (year : Int) : Prop := year % 4 = 0 ∧ (year % 100 ≠ 0 ∨ year % 400 = 0)

instance (year : Int) : Decidable (IsLeap year) := by unfold IsLeap; infer_instance

def leapDays (year : Int) : Int := if IsLeap year then 1 else 0

def monthLength (year month : Int) : Int :=
  if month = 2 then 28 + leapDays year
  else if month = 4 ∨ month = 6 ∨ month = 9 ∨ month = 11 then 30
  else 31

structure Valid (date : Date) : Prop where
  month_pos : 1 ≤ date.month
  month_le : date.month ≤ 12
  day_pos : 1 ≤ date.day
  day_le : date.day ≤ monthLength date.year date.month

/-- The next day of the month, or the first day of the next month or year. -/
def next (date : Date) : Date :=
  if date.day < monthLength date.year date.month then { date with day := date.day + 1 }
  else if date.month < 12 then ⟨date.year, date.month + 1, 1⟩
  else ⟨date.year + 1, 1, 1⟩

def Before (date other : Date) : Prop :=
  date.year < other.year ∨ date.year = other.year ∧
    (date.month < other.month ∨ date.month = other.month ∧ date.day < other.day)

instance : IsStrictOrder Date Before where
  irrefl date h := by
    unfold Before at h
    omega
  trans date other later h h' := by
    unfold Before at h h' ⊢
    omega

instance : PartialOrder Date := partialOrderOfSO Before

theorem lt_iff {date other : Date} :
    date < other ↔ date.year < other.year ∨ date.year = other.year ∧
      (date.month < other.month ∨ date.month = other.month ∧ date.day < other.day) := Iff.rfl

def daysBeforeYear (year : Int) : Int :=
  365 * (year - 1) + (year - 1) / 4 - (year - 1) / 100 + (year - 1) / 400

def daysBeforeMonth (year month : Int) : Int :=
  ((List.range (month - 1).toNat).map fun earlier : ℕ => monthLength year (earlier + 1)).sum

/-- Days from 1970-01-01 to the date. -/
def dayNumber (date : Date) : Int :=
  daysBeforeYear date.year + daysBeforeMonth date.year date.month + (date.day - 1) -
    daysBeforeYear 1970

theorem leapDays_cases (year : Int) :
    (leapDays year = 1 ∧ year % 4 = 0 ∧ (year % 100 ≠ 0 ∨ year % 400 = 0)) ∨
      (leapDays year = 0 ∧ (year % 4 ≠ 0 ∨ year % 100 = 0 ∧ year % 400 ≠ 0)) := by
  unfold leapDays
  split
  · next leap => exact .inl ⟨rfl, leap⟩
  · next common =>
    unfold IsLeap at common
    exact .inr ⟨rfl, by omega⟩

theorem daysBeforeYear_succ (year : Int) :
    daysBeforeYear (year + 1) = daysBeforeYear year + 365 + leapDays year := by
  have leap := leapDays_cases year
  unfold daysBeforeYear
  omega

theorem daysBeforeMonth_succ (year : Int) {month : Int} (h : 1 ≤ month) :
    daysBeforeMonth year (month + 1) = daysBeforeMonth year month + monthLength year month := by
  have more : (month + 1 - 1).toNat = (month - 1).toNat + 1 := by omega
  have last : ((month - 1).toNat : Int) + 1 = month := by omega
  rw [daysBeforeMonth, more, List.range_succ, List.map_append, List.sum_append, ← daysBeforeMonth,
    List.map_singleton, List.sum_singleton, last]

/-- The first two months are exceptions; from March on the lengths repeat every five months. -/
theorem daysBeforeMonth_eq (year : Int) {month : Int} (h : 1 ≤ month) (h' : month ≤ 12) :
    daysBeforeMonth year month =
      if month ≤ 2 then 31 * (month - 1)
      else (153 * (month - 3) + 2) / 5 + 59 + leapDays year := by
  interval_cases month <;> simp [daysBeforeMonth, List.range_succ, monthLength] <;> omega

theorem valid_next {date : Date} (h : date.Valid) : date.next.Valid := by
  obtain ⟨month_pos, month_le, day_pos, day_le⟩ := h
  have leap := leapDays_cases (date.year + 1)
  have longer : 1 ≤ monthLength date.year (date.month + 1) := by
    have leap := leapDays_cases date.year
    unfold monthLength
    split_ifs <;> omega
  unfold next
  split
  · exact ⟨month_pos, month_le, by dsimp only; omega, by dsimp only; omega⟩
  · split
    · exact ⟨by dsimp only; omega, by dsimp only; omega, le_rfl, longer⟩
    · exact ⟨le_rfl, by dsimp only; omega, le_rfl, by simp [monthLength]⟩

theorem lt_next (date : Date) : date < date.next := by
  rw [lt_iff, next]
  split
  · dsimp only
    omega
  · split <;> dsimp only <;> omega

theorem dayNumber_next {date : Date} (h : date.Valid) :
    date.next.dayNumber = date.dayNumber + 1 := by
  obtain ⟨month_pos, month_le, day_pos, day_le⟩ := h
  unfold next
  split
  · simp only [dayNumber]
    omega
  · have ended : date.day = monthLength date.year date.month := by omega
    split
    · have months := daysBeforeMonth_succ date.year month_pos
      simp only [dayNumber]
      omega
    · have december : date.month = 12 := by omega
      have years := daysBeforeYear_succ date.year
      have months := daysBeforeMonth_eq date.year (by decide : (1 : Int) ≤ 12) (by decide)
      have first := daysBeforeMonth_eq (date.year + 1) (le_refl 1) (by decide)
      have length : monthLength date.year 12 = 31 := by simp [monthLength]
      rw [december] at ended
      simp only [dayNumber, december]
      norm_num at months first
      omega

/-- The year from March that the date lies in, named by the year in which it starts. -/
def marchYear (date : Date) : Int := if date.month ≤ 2 then date.year - 1 else date.year

def marchMonth (date : Date) : Int := if date.month ≤ 2 then date.month + 9 else date.month - 3

/-- Days from the start of the month of March before the date. -/
def marchDay (date : Date) : Int := (153 * date.marchMonth + 2) / 5 + (date.day - 1)

theorem dayNumber_eq_march {date : Date} (h : date.Valid) :
    date.dayNumber + 719468 = 365 * date.marchYear + date.marchYear / 4 - date.marchYear / 100 +
      date.marchYear / 400 + date.marchDay := by
  obtain ⟨month_pos, month_le, -, -⟩ := h
  have leap := leapDays_cases date.year
  have start : daysBeforeYear 1970 = 719162 := by decide
  rw [dayNumber, start, daysBeforeMonth_eq date.year month_pos month_le, daysBeforeYear, marchDay,
    marchYear, marchMonth]
  split_ifs <;> omega

theorem marchDay_lt {date : Date} (h : date.Valid) :
    date.marchDay < (153 * (date.marchMonth + 1) + 2) / 5 := by
  obtain ⟨year, month, day⟩ := date
  obtain ⟨month_pos, month_le, day_pos, day_le⟩ := h
  dsimp only at month_pos month_le day_pos day_le
  have leap := leapDays_cases year
  rw [marchDay, marchMonth]
  unfold monthLength at day_le
  interval_cases month <;> simp at day_le ⊢ <;> omega

theorem marchDay_lt_year {date : Date} (h : date.Valid) :
    date.marchDay < 365 + leapDays (date.marchYear + 1) := by
  obtain ⟨year, month, day⟩ := date
  obtain ⟨month_pos, month_le, day_pos, day_le⟩ := h
  dsimp only at month_pos month_le day_pos day_le
  have leap := leapDays_cases year
  have leap' := leapDays_cases (year + 1)
  rw [marchDay, marchMonth, marchYear]
  unfold monthLength at day_le
  interval_cases month <;> simp at day_le ⊢ <;> omega

end Date

namespace Calendar
open Date

/-- The last day of an era would start a fifth century, and the second quotient takes that back. -/
theorem centuries_eq {century : Int} (rest : Int) (hc : 0 ≤ century) (hc' : century < 4)
    (hr : 0 ≤ rest) (hr' : rest < 36524 ∨ rest = 36524 ∧ century = 3) :
    (36524 * century + rest) / 36524 - (36524 * century + rest) / 146096 = century := by
  rcases hr' with short | ⟨rfl, rfl⟩
  · have first : (36524 * century + rest) / 36524 = century := by omega
    have second : (36524 * century + rest) / 146096 = 0 := by omega
    omega
  · decide

/-- Four years without their leap day fit once more into the days that pass by leap days alone. -/
theorem cycles_eq {century cycle : Int} (rest : Int) (hc : 0 ≤ century) (hc' : century < 4)
    (hq : 0 ≤ cycle) (hq' : cycle < 25) (hr : 0 ≤ rest) (hr' : rest ≤ 1460) :
    (36524 * century + (1461 * cycle + rest)) / 1460 =
      25 * century + cycle + if 24 * century + cycle + rest < 1460 then 0 else 1 := by
  split <;> omega

theorem yearOfEra_eq {year day : Int} (hy : 0 ≤ year) (hy' : year < 400) (hd : 0 ≤ day)
    (hd' : day < 365 + leapDays (year + 1)) :
    yearOfEra (365 * year + year / 4 - year / 100 + day) = year := by
  have leap := leapDays_cases (year + 1)
  obtain ⟨century, cycle, rest, rfl, hc, hc', hq, hq', hr, hr'⟩ : ∃ century cycle rest : Int,
      year = 100 * century + 4 * cycle + rest ∧ 0 ≤ century ∧ century < 4 ∧ 0 ≤ cycle ∧
        cycle < 25 ∧ 0 ≤ rest ∧ rest < 4 :=
    ⟨year / 100, year % 100 / 4, year % 4, by omega, by omega, by omega, by omega, by omega,
      by omega, by omega⟩
  have long : day < 365 ∨ day = 365 ∧ rest = 3 ∧ (cycle = 24 → century = 3) := by omega
  have whole : 365 * (100 * century + 4 * cycle + rest) + (100 * century + 4 * cycle + rest) / 4 -
      (100 * century + 4 * cycle + rest) / 100 + day =
        36524 * century + (1461 * cycle + (365 * rest + day)) := by
    omega
  have centuries := centuries_eq (1461 * cycle + (365 * rest + day)) hc hc' (by omega) (by omega)
  have cycles := cycles_eq (365 * rest + day) hc hc' hq hq' (by omega) (by omega)
  rw [yearOfEra, whole]
  generalize (36524 * century + (1461 * cycle + (365 * rest + day))) / 36524 = first at *
  generalize (36524 * century + (1461 * cycle + (365 * rest + day))) / 146096 = second at *
  generalize (36524 * century + (1461 * cycle + (365 * rest + day))) / 1460 = third at *
  clear leap hd' whole
  split at cycles <;> omega

theorem dateOfDay_dayNumber {date : Date} (h : date.Valid) : dateOfDay date.dayNumber = date := by
  obtain ⟨month_pos, month_le, day_pos, -⟩ := id h
  have first : 0 ≤ date.marchDay := by
    rw [marchDay, marchMonth]
    split_ifs <;> omega
  have inMonth := marchDay_lt h
  have inYear := marchDay_lt_year h
  have periodic : leapDays (date.marchYear + 1) = leapDays (date.marchYear % 400 + 1) := by
    have leap := leapDays_cases (date.marchYear + 1)
    have leap' := leapDays_cases (date.marchYear % 400 + 1)
    omega
  let year := date.marchYear % 400
  let days := 365 * year + year / 4 - year / 100 + date.marchDay
  have shifted : date.dayNumber + epochOffset = daysPerEra * (date.marchYear / 400) + days := by
    have counted := dayNumber_eq_march h
    simp only [epochOffset, daysPerEra, days, year]
    omega
  have found : yearOfEra days = year :=
    yearOfEra_eq (by omega) (by omega) first (periodic ▸ inYear)
  have inEra : 0 ≤ days ∧ days < daysPerEra := by
    have leap := leapDays_cases (year + 1)
    simp only [daysPerEra, days, year] at *
    omega
  have era : (daysPerEra * (date.marchYear / 400) + days) / daysPerEra = date.marchYear / 400 := by
    unfold daysPerEra at *
    omega
  have dayOfEra : (daysPerEra * (date.marchYear / 400) + days) % daysPerEra = days := by
    unfold daysPerEra at *
    omega
  have ofYear : Calendar.dayOfYear days = date.marchDay := by
    simp only [Calendar.dayOfYear, found]
    omega
  have month : (5 * date.marchDay + 2) / 153 = date.marchMonth := by
    unfold marchDay at *
    omega
  have fromMarch : (if date.marchMonth < 10 then date.marchMonth + 3 else date.marchMonth - 9) =
      date.month := by
    unfold marchMonth
    split_ifs <;> omega
  have ofMonth : date.marchDay - (153 * date.marchMonth + 2) / 5 + 1 = date.day := by
    unfold marchDay
    omega
  have ofDate : year + date.marchYear / 400 * 400 + (if date.month ≤ 2 then 1 else 0) =
      date.year := by
    simp only [year, marchYear]
    split_ifs <;> omega
  simp only [dateOfDay, shifted, era, dayOfEra, ofYear, found, month, fromMarch, ofMonth, ofDate]

def epoch : Date := ⟨1970, 1, 1⟩

theorem dateOfDay_zero : dateOfDay 0 = epoch := by decide

/-- The date of a day is valid, and counting its days gives the day back. -/
theorem dateOfDay_spec (day : ℕ) : (dateOfDay day).Valid ∧ (dateOfDay day).dayNumber = day := by
  induction day with
  | zero =>
    rw [Nat.cast_zero, dateOfDay_zero]
    exact ⟨⟨by decide, by decide, by decide, by decide⟩, by decide⟩
  | succ day ih =>
    obtain ⟨valid, counted⟩ := ih
    have counted' : (dateOfDay day).next.dayNumber = (day + 1 : ℕ) := by
      rw [dayNumber_next valid, counted]
      rfl
    rw [← counted', dateOfDay_dayNumber (valid_next valid)]
    exact ⟨valid_next valid, rfl⟩

theorem dateOfDay_succ (day : ℕ) : dateOfDay (day + 1) = (dateOfDay day).next := by
  obtain ⟨valid, counted⟩ := dateOfDay_spec day
  rw [← dateOfDay_dayNumber (valid_next valid), dayNumber_next valid, counted]

theorem strictMono_dateOfDay : StrictMono fun day : ℕ => dateOfDay day := by
  refine strictMono_nat_of_lt_succ fun day => ?_
  rw [Nat.cast_succ, dateOfDay_succ]
  exact lt_next (dateOfDay day)

theorem dayNumber_nonneg {date : Date} (h : date.Valid) (late : epoch ≤ date) :
    0 ≤ date.dayNumber := by
  have years : 1970 ≤ date.year := by
    rcases late.eq_or_lt with rfl | later
    · exact le_rfl
    · rw [lt_iff] at later
      simp only [epoch] at later
      omega
  have months : 0 ≤ daysBeforeMonth date.year date.month := by
    have leap := leapDays_cases date.year
    rw [daysBeforeMonth_eq date.year h.month_pos h.month_le]
    have first := h.month_pos
    split_ifs <;> omega
  have first := h.day_pos
  have start : daysBeforeYear 1970 = 719162 := by decide
  rw [dayNumber, start, daysBeforeYear]
  omega

theorem exists_day {date : Date} (h : date.Valid) (late : epoch ≤ date) :
    ∃ day : ℕ, dateOfDay day = date := by
  refine ⟨date.dayNumber.toNat, ?_⟩
  rw [Int.toNat_of_nonneg (dayNumber_nonneg h late), dateOfDay_dayNumber h]

/-- From 1970-01-01 on, every day has a valid date and the next day has the next date. Hence later
days have later dates, and every valid date from then on is the date of exactly one day. -/
theorem days_run_through_calendar :
    dateOfDay 0 = ⟨1970, 1, 1⟩ ∧
      (∀ day : ℕ, (dateOfDay day).Valid ∧ dateOfDay (day + 1) = (dateOfDay day).next) ∧
      (StrictMono fun day : ℕ => dateOfDay day) ∧
      Set.BijOn (fun day : ℕ => dateOfDay day) Set.univ
        {date | date.Valid ∧ (⟨1970, 1, 1⟩ : Date) ≤ date} := by
  refine ⟨dateOfDay_zero, fun day => ⟨(dateOfDay_spec day).1, dateOfDay_succ day⟩,
    strictMono_dateOfDay, fun day _ => ?_, strictMono_dateOfDay.injective.injOn, ?_⟩
  · have late : dateOfDay (0 : ℕ) ≤ dateOfDay day := strictMono_dateOfDay.monotone (Nat.zero_le day)
    rw [Nat.cast_zero, dateOfDay_zero] at late
    exact ⟨(dateOfDay_spec day).1, late⟩
  · rintro date ⟨valid, late⟩
    obtain ⟨day, found⟩ := exists_day valid late
    exact ⟨day, trivial, found⟩

/-- The end of a century that is a leap year, and of one that is not. -/
example : dateOfDay 11016 = ⟨2000, 2, 29⟩ ∧ dateOfDay 47540 = ⟨2100, 2, 28⟩ ∧
    (dateOfDay 47540).next = ⟨2100, 3, 1⟩ := by decide

end Calendar
end VirtualTerminal
