import VirtualTerminal.Text.Numeral

/-! # Calendar

The Gregorian date of a day counted from 1970-01-01, and the text of a moment in UTC. Years are
counted from March inside an era of 400 years, so that the leap day is the last day of a year. All
parts of a date are integers: that they are positive is a property of the calculation, not of its
type. -/
namespace VirtualTerminal

structure Date where
  year : Int
  month : Int
  day : Int
  deriving DecidableEq, Repr

namespace Calendar

def daysPerEra : Int := 146097

/-- Days from 0000-03-01 to 1970-01-01. -/
def epochOffset : Int := 719468

/-- The year of an era, from March, that holds a day of the era. -/
def yearOfEra (dayOfEra : Int) : Int :=
  (dayOfEra - dayOfEra / 1460 + dayOfEra / 36524 - dayOfEra / 146096) / 365

def dayOfYear (dayOfEra : Int) : Int :=
  let year := yearOfEra dayOfEra
  dayOfEra - (365 * year + year / 4 - year / 100)

/-- The date of the day that lies the given number of days after 1970-01-01. -/
def dateOfDay (day : Int) : Date :=
  let shifted := day + epochOffset
  let era := shifted / daysPerEra
  let dayOfEra := shifted % daysPerEra
  let dayOfYear := dayOfYear dayOfEra
  let fromMarch := (5 * dayOfYear + 2) / 153
  let month := if fromMarch < 10 then fromMarch + 3 else fromMarch - 9
  ⟨yearOfEra dayOfEra + era * 400 + (if month ≤ 2 then 1 else 0), month,
    dayOfYear - (153 * fromMarch + 2) / 5 + 1⟩

def secondsPerDay : Nat := 86400

/-- The moment that lies the given number of seconds after 1970-01-01 00:00:00. -/
def utcText (seconds : Nat) : String :=
  let date := dateOfDay (seconds / secondsPerDay : Nat)
  let time := seconds % secondsPerDay
  Text.padded 4 date.year.toNat ++ "-" ++ Text.padded 2 date.month.toNat ++ "-" ++
    Text.padded 2 date.day.toNat ++ " " ++ Text.padded 2 (time / 3600) ++ ":" ++
    Text.padded 2 (time % 3600 / 60) ++ ":" ++ Text.padded 2 (time % 60) ++ " UTC"

/-- A moment before 1970 is shown as the start of 1970. -/
def clockText (seconds : Int) : String := utcText seconds.toNat

end Calendar
end VirtualTerminal
