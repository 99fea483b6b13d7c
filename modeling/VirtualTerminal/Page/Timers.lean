import VirtualTerminal.Session

/-! # Timers

The armed timers of a page, at most one set for each demo. A timer that is replaced or dropped never
fires again. -/
namespace VirtualTerminal

/-- When a timer is due, and its place in the order in which timers were armed. -/
structure Alarm where
  due : Nat
  order : Nat
  deriving DecidableEq, Repr

inductive Timer
  | frame
  | limit
  | color
  | shutdown
  deriving DecidableEq, Repr

/-- Milliseconds from arming to firing. -/
def Timer.period : Timer → Nat
  | .frame => 300
  | .limit => 5000
  | .color => 100
  | .shutdown => 500

/-- The frame timer of a loading bar repeats; its limit fires once. -/
structure LoadingTimers where
  frame : Alarm
  limit : Alarm
  deriving DecidableEq, Repr

structure Slots where
  loading : Option LoadingTimers
  color : Option Alarm
  shutdown : Option Alarm
  deriving DecidableEq, Repr

namespace Alarm

/-- Timers fire in order of due time, and in order of arming when they are due together. -/
def isBefore (a b : Alarm) : Bool := decide (a.due < b.due ∨ a.due = b.due ∧ a.order < b.order)

def again (a : Alarm) (due : Nat) : Alarm := { a with due := due }

end Alarm

namespace Slots

def empty : Slots := ⟨none, none, none⟩

def alarm? (slots : Slots) : Timer → Option Alarm
  | .frame => slots.loading.map LoadingTimers.frame
  | .limit => slots.loading.map LoadingTimers.limit
  | .color => slots.color
  | .shutdown => slots.shutdown

def armed (slots : Slots) : List (Timer × Alarm) :=
  [Timer.frame, .limit, .color, .shutdown].filterMap fun timer =>
    (slots.alarm? timer).map fun alarm => (timer, alarm)

def insertInOrder (entry : Timer × Alarm) : List (Timer × Alarm) → List (Timer × Alarm)
  | [] => [entry]
  | first :: rest =>
    if entry.2.isBefore first.2 then entry :: first :: rest
    else first :: insertInOrder entry rest

def dueBy (slots : Slots) (now : Nat) : List Timer :=
  ((slots.armed.filter fun entry => entry.2.due ≤ now).foldr insertInOrder []).map Prod.fst

def firstDue? (slots : Slots) : Option Nat :=
  (slots.armed.map fun entry => entry.2.due).min?

def periods (slots : Slots) : List Nat :=
  [Timer.color, .frame, .shutdown, .limit].filterMap fun timer =>
    (slots.alarm? timer).map fun _ => timer.period

end Slots
end VirtualTerminal
