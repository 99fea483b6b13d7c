/-! # Clocks

A clock is the sequence of its readings, one text for each reading. -/
namespace VirtualTerminal

/-- A clock by its readings: `shows n` is the text of the reading after `n` others. -/
structure Clock where
  shows : Nat → String

namespace Clock

def read (clock : Clock) : String × Clock := (clock.shows 0, ⟨fun n => clock.shows (n + 1)⟩)

def stopped (text : String) : Clock := ⟨fun _ => text⟩

instance : Coe String Clock := ⟨stopped⟩

end Clock
end VirtualTerminal
