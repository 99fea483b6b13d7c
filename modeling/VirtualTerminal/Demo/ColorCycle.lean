/-! # The color cycle -/
namespace VirtualTerminal

/-- A hue in degrees. -/
structure ColorCycle where
  hue : Nat
  deriving DecidableEq, Repr

namespace ColorCycle

def start : ColorCycle := ⟨0⟩

def tick (cycle : ColorCycle) : ColorCycle := ⟨(cycle.hue + 5) % 360⟩

def css (cycle : ColorCycle) : String := "hsl(" ++ toString cycle.hue ++ ", 90%, 60%)"

end ColorCycle
end VirtualTerminal
