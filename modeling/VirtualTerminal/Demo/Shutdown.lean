/-! # The shutdown sequence -/
namespace VirtualTerminal

/-- The number of lines shown so far. -/
structure Shutdown where
  shown : Nat
  deriving DecidableEq, Repr

namespace Shutdown

def lines : List String :=
  ["Shutting down terminal...", "Saving session...", "Closing connections...", "Goodbye!"]

def start : Shutdown := ⟨0⟩

def step (sequence : Shutdown) : Option (String × Shutdown) :=
  lines[sequence.shown]?.map fun line => (line, ⟨sequence.shown + 1⟩)

end Shutdown
end VirtualTerminal
