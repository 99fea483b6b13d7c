/-! # The loading bar -/
namespace VirtualTerminal

/-- The number of frames shown so far. -/
structure LoadingBar where
  shown : Nat
  deriving DecidableEq, Repr

namespace LoadingBar

def frames : List String := [
  "[=           ]",
  "[==          ]",
  "[====        ]",
  "[======      ]",
  "[========    ]",
  "[==========  ]",
  "[============]",
  "[==============]",
  "[================]"]

def start : LoadingBar := ⟨0⟩

def tick (bar : LoadingBar) : Option (String × LoadingBar) :=
  frames[bar.shown]?.map fun frame => (frame, ⟨bar.shown + 1⟩)

end LoadingBar
end VirtualTerminal
