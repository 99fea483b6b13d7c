/-! # Control characters -/
namespace VirtualTerminal.Text

/-- The characters of the Unicode category Cc. -/
def isControl (c : Char) : Bool := decide (c.toNat < 0x20 ∨ 0x7F ≤ c.toNat ∧ c.toNat ≤ 0x9F)

end VirtualTerminal.Text
