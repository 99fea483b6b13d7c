/-! # Decimal numerals

Reading a 32-bit number from decimal digits with every multiplication and addition checked, and
writing a number with leading zeros up to a width. -/
namespace VirtualTerminal.Text

def wordLimit : Nat := UInt32.size

def digitValue? (c : Char) : Option Nat :=
  if '0' ≤ c ∧ c ≤ '9' then some (c.toNat - '0'.toNat) else none

/-- Reads digits on top of the value read so far and refuses as soon as a step leaves 32 bits. -/
def readDigits (value : Nat) : List Char → Option Nat
  | [] => some value
  | c :: cs =>
    match digitValue? c with
    | none => none
    | some d =>
      if value * 10 < wordLimit ∧ value * 10 + d < wordLimit then readDigits (value * 10 + d) cs
      else none

/-- The digits, at least one, may follow one plus sign. -/
def readNumeral? (s : String) : Option Nat :=
  match s.toList with
  | [] => none
  | '+' :: [] => none
  | '+' :: cs => readDigits 0 cs
  | cs => readDigits 0 cs

def padded (width n : Nat) : String :=
  let digits := Nat.toDigits 10 n
  String.ofList (List.replicate (width - digits.length) '0' ++ digits)

end VirtualTerminal.Text
