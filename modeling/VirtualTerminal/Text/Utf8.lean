/-! # Decoding UTF-8

A decoder that reads one byte at a time and never fails: each longest invalid sequence of bytes
yields one replacement character. -/
namespace VirtualTerminal.Text

def replacement : Char := '\uFFFD'

/-- An unfinished character: how many bytes it still needs, the bounds of the next one, and the bits
read so far. -/
structure Unfinished where
  need : Nat
  low : Nat
  high : Nat
  bits : Nat
  deriving DecidableEq, Repr

def leadByte (b : Nat) : List Char × Option Unfinished :=
  if b < 0x80 then ([Char.ofNat b], none)
  else if b < 0xC2 then ([replacement], none)
  else if b < 0xE0 then ([], some ⟨1, 0x80, 0xBF, b - 0xC0⟩)
  else if b = 0xE0 then ([], some ⟨2, 0xA0, 0xBF, 0⟩)
  else if b = 0xED then ([], some ⟨2, 0x80, 0x9F, 0xD⟩)
  else if b < 0xF0 then ([], some ⟨2, 0x80, 0xBF, b - 0xE0⟩)
  else if b = 0xF0 then ([], some ⟨3, 0x90, 0xBF, 0⟩)
  else if b < 0xF4 then ([], some ⟨3, 0x80, 0xBF, b - 0xF0⟩)
  else if b = 0xF4 then ([], some ⟨3, 0x80, 0x8F, 4⟩)
  else ([replacement], none)

/-- A byte that cannot continue the unfinished character ends it as invalid and starts afresh. -/
def nextByte (state : Option Unfinished) (b : Nat) : List Char × Option Unfinished :=
  match state with
  | none => leadByte b
  | some u =>
    if u.low ≤ b ∧ b ≤ u.high then
      let bits := u.bits * 64 + (b - 0x80)
      if u.need = 1 then ([Char.ofNat bits], none) else ([], some ⟨u.need - 1, 0x80, 0xBF, bits⟩)
    else
      let (chars, state') := leadByte b
      (replacement :: chars, state')

def decodeFrom (state : Option Unfinished) : List UInt8 → List Char
  | [] => if state.isSome then [replacement] else []
  | b :: bs =>
    let (chars, state') := nextByte state b.toNat
    chars ++ decodeFrom state' bs

def decodeUtf8 (bytes : List UInt8) : String := String.ofList (decodeFrom none bytes)

end VirtualTerminal.Text
