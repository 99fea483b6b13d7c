import VirtualTerminal.Text.CaseTable

/-! # Lower case

The full lower-case mapping of Unicode. It is applied character by character, except that a capital
sigma becomes the final form at the end of a word: after a cased letter and not before one, with
characters ignorable for case skipped. -/
namespace VirtualTerminal.Text

def inRanges (ranges : List (Nat × Nat)) (c : Char) : Bool :=
  ranges.any fun r => decide (r.1 ≤ c.toNat ∧ c.toNat ≤ r.2)

def isCased (c : Char) : Bool := inRanges casedRanges c

def isCaseIgnorable (c : Char) : Bool := inRanges ignorableRanges c

/-- The lower case of a character, independent of its neighbours; only the dotted capital I has two.
-/
def lowerChar (c : Char) : List Char :=
  if c = 'İ' then ['i', '\u0307']
  else [Char.ofNat ((lowerRuns.findSome? fun r => r.image? c.toNat).getD c.toNat)]

def meetsCased (cs : List Char) : Bool :=
  match cs.dropWhile isCaseIgnorable with
  | [] => false
  | c :: _ => isCased c

/-- The lower case of a text, given the characters before it, nearest first. -/
def lowerAfter (before : List Char) : List Char → List Char
  | [] => []
  | c :: cs =>
    let image :=
      if c = 'Σ' then [if meetsCased before && !meetsCased cs then 'ς' else 'σ'] else lowerChar c
    image ++ lowerAfter (c :: before) cs

def lower (s : String) : String := String.ofList (lowerAfter [] s.toList)

end VirtualTerminal.Text
