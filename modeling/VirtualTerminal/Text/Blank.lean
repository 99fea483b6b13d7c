/-! # White space

Trimming, cutting at the first blank and splitting into words, for the white space of Unicode. -/
namespace VirtualTerminal.Text

/-- The characters with the Unicode property White_Space. -/
def isBlank (c : Char) : Bool :=
  let n := c.toNat
  decide (9 ≤ n ∧ n ≤ 13) || n == 0x20 || n == 0x85 || n == 0xA0 || n == 0x1680 ||
    decide (0x2000 ≤ n ∧ n ≤ 0x200A) || n == 0x2028 || n == 0x2029 || n == 0x202F || n == 0x205F ||
    n == 0x3000

def trimStartChars (cs : List Char) : List Char := cs.dropWhile isBlank

def trimEndChars (cs : List Char) : List Char := (cs.reverse.dropWhile isBlank).reverse

def trim (s : String) : String := String.ofList (trimEndChars (trimStartChars s.toList))

def trimEnd (s : String) : String := String.ofList (trimEndChars s.toList)

def cutAtBlank (s : String) : String × String :=
  (String.ofList (s.toList.takeWhile fun c => !isBlank c),
    String.ofList ((s.toList.dropWhile fun c => !isBlank c).drop 1))

/-- The longest runs of characters that are not blank. -/
def wordChars : List Char → List (List Char)
  | [] => []
  | c :: cs =>
    if isBlank c then wordChars cs
    else
      match cs with
      | [] => [[c]]
      | d :: _ =>
        if isBlank d then [c] :: wordChars cs
        else
          match wordChars cs with
          | [] => [[c]]
          | w :: ws => (c :: w) :: ws

def words (s : String) : List String := (wordChars s.toList).map String.ofList

end VirtualTerminal.Text
