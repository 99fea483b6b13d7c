/-! # Separated texts

Splitting a text at every occurrence of a separator, and joining pieces with one between them. A
text always splits into at least one piece. -/
namespace VirtualTerminal.Text

def splitChars (sep : Char) : List Char → List (List Char)
  | [] => [[]]
  | c :: cs =>
    if c = sep then [] :: splitChars sep cs
    else
      match splitChars sep cs with
      | [] => [[c]]
      | p :: ps => (c :: p) :: ps

def joinChars (sep : Char) : List (List Char) → List Char
  | [] => []
  | [p] => p
  | p :: q :: ps => p ++ sep :: joinChars sep (q :: ps)

def split (sep : Char) (s : String) : List String := (splitChars sep s.toList).map String.ofList

def join (sep : Char) (ps : List String) : String :=
  String.ofList (joinChars sep (ps.map String.toList))

end VirtualTerminal.Text
