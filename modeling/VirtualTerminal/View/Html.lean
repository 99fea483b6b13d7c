/-! # HTML

Elements and text nodes, written without anything between them. -/
namespace VirtualTerminal.Html

def escapedChar (c : Char) : List Char :=
  if c = '&' then "&amp;".toList
  else if c = '<' then "&lt;".toList
  else if c = '>' then "&gt;".toList
  else [c]

/-- A text node. An empty text is written as one space, so that the node is not lost. -/
def text (s : String) : List Char := if s = "" then [' '] else s.toList.flatMap escapedChar

/-- An attribute with its value, which holds no quotes. -/
def assignment (name value : String) : List Char :=
  ' ' :: name.toList ++ '=' :: '"' :: value.toList ++ ['"']

def element (tag : String) (attributes : List (String × String)) (inner : List Char) : List Char :=
  '<' :: tag.toList ++ (attributes.flatMap fun a => assignment a.1 a.2) ++ '>' :: inner ++
    '<' :: '/' :: tag.toList ++ ['>']

end VirtualTerminal.Html
