/-! # Keys -/
namespace VirtualTerminal

inductive Key
  | char (c : Char)
  | enter
  | backspace
  | escape
  | other
  deriving DecidableEq, Repr

/-- The key with a name, where a name of one character is that character. Keys pressed in a chord
are left to the shortcuts they belong to. -/
def Key.ofName (name : String) (chorded : Bool) : Key :=
  if chorded then .other
  else if name = "Enter" then .enter
  else if name = "Backspace" then .backspace
  else if name = "Escape" then .escape
  else
    match name.toList with
    | [c] => .char c
    | _ => .other

end VirtualTerminal
