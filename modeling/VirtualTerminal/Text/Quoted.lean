/-! # Quoted text

Text between double quotes, with a backslash before each quote and backslash and the letter escapes
for tab, line feed and carriage return. -/
namespace VirtualTerminal.Text

def quotedChar (c : Char) : List Char :=
  if c = '"' then ['\\', '"']
  else if c = '\\' then ['\\', '\\']
  else if c = '\t' then ['\\', 't']
  else if c = '\n' then ['\\', 'n']
  else if c = '\r' then ['\\', 'r']
  else [c]

def quoted (s : String) : String := String.ofList ('"' :: s.toList.flatMap quotedChar ++ ['"'])

end VirtualTerminal.Text
