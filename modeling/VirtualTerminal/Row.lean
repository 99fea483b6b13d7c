import VirtualTerminal.Tree

/-! # Rows

One row of the terminal: a message in a tone, a command line with its prompt, or an entry of a
folder. -/
namespace VirtualTerminal

inductive Tone
  | plain
  | error
  | success
  | info
  deriving DecidableEq, Repr

inductive Row
  | message (tone : Tone) (text : String)
  | command (prompt input : String)
  | entry (name : String) (kind : Kind)
  deriving DecidableEq, Repr

namespace Row

abbrev text (s : String) : Row := .message .plain s

abbrev error (s : String) : Row := .message .error s

abbrev success (s : String) : Row := .message .success s

abbrev info (s : String) : Row := .message .info s

def kindTag : Kind → String
  | .folder => "[DIR] "
  | .file => "[FILE] "

def plainText : Row → String
  | .message _ s => s
  | .command prompt input => prompt ++ input
  | .entry name kind => kindTag kind ++ name

end Row
end VirtualTerminal
