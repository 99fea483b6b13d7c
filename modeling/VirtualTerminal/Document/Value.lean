/-! # Documents

Values of a structured document, such as a configuration text or a message. -/
namespace VirtualTerminal.Document

inductive Value
  | text (s : String)
  | integer (n : Int)
  | boolean (b : Bool)
  | nothing
  | list (items : List Value)
  | table (fields : List (String × Value))
  deriving Inhabited

abbrev Fields := List (String × Value)

/-- The two kinds of documents, which differ in what they write for a key without a value: nothing
in a message, an empty list or table in a configuration. -/
inductive Style
  | message
  | configuration
  deriving DecidableEq, Repr

def Style.isVacant : Style → Value → Bool
  | .message, .nothing => true
  | .configuration, .list [] => true
  | .configuration, .table [] => true
  | _, _ => false

def Value.text? : Value → Option String
  | .text s => some s
  | _ => none

/-- The value of a field; a table of a valid document has each key once. -/
def field? (key : String) (fields : Fields) : Option Value :=
  (fields.find? fun field => field.1 = key).map Prod.snd

end VirtualTerminal.Document
