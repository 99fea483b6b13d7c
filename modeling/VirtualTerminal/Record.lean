import VirtualTerminal.Text.Blank
import VirtualTerminal.Text.Quoted
import VirtualTerminal.Tree

/-! # Log records

The log of the terminal: a level, the part that writes, a message and named fields. -/
namespace VirtualTerminal

inductive Level
  | debug
  | info
  | warn
  deriving DecidableEq, Repr

inductive Source
  | page
  | timers
  | files
  | session
  | controller
  deriving DecidableEq, Repr

structure Record where
  level : Level
  source : Source
  message : String
  fields : List (String × String)
  deriving DecidableEq, Repr

def Level.label : Level → String
  | .debug => "DEBUG"
  | .info => " INFO"
  | .warn => " WARN"

def Source.label : Source → String
  | .page => "arm23_term::app"
  | .timers => "arm23_term::components::terminal::timers"
  | .files => "arm23_term::core::filesystem"
  | .session => "arm23_term::core::session"
  | .controller => "arm23_term::core::session::controller"

namespace Record

def text (r : Record) : String :=
  r.level.label ++ " " ++ r.source.label ++ ": " ++ r.message ++
    String.join (r.fields.map fun field => " " ++ field.1 ++ "=" ++ field.2)

/-- The line of the record on the console, which drops white space at the end. -/
def line (r : Record) : String := Text.trimEnd r.text

def kindLabel : Kind → String
  | .folder => "Folder"
  | .file => "File"

def created (path : Path) (kind : Kind) : Record :=
  ⟨.debug, .files, "created entry", [("path", path.toText), ("kind", kindLabel kind)]⟩

def removed (path : Path) : Record := ⟨.debug, .files, "removed entry", [("path", path.toText)]⟩

def ofController (level : Level) (message : String) (fields : List (String × String)) : Record :=
  ⟨level, .controller, message, fields⟩

end Record
end VirtualTerminal
