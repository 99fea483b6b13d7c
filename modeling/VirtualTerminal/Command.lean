import VirtualTerminal.Text.AsciiCase
import VirtualTerminal.Text.Blank
import VirtualTerminal.Text.LowerCase
import VirtualTerminal.Text.Quoted
import VirtualTerminal.Text.Split

/-! # Commands

Parsing of command lines. The first word, in any case, names the command; the rest is ignored, taken
verbatim, taken as words, or taken as the name of a script. -/
namespace VirtualTerminal

inductive Builtin
  | clear
  | help
  | whoami
  | date
  | hello
  | autocode
  | loading
  | colorCycle
  | exit
  | guess
  | cheer
  deriving DecidableEq, Repr

inductive FileVerb
  | ls
  | cd
  | mkdir
  | touch
  | cat
  | rm
  | edit
  deriving DecidableEq, Repr

inductive Command
  | builtin (b : Builtin)
  | echo (text : String)
  | reverse (text : String)
  | script
  | scriptRun (name : String)
  | file (verb : FileVerb) (operand : String)
  | empty
  | unknown (line : String)
  deriving DecidableEq, Repr

/-- The sub-programs that take over the keyboard. -/
inductive Modal
  | edit
  | script
  | guess
  | autocode
  deriving DecidableEq, Repr

namespace Builtin

def all : List Builtin :=
  [.clear, .help, .whoami, .date, .hello, .autocode, .loading, .colorCycle, .exit, .guess, .cheer]

def word : Builtin → String
  | .clear => "clear"
  | .help => "help"
  | .whoami => "whoami"
  | .date => "date"
  | .hello => "hello"
  | .autocode => "autocode"
  | .loading => "loading"
  | .colorCycle => "colorcycle"
  | .exit => "exit"
  | .guess => "guess"
  | .cheer => "sad"

def ofWord? (word : String) : Option Builtin := all.find? fun b => b.word = word

def tag : Builtin → String
  | .clear => "Clear"
  | .help => "Help"
  | .whoami => "Whoami"
  | .date => "Date"
  | .hello => "Hello"
  | .autocode => "Autocode"
  | .loading => "Loading"
  | .colorCycle => "ColorCycle"
  | .exit => "Exit"
  | .guess => "Guess"
  | .cheer => "Cheer"

end Builtin

namespace FileVerb

def all : List FileVerb := [.ls, .cd, .mkdir, .touch, .cat, .rm, .edit]

def word : FileVerb → String
  | .ls => "ls"
  | .cd => "cd"
  | .mkdir => "mkdir"
  | .touch => "touch"
  | .cat => "cat"
  | .rm => "rm"
  | .edit => "edit"

def ofWord? (word : String) : Option FileVerb := all.find? fun verb => verb.word = word

def tag : FileVerb → String
  | .ls => "Ls"
  | .cd => "Cd"
  | .mkdir => "Mkdir"
  | .touch => "Touch"
  | .cat => "Cat"
  | .rm => "Rm"
  | .edit => "Edit"

end FileVerb

namespace Modal

def word : Modal → String
  | .edit => "edit"
  | .script => "script"
  | .guess => "guess"
  | .autocode => "autocode"

def label : Modal → String
  | .edit => "Edit"
  | .script => "Script"
  | .guess => "Guessing Game"
  | .autocode => "Autocode"

end Modal

namespace Command

def parseScript (line rest : String) : Command :=
  let rest := Text.trim rest
  if rest = "" then .script
  else
    let (sub, name) := Text.cutAtBlank rest
    if Text.sameButCase sub "run" then .scriptRun (Text.trim name) else .unknown line

/-- Reads a line that is trimmed and not empty. -/
def parseTrimmed (line : String) : Command :=
  let (first, rest) := Text.cutAtBlank line
  let word := Text.lower first
  match Builtin.ofWord? word, FileVerb.ofWord? word with
  | some b, _ => if rest = "" then .builtin b else .unknown line
  | none, some verb => .file verb (Text.join ' ' (Text.words rest))
  | none, none =>
    if word = "echo" then .echo rest
    else if word = "reverse" ∧ rest ≠ "" then .reverse rest
    else if word = "script" then parseScript line rest
    else .unknown line

def parse (line : String) : Command :=
  let line := Text.trim line
  if line = "" then .empty else parseTrimmed line

def modal? : Command → Option Modal
  | .builtin .autocode => some .autocode
  | .builtin .guess => some .guess
  | .script => some .script
  | .file .edit _ => some .edit
  | _ => none

/-- The commands allowed in a script: their only request is to clear the screen. -/
def isScriptSafe : Command → Bool
  | .echo _ | .reverse _ => true
  | .builtin .whoami | .builtin .date | .builtin .clear => true
  | .file .ls _ | .file .cat _ | .file .mkdir _ | .file .touch _ | .file .rm _ => true
  | _ => false

def tag : Command → String
  | .builtin b => b.tag
  | .echo _ => "Echo"
  | .reverse _ => "Reverse"
  | .script => "Script"
  | .scriptRun _ => "ScriptRun"
  | .file verb _ => verb.tag
  | .empty => "Empty"
  | .unknown _ => "Unknown"

def argument? : Command → Option String
  | .echo text | .reverse text => some text
  | .scriptRun name => some name
  | .file _ operand => some operand
  | .unknown line => some line
  | .builtin _ | .script | .empty => none

def describe (c : Command) : String :=
  match c.argument? with
  | none => c.tag
  | some argument => c.tag ++ "(" ++ Text.quoted argument ++ ")"

end Command
end VirtualTerminal
