import VirtualTerminal.Chance
import VirtualTerminal.Clock
import VirtualTerminal.Command
import VirtualTerminal.Command.Canned
import VirtualTerminal.Command.Error
import VirtualTerminal.FileSystem
import VirtualTerminal.Record
import VirtualTerminal.Row

/-! # Running commands

A command reads and changes the files directly. Anything that it needs of the session, such as
another working folder or a mode, is returned as a request. -/
namespace VirtualTerminal

/-- The parts of a session that a command may use: the files, the working folder, random numbers and
the clock. -/
structure Surroundings where
  files : FileSystem
  cwd : Path
  random : Chance
  clock : Clock

inductive Request
  | clearScreen
  | changeFolder (path : Path)
  | startAutocode
  | startGuess
  | startScript
  | startEdit (handle : EditHandle)
  | runScript (name content : String)
  | startLoading
  | toggleColor
  | shutdown
  deriving DecidableEq, Repr

/-- The result of running a command. -/
structure Execution where
  files : FileSystem
  random : Chance
  clock : Clock
  output : List Row
  request : Option Request
  records : List Record

namespace Execution

def print (w : Surroundings) (rows : List Row) : Execution :=
  ⟨w.files, w.random, w.clock, rows, none, []⟩

def ask (w : Surroundings) (request : Request) : Execution :=
  ⟨w.files, w.random, w.clock, [], some request, []⟩

def fail (w : Surroundings) (error : TerminalError) : Execution := print w [.error error.message]

def change (w : Surroundings) (files : FileSystem) (message : String) (record : Record) :
    Execution :=
  ⟨files, w.random, w.clock, [.success message], none, [record]⟩

/-- The files after a change, or the error that kept it from being made. -/
def report (w : Surroundings) (message : String → String) (record : Record) :
    Except FileError String × FileSystem → Execution
  | (.ok leaf, files) => change w files (message leaf) record
  | (.error e, files) => fail { w with files } (.file e)

end Execution

namespace Command
open Execution

def runBuiltin (w : Surroundings) : Builtin → Execution
  | .clear => ask w .clearScreen
  | .help => print w (helpLines.map Row.text)
  | .whoami => print w [.text userName]
  | .date =>
    let (text, clock) := w.clock.read
    { print w [.text text] with clock }
  | .hello => print w (helloLines.map Row.text)
  | .autocode => ask w .startAutocode
  | .loading => ask w .startLoading
  | .colorCycle => ask w .toggleColor
  | .exit => ask w .shutdown
  | .guess => ask w .startGuess
  | .cheer =>
    let (i, random) := w.random.draw cheerLines.length
    { print w [.success (cheerLines[i]?.getD "")] with random }

def listing (entries : List (String × Kind)) : List Row :=
  if entries = [] then [.text "(empty)"] else entries.map fun entry => .entry entry.1 entry.2

/-- A whole file as one message, without its last line feed. -/
def fileText (text : String) : String :=
  if text = "" then "(empty)"
  else if text.toList.getLast? = some '\n' then String.ofList text.toList.dropLast
  else text

def runFile (w : Surroundings) (name : String) : FileVerb → Execution
  | .ls =>
    match w.files.list w.cwd name with
    | .ok entries => print w (listing entries)
    | .error e => fail w (.file e)
  | .cd =>
    match w.files.changeFolder w.cwd name with
    | .ok path => ask w (.changeFolder path)
    | .error e => fail w (.file e)
  | .mkdir =>
    report w (fun leaf => "Folder \"" ++ leaf ++ "\" created")
      (.created (w.cwd.resolve name) .folder) (w.files.tryMakeFolder w.cwd name)
  | .touch =>
    report w (fun leaf => "File \"" ++ leaf ++ "\" created")
      (.created (w.cwd.resolve name) .file) (w.files.tryMakeFile w.cwd name)
  | .cat =>
    match w.files.read w.cwd name with
    | .ok text => print w [.text (fileText text)]
    | .error e => fail w (.file e)
  | .rm =>
    report w (fun leaf => "\"" ++ leaf ++ "\" removed") (.removed (w.cwd.resolve name))
      (w.files.tryRemove w.cwd name)
  | .edit =>
    match w.files.beginEdit w.cwd name with
    | .ok handle => ask w (.startEdit handle)
    | .error e => fail w (.file e)

def runScriptFile (w : Surroundings) (name : String) : Execution :=
  if name = "" then fail w (.invalidArgument "Specify script file")
  else
    match w.files.read w.cwd name with
    | .ok content => ask w (.runScript name content)
    | .error _ =>
      fail w (.invalidArgument ("Script file '" ++ name ++ "' not found or is a directory."))

def execute (w : Surroundings) : Command → Execution
  | .empty => print w []
  | .builtin b => runBuiltin w b
  | .echo text => print w [.text text]
  | .reverse text => print w [.text (String.ofList text.toList.reverse)]
  | .script => ask w .startScript
  | .scriptRun name => runScriptFile w name
  | .file verb operand => runFile w operand verb
  | .unknown line => fail w (.unknownCommand line)

end Command
end VirtualTerminal
