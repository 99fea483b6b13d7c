import VirtualTerminal.Command.Execute

/-! # Scripts

A script is a file with one command per line. It may contain only commands whose one request is to
clear the screen. -/
namespace VirtualTerminal.Script

def discarded (name : String) : TerminalError :=
  .invalidArgument ("Invalid name or file '" ++ name ++ "' already exists. Script discarded.")

def refused (name : String) : FileError → TerminalError
  | .alreadyExists _ => discarded name
  | e => .file e

/-- Stores recorded lines as a new file of the folder. The name is taken as one segment, not as a
path. -/
def trySave (fs : FileSystem) (cwd : Path) (name : String) (lines : List String) :
    Except TerminalError String × FileSystem :=
  if ¬ PlainName name then (.error (discarded name), fs)
  else
    let (saved, files) := fs.tryCreateFile cwd name (Text.join '\n' lines)
    (saved.mapError (refused name), files)

def save (fs : FileSystem) (cwd : Path) (name : String) (lines : List String) :
    Except TerminalError (FileSystem × String) :=
  FileSystem.changed (trySave fs cwd name lines)

def lines (content : String) : List String :=
  (Text.split '\n' content).filter fun line => Text.trim line ≠ ""

def runLine (w : Surroundings) (line : String) : Execution :=
  let command := Command.parse line
  if command.isScriptSafe then command.execute w
  else .fail w (.scriptLineUnsupported (Text.trim line))

end VirtualTerminal.Script
