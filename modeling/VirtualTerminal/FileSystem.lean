import VirtualTerminal.FileSystem.Error
import VirtualTerminal.Tree.Ordered

/-! # The file system

A tree of folders and files under one root folder. An operation resolves its operand against a
working folder. An operation that may change the tree returns a tree with its answer and with its
error alike. -/
namespace VirtualTerminal

structure FileSystem where
  entries : Entries
  ordered : entries.Ordered
  deriving DecidableEq, Repr

/-- An open file: where it is, and the name it was opened by. -/
structure EditHandle where
  path : Path
  name : String
  deriving DecidableEq, Repr

/-- A node with nothing below it; a folder has no text. -/
def Node.bare (kind : Kind) (text : String) : Node :=
  match kind with
  | .folder => .folder .nil
  | .file => .file text

theorem Node.bare_ordered (kind : Kind) (text : String) : (Node.bare kind text).Ordered := by
  cases kind <;> simp [Node.bare, Node.Ordered, Entries.Ordered]

namespace FileSystem

def empty : FileSystem := ⟨.nil, Entries.ordered_nil⟩

instance : Inhabited FileSystem := ⟨empty⟩

def lookup (fs : FileSystem) (path : Path) : Option Node := fs.entries.lookup path.segments

/-- Writes a file or an empty folder at a path, replacing any node there. -/
def put (fs : FileSystem) (path : Path) (kind : Kind) (text : String) : FileSystem :=
  ⟨fs.entries.write (some (Node.bare kind text)) path.segments,
    fs.ordered.write _ fun _ h => by cases h; exact Node.bare_ordered kind text⟩

def erase (fs : FileSystem) (path : Path) : FileSystem :=
  ⟨fs.entries.write none path.segments, fs.ordered.write _ fun _ h => nomatch h⟩

/-- Adds an entry with the folders above it, unless it exists or a file is in the way. -/
def plant (fs : FileSystem) (path : Path) (kind : Kind) (text : String) : FileSystem :=
  ⟨fs.entries.plant (Node.bare kind text) path.segments,
    fs.ordered.plant _ (Node.bare_ordered kind text)⟩

/-- Every entry with its path, parents first and the entries of a folder in order of name. -/
def contents (fs : FileSystem) : List (Path × Node) :=
  (fs.entries.descendants []).map fun entry => (⟨entry.1⟩, entry.2)

def needs (what name : String) : Except FileError Unit :=
  if name = "" then .error (.missingOperand what) else .ok ()

/-- The names in a folder with their kinds; an empty operand denotes the working folder. -/
def list (fs : FileSystem) (cwd : Path) (name : String) : Except FileError (List (String × Kind)) :=
  let shown := if name = "" then "." else name
  match fs.lookup (cwd.resolve name) with
  | none => .error (.notFound shown)
  | some (.file _) => .error (.notAFolder shown)
  | some (.folder entries) => .ok entries.kinds

def changeFolder (fs : FileSystem) (cwd : Path) (name : String) : Except FileError Path := do
  needs "folder" name
  let path := cwd.resolve name
  match fs.lookup path with
  | none => .error (.notFound name)
  | some (.file _) => .error (.notAFolder name)
  | some (.folder _) => .ok path

def read (fs : FileSystem) (cwd : Path) (name : String) : Except FileError String := do
  needs "file" name
  match fs.lookup (cwd.resolve name) with
  | none => .error (.notFound name)
  | some (.folder _) => .error (.isAFolder name)
  | some (.file text) => .ok text

/-- Adds an entry to an existing folder. The answer is the entry's own name. -/
def tryInsert (fs : FileSystem) (cwd : Path) (name : String) (kind : Kind) (text what : String) :
    Except FileError String × FileSystem :=
  match needs what name with
  | .error e => (.error e, fs)
  | .ok () =>
    let path := cwd.resolve name
    match path.splitLeaf? with
    | none => (.error (.invalidPath name), fs)
    | some (parent, leaf) =>
      match fs.lookup parent with
      | some (.folder entries) =>
        match entries.find? leaf with
        | some _ => (.error (.alreadyExists leaf), fs)
        | none => (.ok leaf, fs.put path kind text)
      | _ => (.error (.invalidPath name), fs)

def tryMakeFolder (fs : FileSystem) (cwd : Path) (name : String) :
    Except FileError String × FileSystem :=
  fs.tryInsert cwd name .folder "" "folder name"

def tryMakeFile (fs : FileSystem) (cwd : Path) (name : String) :
    Except FileError String × FileSystem :=
  fs.tryInsert cwd name .file "" "file name"

def tryCreateFile (fs : FileSystem) (cwd : Path) (name text : String) :
    Except FileError String × FileSystem :=
  fs.tryInsert cwd name .file text "file name"

/-- Removes a file or an empty folder. The answer is its own name. The working folder and the
folders above it stay. -/
def tryRemove (fs : FileSystem) (cwd : Path) (name : String) :
    Except FileError String × FileSystem :=
  match needs "file or folder" name with
  | .error e => (.error e, fs)
  | .ok () =>
    let path := cwd.resolve name
    if path.isAtOrAbove cwd then (.error (.invalidPath name), fs)
    else
      match path.splitLeaf? with
      | none => (.error (.invalidPath name), fs)
      | some (parent, leaf) =>
        match fs.lookup parent with
        | some (.folder entries) =>
          match entries.find? leaf with
          | none => (.error (.notFound name), fs)
          | some (.folder (.cons _ _ _)) => (.error (.folderNotEmpty leaf), fs)
          | some _ => (.ok leaf, fs.erase path)
        | _ => (.error (.notFound name), fs)

def beginEdit (fs : FileSystem) (cwd : Path) (name : String) : Except FileError EditHandle := do
  needs "file" name
  let path := cwd.resolve name
  match fs.lookup path with
  | none => .error (.notFound name)
  | some (.folder _) => .error (.isAFolder name)
  | some (.file _) => .ok ⟨path, name⟩

def tryAppendLine (fs : FileSystem) (handle : EditHandle) (line : String) :
    Except FileError Unit × FileSystem :=
  match fs.lookup handle.path with
  | none => (.error (.notFound handle.name), fs)
  | some (.folder _) => (.error (.isAFolder handle.name), fs)
  | some (.file text) => (.ok (), fs.put handle.path .file (text ++ line ++ "\n"))

/-- The tree and the answer of a successful change. -/
def changed {ε α : Type} : Except ε α × FileSystem → Except ε (FileSystem × α)
  | (.ok answer, fs) => .ok (fs, answer)
  | (.error e, _) => .error e

def insert (fs : FileSystem) (cwd : Path) (name : String) (kind : Kind) (text what : String) :
    Except FileError (FileSystem × String) :=
  changed (fs.tryInsert cwd name kind text what)

def makeFolder (fs : FileSystem) (cwd : Path) (name : String) :
    Except FileError (FileSystem × String) :=
  fs.insert cwd name .folder "" "folder name"

def makeFile (fs : FileSystem) (cwd : Path) (name : String) :
    Except FileError (FileSystem × String) :=
  fs.insert cwd name .file "" "file name"

def createFile (fs : FileSystem) (cwd : Path) (name text : String) :
    Except FileError (FileSystem × String) :=
  fs.insert cwd name .file text "file name"

def remove (fs : FileSystem) (cwd : Path) (name : String) :
    Except FileError (FileSystem × String) :=
  changed (fs.tryRemove cwd name)

def appendLine (fs : FileSystem) (handle : EditHandle) (line : String) :
    Except FileError FileSystem :=
  (changed (fs.tryAppendLine handle line)).map Prod.fst

end FileSystem
end VirtualTerminal
