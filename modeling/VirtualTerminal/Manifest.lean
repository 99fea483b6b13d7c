import VirtualTerminal.Document.Toml
import VirtualTerminal.FileSystem

/-! # Manifests

A manifest lists the files and folders of an initial file system. Its entries are planted in order;
an entry adds to the tree before it and never changes it. -/
namespace VirtualTerminal

structure ManifestEntry where
  path : String
  kind : Kind
  content : String
  deriving DecidableEq, Repr

namespace ManifestEntry
open Document

def kindNamed? (name : String) : Option Kind :=
  if name = "file" then some .file else if name = "folder" then some .folder else none

/-- A kind is written as its name, alone or as the only key of a table without a value. -/
def kind? (style : Style) : Value → Option Kind
  | .text name => kindNamed? name
  | .table [(name, v)] => if style.isVacant v then kindNamed? name else none
  | _ => none

/-- A field that may be missing but not malformed. -/
def fieldOr {α : Type} (default : α) (read : Value → Option α) : Option Value → Option α
  | none => some default
  | some v => read v

/-- An entry is a table of its fields or the list of their values in order; only the path is
required. -/
def ofValue? (style : Style) : Value → Option ManifestEntry
  | .table fields => do
    let path ← (← field? "path" fields).text?
    let kind ← fieldOr .file (kind? style) (field? "kind" fields)
    let content ← fieldOr "" Value.text? (field? "content" fields)
    return ⟨path, kind, content⟩
  | .list (path :: rest) =>
    if rest.length ≤ 2 then do
      let path ← path.text?
      let kind ← fieldOr .file (kind? style) rest[0]?
      let content ← fieldOr "" Value.text? rest[1]?
      return ⟨path, kind, content⟩
    else none
  | _ => none

def ofDocument? (style : Style) (fields : Fields) : Option (List ManifestEntry) :=
  match field? "entries" fields with
  | none => some []
  | some (.list items) => items.mapM (ofValue? style)
  | some _ => none

def ofToml? (text : String) : Option (List ManifestEntry) :=
  (Toml.parse? text).bind (ofDocument? .configuration)

end ManifestEntry

namespace FileSystem

/-- Adds one entry, unless it exists or a file is in the way. -/
def plantEntry (fs : FileSystem) (entry : ManifestEntry) : FileSystem :=
  fs.plant (Path.root.resolve entry.path) entry.kind entry.content

def ofManifest (entries : List ManifestEntry) : FileSystem := entries.foldl plantEntry empty

@[irreducible] def seedText : String := Text.join '\n' [
  "# Initial contents of the virtual filesystem.",
  "#",
  "# kind defaults to \"file\"; content is ignored for folders.",
  "",
  "[[entries]]",
  "path = \"readme.txt\"",
  "content = \"Welcome to ARM-23 virtual terminal!\"",
  "",
  "[[entries]]",
  "path = \"docs\"",
  "kind = \"folder\"",
  ""]

/-- The tree used when the seed text does not parse. -/
def defaultTree : FileSystem :=
  (empty.put ⟨["readme.txt"]⟩ .file "Welcome to ARM-23 virtual terminal!").put ⟨["docs"]⟩ .folder ""

/-- The tree of the seed text. -/
def seeded : FileSystem :=
  match ManifestEntry.ofToml? seedText with
  | some entries => ofManifest entries
  | none => defaultTree

end FileSystem
end VirtualTerminal
