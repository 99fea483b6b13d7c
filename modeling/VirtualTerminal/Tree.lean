import VirtualTerminal.Path

/-! # File trees

A tree of folders and files whose folders list their entries in increasing order of name, so that
two trees with the same contents are equal. Reading and writing follow a list of names; a write at a
path changes that entry alone and needs the folder above it. -/
namespace VirtualTerminal

inductive Kind
  | folder
  | file
  deriving DecidableEq, Repr

mutual

inductive Node
  | file (text : String)
  | folder (entries : Entries)
  deriving DecidableEq, Repr

inductive Entries
  | nil
  | cons (name : String) (node : Node) (rest : Entries)
  deriving DecidableEq, Repr

end

instance : Inhabited Entries := ⟨.nil⟩

def Node.kind : Node → Kind
  | .file _ => .file
  | .folder _ => .folder

namespace Entries

def names : Entries → List String
  | .nil => []
  | .cons name _ rest => name :: rest.names

def kinds : Entries → List (String × Kind)
  | .nil => []
  | .cons name node rest => (name, node.kind) :: rest.kinds

def find? (name : String) : Entries → Option Node
  | .nil => none
  | .cons key node rest => if key = name then some node else rest.find? name

/-- Puts a node under a name, in order of names, or takes the name away. -/
def set (name : String) (value : Option Node) : Entries → Entries
  | .nil =>
    match value with
    | none => .nil
    | some node => .cons name node .nil
  | .cons key node rest =>
    if name < key then
      match value with
      | none => .cons key node rest
      | some node' => .cons name node' (.cons key node rest)
    else if name = key then
      match value with
      | none => rest
      | some node' => .cons name node' rest
    else .cons key node (rest.set name value)

def lookup : List String → Entries → Option Node
  | [], entries => some (.folder entries)
  | name :: names, entries =>
    match entries.find? name with
    | none => none
    | some (.file text) => if names = [] then some (.file text) else none
    | some (.folder inner) => inner.lookup names

/-- Puts a node at a path, or takes away what is there; without a folder above it nothing changes.
-/
def write (value : Option Node) : List String → Entries → Entries
  | [], entries => entries
  | [name], entries => entries.set name value
  | name :: names, entries =>
    match entries.find? name with
    | some (.folder inner) => entries.set name (some (.folder (inner.write value names)))
    | _ => entries

/-- Adds a node at a free path together with the folders above it; an entry that exists stays, and a
file on the way blocks the whole addition. -/
def plant (node : Node) : List String → Entries → Entries
  | [], entries => entries
  | [name], entries =>
    match entries.find? name with
    | none => entries.set name (some node)
    | some _ => entries
  | name :: names, entries =>
    match entries.find? name with
    | none => entries.set name (some (.folder (plant node names .nil)))
    | some (.folder inner) => entries.set name (some (.folder (inner.plant node names)))
    | some (.file _) => entries

end Entries

mutual

/-- Every folder of the node lists its names in strictly increasing order. -/
def Node.Ordered : Node → Prop
  | .file _ => True
  | .folder entries => entries.Ordered

def Entries.Ordered : Entries → Prop
  | .nil => True
  | .cons name node rest => (∀ key ∈ rest.names, name < key) ∧ node.Ordered ∧ rest.Ordered

end

mutual

/-- The paths that lie under a node with the node at each, parents first and siblings in order. -/
def Node.descendants (above : List String) : Node → List (List String × Node)
  | .file _ => []
  | .folder entries => entries.descendants above

def Entries.descendants (above : List String) : Entries → List (List String × Node)
  | .nil => []
  | .cons name node rest =>
    (above ++ [name], node) :: node.descendants (above ++ [name]) ++ rest.descendants above

end

end VirtualTerminal
