import VirtualTerminal.Text.Split

/-! # Paths

Absolute paths as lists of segments. Reading a text as a path removes empty and one-dot segments and
lets two or three dots drop the segment before them, so that the root is its own parent. -/
namespace VirtualTerminal

structure Path where
  segments : List String
  deriving DecidableEq, Repr, Inhabited

namespace Path

def root : Path := ⟨[]⟩

def parent (p : Path) : Path := ⟨p.segments.dropLast⟩

def child (p : Path) (name : String) : Path := ⟨p.segments ++ [name]⟩

def walk (p : Path) (part : String) : Path :=
  if part = "" ∨ part = "." then p
  else if part = ".." ∨ part = "..." then p.parent
  else p.child part

/-- The path of a written path, from the working folder or, with a leading slash, from the root. -/
def resolve (cwd : Path) (written : String) : Path :=
  (Text.split '/' written).foldl walk (if written.toList.head? = some '/' then root else cwd)

/-- The last segment; the root has none. -/
def name? (p : Path) : Option String := p.segments.getLast?

def splitLeaf? (p : Path) : Option (Path × String) := p.name?.map fun name => (p.parent, name)

def isAtOrAbove (p q : Path) : Bool := p.segments.isPrefixOf q.segments

def toText (p : Path) : String := "/" ++ Text.join '/' p.segments

end Path

/-- A name allowed as a segment: not empty, without a slash, and none of the dot segments. -/
def PlainName (name : String) : Prop :=
  name ≠ "" ∧ '/' ∉ name.toList ∧ name ≠ "." ∧ name ≠ ".." ∧ name ≠ "..."

instance (name : String) : Decidable (PlainName name) := by unfold PlainName; infer_instance

end VirtualTerminal
