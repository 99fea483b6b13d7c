/-! # Autocode

A fixed program that is typed one character per key. -/
namespace VirtualTerminal

/-- The number of characters typed so far. -/
structure Autocode where
  cursor : Nat
  deriving DecidableEq, Repr

inductive AutocodeStep
  | typed (c : Char)
  | lineDone
  | finished
  deriving DecidableEq, Repr

namespace Autocode

def program : String :=
  "MOV AX, BX\nADD AX, 1\nCMP AX, 10\nJMP START\nLOAD R1, 0xFF\nCALL Subroutine\n" ++
    "PRINT \"HELLO WORLD\"\nNOP\nEND\n"

def start : Autocode := ⟨0⟩

def advance (player : Autocode) : AutocodeStep × Autocode :=
  match program.toList[player.cursor]? with
  | none => (.finished, player)
  | some c => (if c = '\n' then .lineDone else .typed c, ⟨player.cursor + 1⟩)

end Autocode
end VirtualTerminal
