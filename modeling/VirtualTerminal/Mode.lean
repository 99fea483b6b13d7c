import VirtualTerminal.Command
import VirtualTerminal.Demo.Autocode
import VirtualTerminal.Demo.Guess
import VirtualTerminal.FileSystem

/-! # Modes

The sub-program that has the keyboard, with its data. -/
namespace VirtualTerminal

inductive Mode
  | normal
  | editing (handle : EditHandle)
  /-- Recording the lines of a script. -/
  | collecting (lines : List String)
  /-- Waiting for the name of the recorded script. -/
  | naming (lines : List String)
  | guessing (game : GuessGame)
  | autocoding (player : Autocode)
  deriving DecidableEq, Repr

namespace Mode

def modal? : Mode → Option Modal
  | .normal => none
  | .editing _ => some .edit
  | .collecting _ | .naming _ => some .script
  | .guessing _ => some .guess
  | .autocoding _ => some .autocode

def label (mode : Mode) : String := (mode.modal?.map Modal.label).getD "Normal"

def word (mode : Mode) : String := (mode.modal?.map Modal.word).getD "normal"

end Mode
end VirtualTerminal
