import VirtualTerminal.Text.Blank
import VirtualTerminal.Text.Utf8

/-! # The console

A writer collects the bytes of one log record and, when it is closed, emits them as one line. -/
namespace VirtualTerminal

structure ConsoleWriter where
  bytes : List UInt8
  deriving DecidableEq, Repr

namespace ConsoleWriter

def new : ConsoleWriter := ⟨[]⟩

def write (w : ConsoleWriter) (chunk : List UInt8) : ConsoleWriter := ⟨w.bytes ++ chunk⟩

/-- The text without the white space at its end, on a line of its own; a blank text is not emitted.
-/
def close (w : ConsoleWriter) : String :=
  let text := Text.trimEnd (Text.decodeUtf8 w.bytes)
  if text = "" then "" else text ++ "\n"

def emitted (chunks : List (List UInt8)) : String := (chunks.foldl write new).close

end ConsoleWriter
end VirtualTerminal
