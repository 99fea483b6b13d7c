import VirtualTerminal.Row
import VirtualTerminal.Text.Split

/-! # The scrollback

The rows shown by the terminal. A message is cut to a number of characters and then split into one
row per line; at capacity, each new row removes the oldest. -/
namespace VirtualTerminal

structure Scrollback where
  capacity : Nat
  maxChars : Nat
  rows : List Row
  deriving DecidableEq, Repr

namespace Scrollback

/-- There is room for one row at least. -/
def new (capacity maxChars : Nat) : Scrollback := ⟨max capacity 1, maxChars, []⟩

def pushRow (log : Scrollback) (row : Row) : Scrollback :=
  let kept := if log.rows.length = log.capacity then log.rows.drop 1 else log.rows
  { log with rows := kept ++ [row] }

/-- A message that fits and has no line break is stored whole. -/
def push (log : Scrollback) : Row → Scrollback
  | .message tone s =>
    let capped := String.ofList (s.toList.take log.maxChars)
    if capped = s ∧ '\n' ∉ s.toList then log.pushRow (.message tone s)
    else (Text.split '\n' capped).foldl (fun log line => log.pushRow (.message tone line)) log
  | row => log.pushRow row

def extend (log : Scrollback) (rows : List Row) : Scrollback := rows.foldl push log

def clear (log : Scrollback) : Scrollback := { log with rows := [] }

def texts (log : Scrollback) : List String := log.rows.map Row.plainText

end Scrollback
end VirtualTerminal
