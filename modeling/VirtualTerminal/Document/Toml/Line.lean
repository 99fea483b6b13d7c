import VirtualTerminal.Document.Value
import VirtualTerminal.Text.Numeral
import VirtualTerminal.Text.Split

/-! # TOML lines

The part of the TOML language in which every key and value stands on one line: comments, headers of
tables and of repeated tables, and `key = value` with strings, integers, booleans and empty arrays.
-/
namespace VirtualTerminal.Document.Toml

/-- What was read from the front of a line, with the rest of the line. -/
abbrev Reading (α : Type) := Option (α × List Char)

def isSpace (c : Char) : Bool := c = ' ' || c = '\t'

def skipSpace (cs : List Char) : List Char := cs.dropWhile isSpace

/-- A control character that is not allowed in a line. -/
def isForbidden (c : Char) : Bool := decide (c.toNat < 0x20 ∧ c ≠ '\t') || c.toNat == 0x7F

def isFinished (cs : List Char) : Bool :=
  match skipSpace cs with
  | [] => true
  | '#' :: comment => !comment.any isForbidden
  | _ => false

def digit? (c : Char) : Option Nat :=
  if 'a' ≤ c ∧ c ≤ 'f' then some (c.toNat - 'a'.toNat + 10)
  else if 'A' ≤ c ∧ c ≤ 'F' then some (c.toNat - 'A'.toNat + 10)
  else Text.digitValue? c

def digitBelow? (base : Nat) (c : Char) : Option Nat := (digit? c).filter (· < base)

/-- Reads digits of a base on top of the value read so far; two digits may be separated by one
underscore. -/
def digitsValue? (base value : Nat) : List Char → Option Nat
  | [] => some value
  | '_' :: c :: rest => (digitBelow? base c).bind fun d => digitsValue? base (value * base + d) rest
  | c :: rest => (digitBelow? base c).bind fun d => digitsValue? base (value * base + d) rest

/-- The character with a code written in hexadecimal digits; surrogates are no characters. -/
def coded? (digits : List Char) : Option Char := do
  let code ← if digits.contains '_' then none else digitsValue? 16 0 digits
  if code.isValidChar then some (Char.ofNat code) else none

def escaped? (c : Char) : Option Char :=
  match c with
  | 'b' => some '\x08'
  | 't' => some '\t'
  | 'n' => some '\n'
  | 'f' => some '\x0c'
  | 'r' => some '\r'
  | '"' => some '"'
  | '\\' => some '\\'
  | _ => none

def attach : Option Char → Reading (List Char) → Reading (List Char)
  | some c, some (cs, left) => some (c :: cs, left)
  | _, _ => none

def basicString : List Char → Reading (List Char)
  | [] => none
  | '"' :: rest => some ([], rest)
  | '\\' :: 'u' :: a :: b :: c :: d :: rest => attach (coded? [a, b, c, d]) (basicString rest)
  | '\\' :: 'U' :: a :: b :: c :: d :: e :: f :: g :: h :: rest =>
    attach (coded? [a, b, c, d, e, f, g, h]) (basicString rest)
  | '\\' :: c :: rest => attach (escaped? c) (basicString rest)
  | c :: rest => attach (if c = '\\' ∨ isForbidden c then none else some c) (basicString rest)

def literalString : List Char → Reading (List Char)
  | [] => none
  | '\'' :: rest => some ([], rest)
  | c :: rest => attach (if isForbidden c then none else some c) (literalString rest)

def isKeyChar (c : Char) : Bool := c.isAlphanum || c = '_' || c = '-'

def simpleKey (cs : List Char) : Reading String :=
  match cs with
  | '"' :: rest => (basicString rest).map fun (k, left) => (String.ofList k, left)
  | '\'' :: rest => (literalString rest).map fun (k, left) => (String.ofList k, left)
  | _ =>
    let name := cs.takeWhile isKeyChar
    if name = [] then none else some (String.ofList name, cs.dropWhile isKeyChar)

/-- A key, perhaps behind the names of the tables above it: those names, and its own. -/
structure DottedKey where
  above : List String
  name : String
  deriving DecidableEq, Repr

def nameLimit : Nat := 79

def namesWithin : Nat → List Char → Reading (List String)
  | 0, _ => none
  | names + 1, cs =>
    (simpleKey cs).bind fun (first, left) =>
      match skipSpace left with
      | '.' :: right =>
        (namesWithin names (skipSpace right)).map fun (rest, last) => (first :: rest, last)
      | _ => some ([first], left)

def dottedKey (cs : List Char) : Reading DottedKey :=
  (namesWithin nameLimit cs).bind fun (names, left) =>
    names.getLast?.map fun name => (⟨names.dropLast, name⟩, left)

/-- A decimal number has no leading zero. -/
def decimal? : List Char → Option Nat
  | ['0'] => some 0
  | '0' :: _ => none
  | c :: rest => (digitBelow? 10 c).bind fun d => digitsValue? 10 d rest
  | [] => none

def based? (base : Nat) : List Char → Option Nat
  | c :: rest => (digitBelow? base c).bind fun d => digitsValue? base d rest
  | [] => none

/-- An integer of 64 bits; only decimal ones have a sign. -/
def integer? (cs : List Char) : Option Int :=
  let found : Option Int :=
    match cs with
    | '0' :: 'x' :: digits => (based? 16 digits).map fun n => (n : Int)
    | '0' :: 'o' :: digits => (based? 8 digits).map fun n => (n : Int)
    | '0' :: 'b' :: digits => (based? 2 digits).map fun n => (n : Int)
    | '-' :: digits => (decimal? digits).map fun n => -(n : Int)
    | '+' :: digits => (decimal? digits).map fun n => (n : Int)
    | digits => (decimal? digits).map fun n => (n : Int)
  found.filter fun n => decide (Int64.minValue.toInt ≤ n ∧ n ≤ Int64.maxValue.toInt)

def word? (cs : List Char) : Option Value :=
  if cs = ['t', 'r', 'u', 'e'] then some (.boolean true)
  else if cs = ['f', 'a', 'l', 's', 'e'] then some (.boolean false)
  else (integer? cs).map .integer

def value (cs : List Char) : Reading Value :=
  match cs with
  | '"' :: rest => (basicString rest).map fun (s, left) => (.text (String.ofList s), left)
  | '\'' :: rest => (literalString rest).map fun (s, left) => (.text (String.ofList s), left)
  | '[' :: rest =>
    match skipSpace rest with
    | ']' :: left => some (.list [], left)
    | _ => none
  | _ =>
    let isWordChar := fun c => isKeyChar c || c = '+'
    (word? (cs.takeWhile isWordChar)).map fun v => (v, cs.dropWhile isWordChar)

inductive Line
  | blank
  /-- The header of a table, or of one more table of a list. -/
  | header (key : DottedKey) (repeated : Bool)
  | field (key : DottedKey) (value : Value)

def line? (cs : List Char) : Option Line :=
  if isFinished cs then some .blank
  else
    match skipSpace cs with
    | '[' :: '[' :: rest => do
      let (name, left) ← dottedKey (skipSpace rest)
      match skipSpace left with
      | ']' :: ']' :: last => if isFinished last then some (.header name true) else none
      | _ => none
    | '[' :: rest => do
      let (name, left) ← dottedKey (skipSpace rest)
      match skipSpace left with
      | ']' :: last => if isFinished last then some (.header name false) else none
      | _ => none
    | start => do
      let (name, left) ← dottedKey start
      match skipSpace left with
      | '=' :: right =>
        let (v, last) ← value (skipSpace right)
        if isFinished last then some (.field name v) else none
      | _ => none

/-- The lines of a text; a carriage return before a line feed belongs to the line break. -/
def lines : List String → List (List Char)
  | [] => []
  | [last] => [last.toList]
  | first :: rest =>
    let cs := first.toList
    (if cs.getLast? = some '\r' then cs.dropLast else cs) :: lines rest

/-- The lines of a text, without a byte order mark before the first. -/
def readLines? (text : String) : Option (List Line) :=
  let cs := text.toList
  let body := if cs.head? = some '\uFEFF' then cs.drop 1 else cs
  (lines (Text.split '\n' (String.ofList body))).mapM line?

end VirtualTerminal.Document.Toml
