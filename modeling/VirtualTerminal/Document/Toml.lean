import VirtualTerminal.Document.Toml.Line

/-! # TOML documents

The tables that the lines of a document build. A document with a line that cannot be read is
refused, and so is one that defines a key twice or opens a table twice. -/
namespace VirtualTerminal.Document.Toml

/-- The origin of a table: its own header, the header of a table below it, or a dotted key. -/
inductive Opening
  | ownHeader
  | lowerHeader
  | dottedKey
  deriving DecidableEq, Repr

/-- The item under a key during reading. Of a list of tables only the last can grow. -/
inductive Item
  | value (v : Value)
  | table (opening : Opening) (items : List (String × Item))
  | tables (before : List Value) (last : List (String × Item))

abbrev Items := List (String × Item)

namespace Items

def get? (key : String) (items : Items) : Option Item :=
  (items.find? fun item => item.1 = key).map Prod.snd

def put (key : String) (item : Item) : Items → Items
  | [] => [(key, item)]
  | (first, old) :: rest =>
    if first = key then (key, item) :: rest else (first, old) :: put key item rest

/-- Changes the table that names lead to, bringing about those on the way. A dotted key does not
lead into a table that has a header of its own. -/
def within (opener : Opening) (change : Opening → Items → Option Items) :
    List String → Opening → Items → Option Items
  | [], here, items => change here items
  | name :: names, _, items =>
    match get? name items with
    | none => do return put name (.table opener (← within opener change names opener [])) items
    | some (.value _) => none
    | some (.table opening inner) =>
      if opener = .dottedKey ∧ opening = .ownHeader then none
      else do return put name (.table opening (← within opener change names opening inner)) items
    | some (.tables before last) => do
      return put name (.tables before (← within opener change names .ownHeader last)) items

end Items

mutual

def Item.toValue : Item → Value
  | .value v => v
  | .table _ items => .table (fieldsOf items)
  | .tables before last => .list (before ++ [.table (fieldsOf last)])

def fieldsOf : List (String × Item) → Fields
  | [] => []
  | (key, item) :: rest => (key, item.toValue) :: fieldsOf rest

end

/-- A header opens a table that is new or was created only by headers below it. -/
def openTable (name : String) (items : Items) : Option Items :=
  match items.get? name with
  | none => some (items.put name (.table .ownHeader []))
  | some (.table .lowerHeader inner) => some (items.put name (.table .ownHeader inner))
  | some _ => none

def openRepeated (name : String) (items : Items) : Option Items :=
  match items.get? name with
  | none => some (items.put name (.tables [] []))
  | some (.tables before last) =>
    some (items.put name (.tables (before ++ [.table (fieldsOf last)]) []))
  | some _ => none

/-- A key is new, and names before it lead to a table created by dotted keys. -/
def define (key : DottedKey) (v : Value) (items : Items) : Option Items :=
  items.within .dottedKey (fun opening inner =>
    if key.above ≠ [] ∧ opening ≠ .dottedKey then none
    else
      match inner.get? key.name with
      | none => some (inner.put key.name (.value v))
      | some _ => none) key.above .ownHeader

/-- The document so far, and the names that lead to the table of the last header. -/
structure Reader where
  root : Items
  current : List String

def Reader.read (r : Reader) : Line → Option Reader
  | .blank => some r
  | .header key repeated => do
    let change := if repeated then openRepeated key.name else openTable key.name
    let root ← r.root.within .lowerHeader (fun _ => change) key.above .ownHeader
    return ⟨root, key.above ++ [key.name]⟩
  | .field key v => do
    let root ← r.root.within .lowerHeader (fun _ => define key v) r.current .ownHeader
    return ⟨root, r.current⟩

def parse? (text : String) : Option Fields := do
  let reader ← (← readLines? text).foldlM Reader.read ⟨[], []⟩
  return fieldsOf reader.root

end VirtualTerminal.Document.Toml
