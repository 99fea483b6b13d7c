import VirtualTerminal.FileSystem

/-! # Lookup after writes

The item of a path after a write: the written node at and below the path of the write, and the
former item elsewhere. -/
namespace VirtualTerminal

/-- The item at a path: a folder, or a file with its text. -/
inductive Item
  | folder
  | file (text : String)
  deriving DecidableEq, Repr

def Item.kind : Item → Kind
  | .folder => .folder
  | .file _ => .file

def Node.item : Node → Item
  | .file text => .file text
  | .folder _ => .folder

theorem Node.kind_item (node : Node) : node.item.kind = node.kind := by cases node <;> rfl

def Node.lookup (names : List String) : Node → Option Node
  | .file text => if names = [] then some (.file text) else none
  | .folder entries => entries.lookup names

theorem Node.lookup_nil (node : Node) : node.lookup [] = some node := by cases node <;> rfl

namespace Entries

theorem lookup_nil (entries : Entries) : entries.lookup [] = some (.folder entries) := rfl

theorem lookup_cons (name : String) (names : List String) (entries : Entries) :
    entries.lookup (name :: names) = (entries.find? name).bind (Node.lookup names) := by
  rw [lookup]
  cases entries.find? name with
  | none => rfl
  | some node => cases node <;> rfl

theorem lookup_append (names names' : List String) (entries : Entries) :
    entries.lookup (names ++ names') = (entries.lookup names).bind (Node.lookup names') := by
  induction names generalizing entries with
  | nil => rfl
  | cons name rest ih =>
    rw [List.cons_append, lookup_cons, lookup_cons, Option.bind_assoc]
    congr 1
    funext node
    cases node with
    | file text => by_cases he : rest = [] <;> simp [Node.lookup, he]
    | folder inner => exact ih inner

theorem find?_eq_none {name : String} {entries : Entries} (h : name ∉ entries.names) :
    entries.find? name = none := by
  induction entries using Entries.rec (motive_1 := fun _ => True) with
  | file => trivial
  | folder => trivial
  | nil => rfl
  | cons head node rest _ ih =>
    simp only [names, List.mem_cons, not_or] at h
    rw [find?, if_neg fun e => h.1 e.symm]
    exact ih h.2

theorem find?_eq_none_iff {name : String} {entries : Entries} :
    entries.find? name = none ↔ name ∉ entries.names := by
  refine ⟨?_, find?_eq_none⟩
  induction entries using Entries.rec (motive_1 := fun _ => True) with
  | file => trivial
  | folder => trivial
  | nil => exact fun _ => List.not_mem_nil
  | cons head node rest _ ih =>
    intro h
    rw [find?] at h
    split at h
    · cases h
    · next other =>
      rw [names, List.mem_cons, not_or]
      exact ⟨Ne.symm other, ih h⟩

theorem find?_of_below {name : String} {entries : Entries}
    (h : ∀ key ∈ entries.names, name < key) : entries.find? name = none :=
  find?_eq_none fun hm => String.lt_irrefl name (h name hm)

theorem find?_set {entries : Entries} (h : entries.Ordered) (name other : String)
    (value : Option Node) :
    (entries.set name value).find? other = if other = name then value else entries.find? other := by
  induction entries using Entries.rec (motive_1 := fun _ => True) with
  | file => trivial
  | folder => trivial
  | nil => cases value <;> simp [set, find?, eq_comm]
  | cons head node rest _ ih =>
    obtain ⟨low, _, hr⟩ := h
    by_cases less : name < head
    · have absent : (cons head node rest).find? name = none := by
        refine find?_of_below fun key hk => ?_
        rcases List.mem_cons.mp hk with rfl | hk
        · exact less
        · exact String.lt_trans less (low key hk)
      cases value with
      | none =>
        simp only [set, if_pos less]
        split
        · next same => rw [same, absent]
        · rfl
      | some node' => simp only [set, if_pos less, find?, eq_comm (a := name)]
    · by_cases same : name = head
      · subst same
        have absent : rest.find? name = none := find?_of_below low
        cases value with
        | none =>
          simp only [set, if_neg less, if_true, find?]
          split
          · next here => rw [here, absent]
          · next there => rw [if_neg fun e => there e.symm]
        | some node' =>
          simp only [set, if_neg less, if_true, find?, eq_comm (a := name)]
          split <;> rfl
      · simp only [set, if_neg less, if_neg same, find?, ih hr]
        split
        · next here => rw [if_neg fun e => same (e.symm.trans here.symm)]
        · rfl

theorem Ordered.lookup {entries : Entries} (h : entries.Ordered) {names : List String} {node : Node}
    (hl : entries.lookup names = some node) : node.Ordered := by
  induction names generalizing entries with
  | nil =>
    rw [lookup_nil] at hl
    cases hl
    exact h
  | cons name rest ih =>
    rw [lookup_cons] at hl
    obtain ⟨first, hf, hl⟩ := Option.bind_eq_some_iff.mp hl
    have ordered := h.find? hf
    cases first with
    | file text =>
      simp only [Node.lookup] at hl
      split at hl <;> cases hl
      trivial
    | folder inner => exact ih ordered hl

theorem mem_names_of_mem_kinds {name : String} {kind : Kind} {entries : Entries}
    (h : (name, kind) ∈ entries.kinds) : name ∈ entries.names := by
  induction entries using Entries.rec (motive_1 := fun _ => True) with
  | file => trivial
  | folder => trivial
  | nil => simp [kinds] at h
  | cons head node rest _ ih =>
    simp only [kinds, List.mem_cons, Prod.mk.injEq] at h
    rcases h with ⟨rfl, -⟩ | h
    · exact List.mem_cons_self
    · exact List.mem_cons_of_mem _ (ih h)

theorem pairwise_kinds {entries : Entries} (h : entries.Ordered) :
    entries.kinds.Pairwise fun a b => a.1 < b.1 := by
  induction entries using Entries.rec (motive_1 := fun _ => True) with
  | file => trivial
  | folder => trivial
  | nil => exact List.Pairwise.nil
  | cons head node rest _ ih =>
    obtain ⟨low, _, hr⟩ := h
    exact List.Pairwise.cons (fun entry he => low entry.1 (mem_names_of_mem_kinds he)) (ih hr)

theorem mem_kinds {entries : Entries} (h : entries.Ordered) {name : String} {kind : Kind} :
    (name, kind) ∈ entries.kinds ↔ (entries.find? name).map Node.kind = some kind := by
  induction entries using Entries.rec (motive_1 := fun _ => True) with
  | file => trivial
  | folder => trivial
  | nil => simp [kinds, find?]
  | cons head node rest _ ih =>
    obtain ⟨low, _, hr⟩ := h
    simp only [kinds, List.mem_cons, Prod.mk.injEq, find?, ih hr]
    by_cases same : head = name
    · subst same
      simp [find?_of_below low, eq_comm]
    · simp [same, Ne.symm same]

def item? (names : List String) (entries : Entries) : Option Item :=
  (entries.lookup names).map Node.item

theorem item?_nil (entries : Entries) : entries.item? [] = some .folder := rfl

theorem item?_cons (name : String) (names : List String) (entries : Entries) :
    entries.item? (name :: names) =
      ((entries.find? name).bind (Node.lookup names)).map Node.item := by
  rw [item?, lookup_cons]

theorem item?_set {entries : Entries} (h : entries.Ordered) (name other : String)
    (names : List String) (value : Option Node) :
    (entries.set name value).item? (other :: names) =
      if other = name then (value.bind (Node.lookup names)).map Node.item
      else entries.item? (other :: names) := by
  rw [item?_cons, item?_cons, find?_set h]
  split <;> rfl

theorem write_below {entries below : Entries} {name : String} (value : Option Node)
    {names : List String} (hn : names ≠ []) (hf : entries.find? name = some (.folder below)) :
    entries.write value (name :: names) =
      entries.set name (some (.folder (below.write value names))) := by
  cases names with
  | nil => exact absurd rfl hn
  | cons next rest => simp only [write, hf]

/-- In an existing folder, a node written at a path is found there. -/
theorem lookup_write_self {entries above : Entries} (h : entries.Ordered) {path : List String}
    (hp : path ≠ []) (ha : entries.lookup path.dropLast = some (.folder above))
    (value : Option Node) : (entries.write value path).lookup path = value := by
  induction path generalizing entries with
  | nil => exact absurd rfl hp
  | cons name rest ih =>
    by_cases hr : rest = []
    · subst hr
      rw [write, lookup_cons, find?_set h, if_pos rfl]
      cases value with
      | none => rfl
      | some node => exact Node.lookup_nil node
    · rw [List.dropLast_cons_of_ne_nil hr, lookup_cons] at ha
      obtain ⟨node, hf, hb⟩ := Option.bind_eq_some_iff.mp ha
      cases node with
      | file text =>
        simp only [Node.lookup] at hb
        split at hb <;> cases hb
      | folder below =>
        rw [write_below value hr hf, lookup_cons, find?_set h, if_pos rfl, Option.bind_some]
        exact ih (h.find? hf) hr hb

/-- In an existing folder, a write replaces the items at its path and below, and no other. -/
theorem item?_write {entries above : Entries} (h : entries.Ordered) {path : List String}
    (hp : path ≠ []) (ha : entries.lookup path.dropLast = some (.folder above))
    (value : Option Node) (other : List String) :
    (entries.write value path).item? other =
      if path <+: other then (value.bind (Node.lookup (other.drop path.length))).map Node.item
      else entries.item? other := by
  induction path generalizing entries other with
  | nil => exact absurd rfl hp
  | cons name rest ih =>
    by_cases hr : rest = []
    · subst hr
      cases other with
      | nil => simp [item?_nil]
      | cons first names =>
        have hit : [name] <+: first :: names ↔ first = name := by simp [eq_comm]
        simp only [write, item?_set h, hit, List.length_singleton, List.drop_succ_cons,
          List.drop_zero]
    · rw [List.dropLast_cons_of_ne_nil hr, lookup_cons] at ha
      obtain ⟨node, hf, hb⟩ := Option.bind_eq_some_iff.mp ha
      cases node with
      | file text =>
        simp only [Node.lookup] at hb
        split at hb <;> cases hb
      | folder below =>
        have ordered : below.Ordered := h.find? hf
        rw [write_below value hr hf]
        cases other with
        | nil => simp [item?_nil]
        | cons first names =>
          have hit : name :: rest <+: first :: names ↔ first = name ∧ rest <+: names := by
            rw [List.cons_prefix_cons, eq_comm]
          rw [item?_set h]
          by_cases same : first = name
          · subst same
            have inner := ih ordered hr hb names
            simp only [if_true, Option.bind_some, hit, true_and, List.length_cons,
              List.drop_succ_cons]
            rw [item?_cons, hf]
            exact inner
          · simp only [hit, same, false_and, if_false]

end Entries
end VirtualTerminal
