import Mathlib.Data.Finmap
import VirtualTerminal.Proofs.FileOperations

/-! # The flat map of a file system

A file system as a finite map from lists of names to items. The map determines the tree. -/
namespace VirtualTerminal

/-- What the paths show, each by its names from the root. -/
abbrev FlatMap := Finmap fun _ : List String => Item

def FlatMap.at? (m : FlatMap) (path : Path) : Option Item := m.lookup path.segments

namespace Entries

/-- The listing of the descendants contains each node of the tree at its path. -/
theorem mem_descendants {entries : Entries} (h : entries.Ordered) {above path : List String}
    {node : Node} :
    (path, node) ∈ entries.descendants above ↔
      ∃ name names, path = above ++ name :: names ∧ entries.lookup (name :: names) = some node := by
  induction entries using Entries.rec
    (motive_1 := fun first => first.Ordered → ∀ above path : List String,
      (path, node) ∈ first.descendants above ↔
        ∃ name names, path = above ++ name :: names ∧ first.lookup (name :: names) = some node)
    generalizing above path with
  | file text => simp [Node.descendants, Node.lookup]
  | folder inner ih =>
    next ordered _ _ => exact ih ordered
  | nil => simp [descendants, lookup_cons, find?]
  | cons head first rest ihFirst ihRest =>
    obtain ⟨low, ordered, hr⟩ := h
    have absent : rest.find? head = none := find?_of_below low
    rw [descendants, List.cons_append, List.mem_cons, List.mem_append, ihFirst ordered, ihRest hr]
    constructor
    · rintro (here | ⟨name, names, rfl, found⟩ | ⟨name, names, rfl, found⟩)
      · cases here
        refine ⟨head, [], rfl, ?_⟩
        rw [lookup_cons, find?, if_pos rfl, Option.bind_some, Node.lookup_nil]
      · refine ⟨head, name :: names, by simp, ?_⟩
        rw [lookup_cons, find?, if_pos rfl, Option.bind_some, found]
      · refine ⟨name, names, rfl, ?_⟩
        have differ : head ≠ name := by
          rintro rfl
          simp [lookup_cons, absent] at found
        rwa [lookup_cons, find?, if_neg differ, ← lookup_cons]
    · rintro ⟨name, names, rfl, found⟩
      by_cases same : head = name
      · subst same
        rw [lookup_cons, find?, if_pos rfl, Option.bind_some] at found
        cases names with
        | nil =>
          rw [Node.lookup_nil] at found
          cases found
          exact Or.inl rfl
        | cons next more => exact Or.inr (Or.inl ⟨next, more, by simp, found⟩)
      · rw [lookup_cons, find?, if_neg same, ← lookup_cons] at found
        exact Or.inr (Or.inr ⟨name, names, rfl, found⟩)

end Entries

theorem Node.lookup_bare (kind : Kind) (text : String) {names : List String} (h : names ≠ []) :
    (Node.bare kind text).lookup names = none := by
  cases names with
  | nil => exact absurd rfl h
  | cons name rest => cases kind <;> simp [bare, lookup, Entries.lookup_cons, Entries.find?]

private theorem dlookup_eq {α : Type} {β : α → Type} [DecidableEq α] {entries : List (Sigma β)}
    {key : α} {value : Option (β key)} (h : ∀ v, ⟨key, v⟩ ∈ entries ↔ value = some v) :
    entries.dlookup key = value := by
  cases hl : entries.dlookup key with
  | none =>
    have absent := List.dlookup_eq_none.mp hl
    cases value with
    | none => rfl
    | some v => exact absurd (List.mem_keys_of_mem ((h v).mpr rfl)) absent
  | some v => exact ((h v).mp (List.of_mem_dlookup hl)).symm

namespace FileSystem

/-- The flat map, read off the listing of all descendants; the root shows a folder. -/
def flat (fs : FileSystem) : FlatMap :=
  ((⟨[], .folder⟩ : Sigma fun _ : List String => Item) ::
    (fs.entries.descendants []).map fun entry => ⟨entry.1, entry.2.item⟩).toFinmap

theorem lookup_flat (fs : FileSystem) (names : List String) :
    fs.flat.lookup names = fs.entries.item? names := by
  rw [flat, Finmap.dlookup_list_toFinmap]
  cases names with
  | nil => rfl
  | cons name rest =>
    rw [List.dlookup_cons_ne _ _ (by simp)]
    refine dlookup_eq fun item => ?_
    simp only [List.mem_map, Sigma.mk.injEq, heq_eq_eq, Prod.exists, Entries.item?,
      Option.map_eq_some_iff]
    constructor
    · rintro ⟨path, node, found, rfl, shown⟩
      obtain ⟨first, names, same, found⟩ := (Entries.mem_descendants fs.ordered).mp found
      rw [List.nil_append] at same
      exact ⟨node, by rw [same, found], shown⟩
    · rintro ⟨node, found, shown⟩
      exact ⟨_, node, (Entries.mem_descendants fs.ordered).mpr ⟨name, rest, rfl, found⟩, rfl, shown⟩

theorem at?_flat (fs : FileSystem) (path : Path) :
    fs.flat.at? path = (fs.lookup path).map Node.item := lookup_flat fs path.segments

theorem at?_flat_eq_folder {fs : FileSystem} {path : Path} :
    fs.flat.at? path = some .folder ↔ ∃ entries, fs.lookup path = some (.folder entries) := by
  rw [at?_flat, Option.map_eq_some_iff]
  constructor
  · rintro ⟨node, hn, shown⟩
    cases node with
    | file text => cases shown
    | folder entries => exact ⟨entries, hn⟩
  · rintro ⟨entries, hn⟩
    exact ⟨_, hn, rfl⟩

theorem at?_flat_eq_file {fs : FileSystem} {path : Path} {text : String} :
    fs.flat.at? path = some (.file text) ↔ fs.lookup path = some (.file text) := by
  rw [at?_flat, Option.map_eq_some_iff]
  constructor
  · rintro ⟨node, hn, shown⟩
    cases node with
    | file other =>
      cases shown
      exact hn
    | folder entries => cases shown
  · intro hn
    exact ⟨_, hn, rfl⟩

theorem lookup_of_flat_eq_insert {fs : FileSystem} {m : FlatMap} {path : Path} {text : String}
    (h : fs.flat = m.insert path.segments (.file text)) :
    fs.lookup path = some (.file text) := by
  rw [← at?_flat_eq_file, h, FlatMap.at?, Finmap.lookup_insert]

end FileSystem

namespace Entries

theorem item?_head (name : String) (node : Node) (rest : Entries) (names : List String) :
    (cons name node rest).item? (name :: names) = (node.lookup names).map Node.item := by
  rw [item?_cons, find?, if_pos rfl, Option.bind_some]

theorem item?_tail {name other : String} (h : name ≠ other) (node : Node) (rest : Entries)
    (names : List String) :
    (cons name node rest).item? (other :: names) = rest.item? (other :: names) := by
  rw [item?_cons, item?_cons, find?, if_neg h]

theorem item?_below {name : String} {entries : Entries} (h : ∀ key ∈ entries.names, name < key)
    (names : List String) : entries.item? (name :: names) = none := by
  rw [item?_cons, find?_of_below h]
  rfl

theorem head_eq {name name' : String} {node node' : Node} {rest rest' : Entries}
    (low : ∀ key ∈ rest.names, name < key) (low' : ∀ key ∈ rest'.names, name' < key)
    (h : ∀ names, (cons name node rest).item? names = (cons name' node' rest').item? names) :
    name = name' := by
  have shown : (cons name' node' rest').item? [name] ≠ none := by
    rw [← h, item?_head, Node.lookup_nil]
    simp
  have shown' : (cons name node rest).item? [name'] ≠ none := by
    rw [h, item?_head, Node.lookup_nil]
    simp
  by_contra differ
  by_cases less : name < name'
  · refine shown (item?_below (fun key hk => ?_) [])
    rcases List.mem_cons.mp hk with rfl | hk
    · exact less
    · exact String.lt_trans less (low' key hk)
  · have more : name' < name :=
      Std.lt_of_le_of_ne (String.not_lt.mp less) fun e => differ e.symm
    refine shown' (item?_below (fun key hk => ?_) [])
    rcases List.mem_cons.mp hk with rfl | hk
    · exact more
    · exact String.lt_trans more (low key hk)

theorem ext_item? {entries entries' : Entries} (ordered : entries.Ordered)
    (ordered' : entries'.Ordered) (h : ∀ names, entries.item? names = entries'.item? names) :
    entries = entries' := by
  induction entries using Entries.rec
    (motive_1 := fun node => node.Ordered → ∀ node' : Node, node'.Ordered →
      (∀ names, (node.lookup names).map Node.item = (node'.lookup names).map Node.item) →
        node = node')
    generalizing entries' with
  | file text =>
    next _ node' _ same =>
      have here := same []
      rw [Node.lookup_nil, Node.lookup_nil] at here
      cases node' with
      | file text' => cases here; rfl
      | folder inner' => cases here
  | folder inner ih =>
    next ordered node' ordered' same =>
      cases node' with
      | file text' =>
        have here := same []
        rw [Node.lookup_nil, Node.lookup_nil] at here
        cases here
      | folder inner' => rw [ih ordered ordered' same]
  | nil =>
    cases entries' with
    | nil => rfl
    | cons name' node' rest' =>
      have shown := h [name']
      rw [item?_head, Node.lookup_nil] at shown
      cases shown
  | cons name node rest ihNode ihRest =>
    cases entries' with
    | nil =>
      have shown := h [name]
      rw [item?_head, Node.lookup_nil] at shown
      cases shown
    | cons name' node' rest' =>
      obtain ⟨low, hn, hr⟩ := ordered
      obtain ⟨low', hn', hr'⟩ := ordered'
      obtain rfl : name = name' := head_eq low low' h
      have sameNode : node = node' := by
        refine ihNode hn node' hn' fun names => ?_
        rw [← item?_head name node rest, h, item?_head]
      have sameRest : rest = rest' := by
        refine ihRest hr hr' fun names => ?_
        cases names with
        | nil => rfl
        | cons other names =>
          by_cases head : name = other
          · subst head
            rw [item?_below low, item?_below low']
          · rw [← item?_tail head node rest, h, item?_tail head]
      rw [sameNode, sameRest]

end Entries

namespace FileSystem

theorem flat_injective {fs fs' : FileSystem} (h : fs'.flat = fs.flat) : fs' = fs := by
  have same : fs'.entries = fs.entries := by
    refine Entries.ext_item? fs'.ordered fs.ordered fun names => ?_
    rw [← lookup_flat, ← lookup_flat, h]
  obtain ⟨entries, _⟩ := fs
  obtain ⟨entries', _⟩ := fs'
  cases same
  rfl

/-- Nothing shows below the path. -/
def BareAt (fs : FileSystem) (path : Path) : Prop :=
  ∀ names ≠ [], fs.entries.item? (path.segments ++ names) = none

theorem bareAt_of_lookup {fs : FileSystem} {path : Path}
    (h : ∀ node, fs.lookup path = some node → ∀ names ≠ [], node.lookup names = none) :
    fs.BareAt path := by
  intro names hn
  rw [Entries.item?, Entries.lookup_append]
  cases hl : fs.entries.lookup path.segments with
  | none => rfl
  | some node => rw [Option.bind_some, h node hl names hn]; rfl

theorem bareAt_of_none {fs : FileSystem} {path : Path} (h : fs.lookup path = none) :
    fs.BareAt path := by
  refine bareAt_of_lookup fun node hn => ?_
  rw [h] at hn
  cases hn

theorem bareAt_of_file {fs : FileSystem} {path : Path} {text : String}
    (h : fs.lookup path = some (.file text)) : fs.BareAt path := by
  refine bareAt_of_lookup fun node hn names hne => ?_
  rw [h] at hn
  cases hn
  simp [Node.lookup, hne]

theorem bareAt_of_empty {fs : FileSystem} {path : Path}
    (h : fs.lookup path = some (.folder .nil)) : fs.BareAt path := by
  refine bareAt_of_lookup fun node hn names hne => ?_
  rw [h] at hn
  cases hn
  exact Node.lookup_bare .folder "" hne

/-- A write over a bare path in an existing folder changes the flat map at that path alone. -/
theorem lookup_flat_write (fs fs' : FileSystem) {path : Path} {above : Entries}
    {value : Option Node} (hw : fs'.entries = fs.entries.write value path.segments)
    (hp : path.segments ≠ []) (ha : fs.lookup path.parent = some (.folder above))
    (hb : fs.BareAt path) (hv : ∀ node ∈ value, ∀ names ≠ [], node.lookup names = none)
    (other : List String) :
    fs'.flat.lookup other =
      if other = path.segments then value.map Node.item else fs.flat.lookup other := by
  rw [lookup_flat, lookup_flat, hw, Entries.item?_write fs.ordered hp ha]
  by_cases hit : path.segments <+: other
  · obtain ⟨names, rfl⟩ := hit
    simp only [List.prefix_append, if_true, List.drop_left]
    cases names with
    | nil => cases value <;> simp [Node.lookup_nil]
    | cons name rest =>
      rw [if_neg (by simp), hb _ (by simp)]
      cases value with
      | none => rfl
      | some node => rw [Option.bind_some, hv node rfl _ (by simp)]; rfl
  · have differ : other ≠ path.segments := by
      rintro rfl
      exact hit List.prefix_rfl
    rw [if_neg hit, if_neg differ]

theorem flat_put {fs : FileSystem} {path : Path} {above : Entries} (hp : path.segments ≠ [])
    (ha : fs.lookup path.parent = some (.folder above)) (hb : fs.BareAt path) (kind : Kind)
    (text : String) :
    (fs.put path kind text).flat = fs.flat.insert path.segments (Node.bare kind text).item := by
  have bare : ∀ node ∈ some (Node.bare kind text), ∀ names ≠ [], node.lookup names = none := by
    rintro _ ⟨⟩ names hn
    exact Node.lookup_bare kind text hn
  refine Finmap.ext_lookup fun other => ?_
  rw [lookup_flat_write fs _ rfl hp ha hb bare]
  split
  · next same => rw [same, Finmap.lookup_insert]; rfl
  · next differ => rw [Finmap.lookup_insert_of_ne _ differ]

theorem flat_erase {fs : FileSystem} {path : Path} {above : Entries} (hp : path.segments ≠ [])
    (ha : fs.lookup path.parent = some (.folder above)) (hb : fs.BareAt path) :
    (fs.erase path).flat = fs.flat.erase path.segments := by
  refine Finmap.ext_lookup fun other => ?_
  rw [lookup_flat_write fs _ rfl hp ha hb (by simp)]
  split
  · next same => rw [same, Finmap.lookup_erase]; rfl
  · next differ => rw [Finmap.lookup_erase_ne differ]

end FileSystem
end VirtualTerminal
