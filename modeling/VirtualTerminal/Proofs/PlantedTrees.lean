import Mathlib.Data.List.MinMax
import VirtualTerminal.Proofs.EntryNames

/-! # Planted trees

A planted entry adds itself and the missing folders above it, or nothing at all. Hence the entries
of a tree rebuild it in any order. -/
namespace VirtualTerminal

namespace Entries

/-- A file lies above the path. -/
def Blocked (entries : Entries) (path : List String) : Prop :=
  ∃ above text, above <+: path ∧ above ≠ path ∧ entries.item? above = some (.file text)

theorem item?_cons_of_none {entries : Entries} {name : String} (h : entries.find? name = none)
    (names : List String) : entries.item? (name :: names) = none := by
  rw [item?_cons, h]
  rfl

theorem item?_cons_of_folder {entries inner : Entries} {name : String}
    (h : entries.find? name = some (.folder inner)) (names : List String) :
    entries.item? (name :: names) = inner.item? names := by
  rw [item?_cons, h]
  rfl

theorem not_blocked_of_none {entries : Entries} {name : String} (h : entries.find? name = none)
    (rest : List String) : ¬ entries.Blocked (name :: rest) := by
  rintro ⟨above, text, onWay, -, file⟩
  cases above with
  | nil => cases file
  | cons first names =>
    obtain ⟨rfl, -⟩ := List.cons_prefix_cons.mp onWay
    rw [item?_cons_of_none h] at file
    cases file

theorem blocked_of_file {entries : Entries} {name text : String} {rest : List String}
    (h : entries.find? name = some (.file text)) (below : rest ≠ []) :
    entries.Blocked (name :: rest) := by
  refine ⟨[name], text, ?_, ?_, ?_⟩
  · simp
  · simpa using below.symm
  · rw [item?_cons, h]
    rfl

theorem blocked_cons_of_folder {entries inner : Entries} {name : String}
    (h : entries.find? name = some (.folder inner)) (rest : List String) :
    entries.Blocked (name :: rest) ↔ inner.Blocked rest := by
  constructor
  · rintro ⟨above, text, onWay, differ, file⟩
    cases above with
    | nil => cases file
    | cons first names =>
      obtain ⟨rfl, within⟩ := List.cons_prefix_cons.mp onWay
      rw [item?_cons_of_folder h] at file
      exact ⟨names, text, within, fun same => differ (same ▸ rfl), file⟩
  · rintro ⟨above, text, onWay, differ, file⟩
    refine ⟨name :: above, text, List.cons_prefix_cons.mpr ⟨rfl, onWay⟩, ?_, ?_⟩
    · exact fun same => differ (List.cons.inj same).2
    · rw [item?_cons_of_folder h, file]

theorem item?_nil_eq_none {names : List String} (h : names ≠ []) : nil.item? names = none := by
  cases names with
  | nil => exact absurd rfl h
  | cons name rest => exact item?_cons_of_none rfl rest

theorem plant_of_none {entries : Entries} {name : String} (h : entries.find? name = none)
    (node : Node) (rest : List String) :
    entries.plant node (name :: rest) =
      entries.set name (some (if rest = [] then node else .folder (nil.plant node rest))) := by
  cases rest with
  | nil => simp [plant, h]
  | cons next more => simp [plant, h]

theorem plant_of_file {entries : Entries} {name text : String}
    (h : entries.find? name = some (.file text)) (node : Node) (rest : List String) :
    entries.plant node (name :: rest) = entries := by
  cases rest with
  | nil => simp [plant, h]
  | cons next more => simp [plant, h]

theorem plant_of_folder {entries inner : Entries} {name : String}
    (h : entries.find? name = some (.folder inner)) (node : Node) (rest : List String) :
    entries.plant node (name :: rest) =
      if rest = [] then entries else entries.set name (some (.folder (inner.plant node rest))) := by
  cases rest with
  | nil => simp [plant, h]
  | cons next more => simp [plant, h]

theorem item?_grown (kind : Kind) (text : String) (rest names : List String) :
    ((if rest = [] then Node.bare kind text
        else .folder (nil.plant (Node.bare kind text) rest)).lookup names).map Node.item =
      if names <+: rest then some (if names = rest then (Node.bare kind text).item else .folder)
      else none := by
  induction rest generalizing names with
  | nil =>
    cases names with
    | nil => simp [Node.lookup_nil]
    | cons name names => simp [Node.lookup_bare]
  | cons next more ih =>
    rw [if_neg (List.cons_ne_nil next more), plant_of_none rfl]
    cases names with
    | nil => simp [Node.lookup, lookup_nil, Node.item]
    | cons first names =>
      change (nil.set next _).item? (first :: names) = _
      rw [item?_set ordered_nil]
      by_cases same : first = next
      · rw [if_pos same, Option.bind_some, ih]
        simp [same]
      · rw [if_neg same, item?_nil_eq_none (List.cons_ne_nil first names)]
        simp [same]

open scoped Classical in
/-- Planting adds the entry at its path and folders above it where there is no item, unless a file
is above it, and keeps all other items. -/
theorem item?_plant {entries : Entries} (h : entries.Ordered) (kind : Kind) (text : String)
    (path other : List String) :
    (entries.plant (Node.bare kind text) path).item? other =
      if entries.item? other = none ∧ ¬ entries.Blocked path ∧ other <+: path then
        some (if other = path then (Node.bare kind text).item else .folder)
      else entries.item? other := by
  induction path generalizing entries other with
  | nil =>
    rw [if_neg]
    · rfl
    · rintro ⟨free, -, root⟩
      rw [List.prefix_nil.mp root] at free
      cases free
  | cons name rest ih =>
    cases other with
    | nil =>
      have root : ¬ (entries.item? [] = none ∧ ¬ entries.Blocked (name :: rest) ∧
          [] <+: name :: rest) := fun added => nomatch added.1
      rw [if_neg root]
      rfl
    | cons first names =>
      by_cases same : first = name
      · subst same
        have onWay : first :: names <+: first :: rest ↔ names <+: rest := by
          rw [List.cons_prefix_cons, and_iff_right rfl]
        cases hf : entries.find? first with
        | none =>
          rw [plant_of_none hf, item?_set h, if_pos rfl, Option.bind_some, item?_grown,
            item?_cons_of_none hf]
          simp [not_blocked_of_none hf, onWay]
        | some node =>
          cases node with
          | file text' =>
            have stays : ¬ (entries.item? (first :: names) = none ∧
                ¬ entries.Blocked (first :: rest) ∧ first :: names <+: first :: rest) := by
              rintro ⟨free, open', within⟩
              by_cases last : rest = []
              · rw [last, List.cons_prefix_cons, List.prefix_nil] at within
                rw [within.2, item?_cons, hf] at free
                cases free
              · exact open' (blocked_of_file hf last)
            rw [plant_of_file hf, if_neg stays]
          | folder inner =>
            have inside := ih (h.find? hf) names
            have shown := item?_cons_of_folder hf names
            rw [plant_of_folder hf]
            simp only [shown, blocked_cons_of_folder hf, onWay, List.cons.injEq, true_and]
            refine Eq.trans ?_ inside
            by_cases last : rest = []
            · rw [if_pos last, last, shown]
              rfl
            · rw [if_neg last, item?_set h, if_pos rfl]
              rfl
      · have stays : ¬ (entries.item? (first :: names) = none ∧
            ¬ entries.Blocked (name :: rest) ∧ first :: names <+: name :: rest) := by
          rintro ⟨-, -, within⟩
          exact same (List.cons_prefix_cons.mp within).1
        rw [if_neg stays]
        cases hf : entries.find? name with
        | none => rw [plant_of_none hf, item?_set h, if_neg same]
        | some node =>
          cases node with
          | file text' => rw [plant_of_file hf]
          | folder inner =>
            rw [plant_of_folder hf]
            split
            · rfl
            · rw [item?_set h, if_neg same]

theorem item?_above {entries : Entries} {above path : List String} {item : Item}
    (h : entries.item? path = some item) (onWay : above <+: path) (differ : above ≠ path) :
    entries.item? above = some .folder := by
  obtain ⟨below, rfl⟩ := onWay
  obtain ⟨node, found, -⟩ := Option.map_eq_some_iff.mp h
  rw [lookup_append] at found
  obtain ⟨first, here, more⟩ := Option.bind_eq_some_iff.mp found
  rw [item?, here]
  cases first with
  | folder inner => rfl
  | file text =>
    have last : below ≠ [] := fun none => differ (by rw [none, List.append_nil])
    simp [Node.lookup, last] at more

end Entries

/-- The item of a planted entry: a folder, or a file with its content. -/
def ManifestEntry.item (entry : ManifestEntry) : Item :=
  match entry.kind with
  | .folder => .folder
  | .file => .file entry.content

theorem ManifestEntry.item_bare (entry : ManifestEntry) :
    (Node.bare entry.kind entry.content).item = entry.item := by
  unfold Node.bare item
  cases entry.kind <;> rfl

/-- The entry has the path of the node, its kind and, for a file, its text. -/
def ManifestEntry.Names (entry : ManifestEntry) (listed : Path × Node) : Prop :=
  entry.path = listed.1.toText ∧ entry.item = listed.2.item

instance (entry : ManifestEntry) (listed : Path × Node) : Decidable (entry.Names listed) := by
  unfold ManifestEntry.Names
  infer_instance

/-- The entry names a folder above the other entry. -/
def ManifestEntry.Above (entry below : ManifestEntry) : Prop :=
  (Path.root.resolve entry.path).isAtOrAbove (Path.root.resolve below.path) ∧
    Path.root.resolve entry.path ≠ Path.root.resolve below.path

instance (entry below : ManifestEntry) : Decidable (entry.Above below) := by
  unfold ManifestEntry.Above
  infer_instance

namespace FileSystem

/-- Every item of the first file system is an item of the second. -/
def Within (fs fs' : FileSystem) : Prop :=
  ∀ names item, fs.entries.item? names = some item → fs'.entries.item? names = some item

theorem Within.refl (fs : FileSystem) : fs.Within fs := fun _ _ shown => shown

theorem Within.trans {fs fs' fs'' : FileSystem} (h : fs.Within fs') (h' : fs'.Within fs'') :
    fs.Within fs'' := fun names item shown => h' names item (h names item shown)

theorem Within.antisymm {fs fs' : FileSystem} (h : fs.Within fs') (h' : fs'.Within fs) :
    fs = fs' := by
  refine flat_injective (Finmap.ext_lookup fun names => ?_)
  rw [lookup_flat, lookup_flat]
  exact Option.ext fun item => ⟨h names item, h' names item⟩

theorem empty_within (fs : FileSystem) : empty.Within fs := by
  intro names item shown
  cases names with
  | nil =>
    cases shown
    rfl
  | cons name rest =>
    rw [empty, Entries.item?_nil_eq_none (List.cons_ne_nil name rest)] at shown
    cases shown

theorem lookup_of_mem_contents {fs : FileSystem} {listed : Path × Node}
    (h : listed ∈ fs.contents) : fs.lookup listed.1 = some listed.2 :=
  mem_nodes.mp (List.mem_cons_of_mem _ h)

theorem resolve_of_names {fs : FileSystem} (named : fs.Named) {entry : ManifestEntry}
    {listed : Path × Node} (h : listed ∈ fs.contents) (names : entry.Names listed) :
    Path.root.resolve entry.path = listed.1 := by
  rw [names.1, Path.resolve_toText (named.plain (lookup_of_mem_contents h))]

theorem within_plantEntry (fs : FileSystem) (entry : ManifestEntry) :
    fs.Within (fs.plantEntry entry) := by
  intro names item shown
  have kept := Entries.item?_plant fs.ordered entry.kind entry.content
    (Path.root.resolve entry.path).segments names
  rw [if_neg (fun added => by rw [added.1] at shown; cases shown), shown] at kept
  exact kept

/-- An entry that names a node of the tree adds no item outside it. -/
theorem Within.plantEntry {part fs : FileSystem} (h : part.Within fs) (named : fs.Named)
    {entry : ManifestEntry} {listed : Path × Node} (hl : listed ∈ fs.contents)
    (names : entry.Names listed) :
    (part.plantEntry entry).Within fs ∧
      (part.plantEntry entry).entries.item? listed.1.segments = some listed.2.item := by
  have resolved := resolve_of_names named hl names
  have same := names.2
  obtain ⟨path, node⟩ := listed
  dsimp only at resolved same ⊢
  have here : fs.entries.item? path.segments = some node.item := by
    rw [Entries.item?, ← lookup, lookup_of_mem_contents hl]
    rfl
  have planted (names : List String) := Entries.item?_plant part.ordered entry.kind entry.content
    path.segments names
  have shows (names : List String) : (part.plantEntry entry).entries.item? names =
      (part.entries.plant (Node.bare entry.kind entry.content) path.segments).item? names := by
    rw [FileSystem.plantEntry, plant, resolved]
  constructor
  · intro names item shown
    rw [shows, planted] at shown
    split at shown
    · next added =>
      obtain ⟨-, -, onWay⟩ := added
      cases shown
      split
      · next last => rw [last, here, ← same, entry.item_bare]
      · next differ => exact Entries.item?_above here onWay differ
    · exact h names item shown
  · have free : ¬ part.entries.Blocked path.segments := by
      rintro ⟨above, text, onWay, differ, file⟩
      have folder := Entries.item?_above here onWay differ
      rw [h above _ file] at folder
      cases folder
    rw [shows, planted]
    cases shown : part.entries.item? path.segments with
    | none =>
      rw [if_pos ⟨rfl, free, List.prefix_rfl⟩, if_pos rfl, ← same, entry.item_bare]
    | some item =>
      have taken : some item ≠ none := Option.some_ne_none item
      rw [if_neg fun added => taken added.1, ← here, h _ _ shown]

theorem within_foldl (fs : FileSystem) (entries : List ManifestEntry) :
    fs.Within (entries.foldl plantEntry fs) := by
  induction entries generalizing fs with
  | nil => exact .refl fs
  | cons entry rest ih => exact (within_plantEntry fs entry).trans (ih (fs.plantEntry entry))

theorem Within.foldl {part fs : FileSystem} (h : part.Within fs) (named : fs.Named)
    {entries : List ManifestEntry}
    (only : ∀ entry ∈ entries, ∃ listed ∈ fs.contents, entry.Names listed) :
    (entries.foldl FileSystem.plantEntry part).Within fs ∧
      ∀ entry ∈ entries, ∀ listed ∈ fs.contents, entry.Names listed →
        (entries.foldl FileSystem.plantEntry part).entries.item? listed.1.segments =
          some listed.2.item := by
  induction entries generalizing part with
  | nil => exact ⟨h, nofun⟩
  | cons entry rest ih =>
    obtain ⟨⟨first, hf, names⟩, others⟩ := List.forall_mem_cons.mp only
    obtain ⟨within, shown⟩ := ih (h.plantEntry named hf names).1 others
    refine ⟨within, List.forall_mem_cons.mpr ⟨fun listed hl names => ?_, shown⟩⟩
    exact within_foldl _ rest _ _ (h.plantEntry named hl names).2

/-- Entries rebuild the tree if they name only nodes of it and, for every node, that node or one
below it. -/
theorem ofManifest_eq {fs : FileSystem} (named : fs.Named) {entries : List ManifestEntry}
    (only : ∀ entry ∈ entries, ∃ listed ∈ fs.contents, entry.Names listed)
    (all : ∀ listed ∈ fs.contents, ∃ entry ∈ entries, ∃ below ∈ fs.contents,
      entry.Names below ∧ listed.1.segments <+: below.1.segments) :
    ofManifest entries = fs := by
  obtain ⟨within, shown⟩ := (empty_within fs).foldl named only
  refine within.antisymm fun names item here => ?_
  obtain ⟨node, found, rfl⟩ := Option.map_eq_some_iff.mp here
  have node : (⟨names⟩, node) ∈ fs.nodes := mem_nodes.mpr found
  rcases List.mem_cons.mp node with root | listed
  · cases root
    rfl
  · obtain ⟨entry, he, below, hb, naming, onWay⟩ := all _ listed
    have last := shown entry he below hb naming
    by_cases same : names = below.1.segments
    · rw [same, last, ← within _ _ last, ← same, here]
    · have folder := Entries.item?_above last onWay same
      rw [folder, ← within _ _ folder, here]

theorem exists_deepest {entries : List ManifestEntry} {path : Path} {entry : ManifestEntry}
    (he : entry ∈ entries) (onWay : path.segments <+: (Path.root.resolve entry.path).segments) :
    ∃ deepest ∈ entries, path.segments <+: (Path.root.resolve deepest.path).segments ∧
      ∀ below ∈ entries, ¬ deepest.Above below := by
  let under := entries.filter fun e => path.segments <+: (Path.root.resolve e.path).segments
  have mem_under {e : ManifestEntry} : e ∈ under ↔
      e ∈ entries ∧ path.segments <+: (Path.root.resolve e.path).segments := by
    simp [under]
  cases hd : under.argmax fun e => (Path.root.resolve e.path).segments.length with
  | none =>
    have none := List.argmax_eq_none.mp hd
    have some : entry ∈ under := mem_under.mpr ⟨he, onWay⟩
    rw [none] at some
    cases some
  | some deepest =>
    obtain ⟨hm, above⟩ := mem_under.mp (List.argmax_mem hd)
    refine ⟨deepest, hm, above, ?_⟩
    rintro below hb ⟨within, differ⟩
    have prefixed := List.isPrefixOf_iff_prefix.mp within
    have lower : below ∈ under := mem_under.mpr ⟨hb, above.trans prefixed⟩
    have short := List.le_of_mem_argmax lower hd
    have same := prefixed.eq_of_length_le short
    exact differ (congrArg Path.mk same)

theorem ofManifest_eq_of_kept {fs : FileSystem} (named : fs.Named)
    {entries kept : List ManifestEntry}
    (only : ∀ entry ∈ entries, ∃ listed ∈ fs.contents, entry.Names listed)
    (all : ∀ listed ∈ fs.contents, ∃ entry ∈ entries, entry.Names listed) (part : kept ⊆ entries)
    (left : ∀ entry ∈ entries, entry ∉ kept → ∃ below ∈ entries, entry.Above below) :
    ofManifest kept = fs := by
  refine ofManifest_eq named (fun entry he => only entry (part he)) fun listed hl => ?_
  obtain ⟨entry, he, names⟩ := all listed hl
  have here : listed.1.segments <+: (Path.root.resolve entry.path).segments := by
    rw [resolve_of_names named hl names]
  obtain ⟨deepest, hd, onWay, last⟩ := exists_deepest he here
  have stays : deepest ∈ kept := by
    by_contra gone
    obtain ⟨below, hb, above⟩ := left deepest hd gone
    exact last below hb above
  obtain ⟨below, hb, naming⟩ := only deepest hd
  rw [resolve_of_names named hb naming] at onWay
  exact ⟨deepest, stays, below, hb, naming, onWay⟩

/-- A tree of plain names is rebuilt from any list that names all its nodes but the root, and
nothing else, by path, kind and text: in any order and with any repetitions. Folders above another
entry may be omitted. -/
theorem rebuilt_in_any_order {fs : FileSystem} (named : fs.entries.Named)
    {entries : List ManifestEntry}
    (only : ∀ entry ∈ entries, ∃ listed ∈ fs.contents, entry.Names listed)
    (all : ∀ listed ∈ fs.contents, ∃ entry ∈ entries, entry.Names listed) :
    ofManifest entries = fs ∧
      ∀ kept ⊆ entries,
        (∀ entry ∈ entries, entry ∉ kept → ∃ below ∈ entries, entry.Above below) →
          ofManifest kept = fs :=
  ⟨ofManifest_eq_of_kept named only all (List.Subset.refl entries)
      fun _ he gone => absurd he gone,
    fun _ part left => ofManifest_eq_of_kept named only all part left⟩

/-- Files before their folders, a repeated entry, and a list without the folders of other entries.
-/
theorem rebuilt_in_any_order_backwards :
    let inner : Entries := .cons "b" (.folder .nil) (.cons "c" (.file "x") .nil)
    let entries : Entries := .cons "a" (.folder inner) (.cons "f" (.file "") .nil)
    let fs : FileSystem := ⟨entries, by decide +kernel,
      ⟨by decide +kernel, True.intro, by decide +kernel, True.intro, True.intro⟩,
      by decide +kernel, True.intro, True.intro⟩
    let listing : List ManifestEntry :=
      [⟨"/f", .file, ""⟩, ⟨"/a/c", .file, "x"⟩, ⟨"/a/b", .folder, "ignored"⟩, ⟨"/a", .folder, ""⟩,
        ⟨"/a/c", .file, "x"⟩]
    let kept : List ManifestEntry :=
      [⟨"/a/b", .folder, "ignored"⟩, ⟨"/a/c", .file, "x"⟩, ⟨"/f", .file, ""⟩]
    fs.entries.Named ∧ (∀ entry ∈ listing, ∃ listed ∈ fs.contents, entry.Names listed) ∧
      (∀ listed ∈ fs.contents, ∃ entry ∈ listing, entry.Names listed) ∧ ofManifest listing = fs ∧
      kept ⊆ listing ∧
      (∀ entry ∈ listing, entry ∉ kept → ∃ below ∈ listing, entry.Above below) ∧
      ofManifest kept = fs := by
  intro inner entries fs listing kept
  have named : fs.entries.Named := by
    simp only [fs, entries, inner, Entries.Named, Node.Named]
    decide +kernel
  have only : ∀ entry ∈ listing, ∃ listed ∈ fs.contents, entry.Names listed := by decide +kernel
  have all : ∀ listed ∈ fs.contents, ∃ entry ∈ listing, entry.Names listed := by decide +kernel
  have part : kept ⊆ listing := by decide
  have left : ∀ entry ∈ listing, entry ∉ kept → ∃ below ∈ listing, entry.Above below := by
    decide +kernel
  obtain ⟨whole, without⟩ := rebuilt_in_any_order named only all
  exact ⟨named, only, all, whole, part, left, without kept part left⟩

end FileSystem
end VirtualTerminal
