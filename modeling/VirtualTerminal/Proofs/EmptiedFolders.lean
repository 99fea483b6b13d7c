import Mathlib.Data.List.Dedup
import VirtualTerminal.Proofs.EntryNames

/-! # Emptying folders

An added entry can be removed again, which restores the tree. A folder can be removed exactly when
it is empty. Hence a node is removed with all nodes below it one by one, in any order in which each
follows those below it. -/
namespace VirtualTerminal

def Operation.created? : Operation → Option Path
  | .makeFolder cwd name | .makeFile cwd name | .createFile cwd name _ => some (cwd.resolve name)
  | .lookup _ | .list _ _ | .changeFolder _ _ | .read _ _ | .remove _ _ | .beginEdit _ _
  | .appendLine _ _ => none

namespace FileSystem

theorem at?_erase {fs : FileSystem} {path : Path} {above : Entries} (hp : path.segments ≠ [])
    (ha : fs.lookup path.parent = some (.folder above)) (other : Path) :
    (fs.erase path).flat.at? other =
      if path.segments <+: other.segments then none else fs.flat.at? other := by
  rw [FlatMap.at?, lookup_flat]
  have written := Entries.item?_write fs.ordered hp ha none other.segments
  rw [Option.bind_none, Option.map_none] at written
  rw [FlatMap.at?, lookup_flat]
  exact written

theorem erase_put {fs : FileSystem} {path : Path} {above : Entries} (hp : path.segments ≠ [])
    (ha : fs.lookup path.parent = some (.folder above)) (free : fs.lookup path = none)
    (kind : Kind) (text : String) : (fs.put path kind text).erase path = fs := by
  have put := flat_put hp ha (bareAt_of_none free) kind text
  have folder : ∃ above', (fs.put path kind text).lookup path.parent = some (.folder above') := by
    rw [← at?_flat_eq_folder, put, FlatMap.at?, Finmap.lookup_insert_of_ne]
    · exact at?_flat_eq_folder.mpr ⟨above, ha⟩
    · intro same
      have shorter := congrArg List.length same
      rw [Path.parent, List.length_dropLast] at shorter
      have filled := List.length_pos_iff.mpr hp
      omega
  have bare : (fs.put path kind text).BareAt path := by
    refine bareAt_of_lookup fun node found names hn => ?_
    have here : (fs.put path kind text).lookup path = some (Node.bare kind text) :=
      Entries.lookup_write_self fs.ordered hp ha _
    cases here.symm.trans found
    exact Node.lookup_bare kind text hn
  obtain ⟨above', ha'⟩ := folder
  have nothing : fs.flat.lookup path.segments = none := by
    rw [← FlatMap.at?, at?_flat, free]
    rfl
  apply flat_injective
  rw [flat_erase hp ha' bare, put]
  refine Finmap.ext_lookup fun names => ?_
  by_cases same : names = path.segments
  · rw [same, Finmap.lookup_erase, nothing]
  · rw [Finmap.lookup_erase_ne same, Finmap.lookup_insert_of_ne _ same]

/-- An inserted entry can be removed again from every folder but those below it, which restores the
tree. -/
theorem remove_of_insert {fs fs' : FileSystem} {cwd : Path} {name : String} {kind : Kind}
    {text what leaf : String} (done : fs.insert cwd name kind text what = .ok (fs', leaf))
    {cwd' : Path} {name' : String} (leads : cwd'.resolve name' = cwd.resolve name)
    (outside : ¬ (cwd.resolve name).segments <+: cwd'.segments) :
    fs'.remove cwd' name' = .ok (fs, leaf) := by
  obtain ⟨free, rfl⟩ := eq_put_of_insert done
  obtain ⟨named, above, ha⟩ := placed_of_insert done
  have hp : (cwd.resolve name).segments ≠ [] := fun root => outside (root ▸ List.nil_prefix)
  have here : (fs.put (cwd.resolve name) kind text).lookup (cwd.resolve name) =
      some (Node.bare kind text) := Entries.lookup_write_self fs.ordered hp ha _
  rw [remove_of_lookup leads outside here, erase_put hp ha free, named]
  cases kind <;> rfl

theorem writing_eq_ok {fs fs' : FileSystem} {result : Except FileError (FileSystem × String)}
    {answer : Answer} (h : fs.writing result = (.ok answer, fs')) :
    ∃ leaf, answer = .leaf leaf ∧ result = .ok (fs', leaf) := by
  cases result with
  | error e => cases h
  | ok saved =>
    cases h
    exact ⟨_, rfl, rfl⟩

theorem writing_ok (fs fs' : FileSystem) (leaf : String) :
    fs.writing (.ok (fs', leaf)) = (.ok (.leaf leaf), fs') := rfl

theorem perform_of_created {op : Operation} {path : Path} (creates : op.created? = some path) :
    ∃ cwd name kind text what, cwd.resolve name = path ∧
      ∀ fs : FileSystem, fs.perform op = fs.writing (fs.insert cwd name kind text what) := by
  cases op with
  | lookup | list | changeFolder | read | remove | beginEdit | appendLine => cases creates
  | makeFolder cwd name =>
    cases creates
    exact ⟨cwd, name, .folder, "", "folder name", rfl, fun fs => fs.perform_makeFolder cwd name⟩
  | makeFile cwd name =>
    cases creates
    exact ⟨cwd, name, .file, "", "file name", rfl, fun fs => fs.perform_makeFile cwd name⟩
  | createFile cwd name text =>
    cases creates
    exact ⟨cwd, name, .file, text, "file name", rfl, fun fs => fs.perform_createFile cwd name text⟩

theorem perform_remove_of_created {fs fs' : FileSystem} {op : Operation} {path : Path}
    {answer : Answer} (creates : op.created? = some path)
    (done : fs.perform op = (.ok answer, fs')) {cwd : Path} {name : String}
    (leads : cwd.resolve name = path) (outside : ¬ path.segments <+: cwd.segments) :
    fs'.perform (.remove cwd name) = (.ok answer, fs) := by
  obtain ⟨cwd', name', kind, text, what, rfl, inserts⟩ := perform_of_created creates
  rw [inserts] at done
  obtain ⟨leaf, rfl, inserted⟩ := writing_eq_ok done
  rw [perform_remove, remove_of_insert inserted leads outside, writing_ok]

theorem at?_flat_ne_none {fs : FileSystem} {path : Path} :
    fs.flat.at? path ≠ none ↔ ∃ node, fs.lookup path = some node := by
  rw [at?_flat, ne_eq, Option.map_eq_none_iff, ← ne_eq, Option.ne_none_iff_exists']

/-- The calls that remove nodes in turn, each by its path written out. -/
def removals (cwd : Path) (order : List Path) : List Operation :=
  order.map fun path => .remove cwd path.toText

def removed (path : Path) : Except FileError Answer := .ok (.leaf (path.name?.getD ""))

/-- Nodes that are there, with all below them, each after what lies below it. No node is listed
twice, since a path is at or above itself. -/
structure Upwards (fs : FileSystem) (order : List Path) : Prop where
  there : ∀ path ∈ order, fs.flat.at? path ≠ none
  below : ∀ path ∈ order, ∀ other : Path, path.segments <+: other.segments →
    fs.flat.at? other ≠ none → other ∈ order
  after : order.Pairwise fun earlier later => ¬ earlier.segments <+: later.segments

namespace Upwards

variable {fs : FileSystem} {path : Path} {order : List Path}

theorem of_prefix {before : List Path} (h : fs.Upwards order) (hb : before <+: order) :
    fs.Upwards before := by
  obtain ⟨rest, rfl⟩ := hb
  obtain ⟨after, -, apart⟩ := List.pairwise_append.mp h.after
  refine ⟨fun path hp => h.there path (List.mem_append_left rest hp), ?_, after⟩
  intro path hp other under shown
  rcases List.mem_append.mp (h.below path (List.mem_append_left rest hp) other under shown) with
    here | late
  · exact here
  · exact absurd under (apart path hp other late)

theorem bareAt (h : fs.Upwards (path :: order)) : fs.BareAt path := by
  intro names hn
  by_contra shown
  let other : Path := ⟨path.segments ++ names⟩
  have under : path.segments <+: other.segments := List.prefix_append _ _
  have visible : fs.flat.at? other ≠ none := by
    rw [FlatMap.at?, lookup_flat]
    exact shown
  rcases List.mem_cons.mp (h.below path List.mem_cons_self other under visible) with same | late
  · have longer := congrArg (fun p : Path => p.segments.length) same
    have filled := List.length_pos_iff.mpr hn
    simp only [other, List.length_append] at longer
    omega
  · exact (List.pairwise_cons.mp h.after).1 other late under

theorem remove_first (h : fs.Upwards (path :: order)) {cwd : Path} {name : String}
    (leads : cwd.resolve name = path) (outside : ¬ path.segments <+: cwd.segments) :
    fs.perform (.remove cwd name) = (removed path, fs.erase path) := by
  obtain ⟨node, here⟩ := at?_flat_ne_none.mp (h.there path List.mem_cons_self)
  have done : fs.remove cwd name = .ok (fs.erase path, path.name?.getD "") := by
    rw [remove_of_lookup leads outside here]
    cases node with
    | file text => rfl
    | folder entries =>
      cases entries with
      | nil => rfl
      | cons first node rest =>
        have bare := h.bareAt [first] (by simp)
        rw [Entries.item?, Entries.lookup_append, ← lookup, here, Option.bind_some, Node.lookup,
          Entries.lookup_cons, Entries.find?, if_pos rfl, Option.bind_some, Node.lookup_nil] at bare
        cases bare
  rw [perform_remove, done, writing_ok, removed]

theorem at?_erase_first (h : fs.Upwards (path :: order)) (nonroot : path.segments ≠ [])
    (other : Path) :
    (fs.erase path).flat.at? other = if other = path then none else fs.flat.at? other := by
  obtain ⟨node, here⟩ := at?_flat_ne_none.mp (h.there path List.mem_cons_self)
  obtain ⟨above, ha⟩ := lookup_parent nonroot here
  rw [flat_erase nonroot ha h.bareAt, FlatMap.at?]
  by_cases same : other = path
  · rw [if_pos same, same, Finmap.lookup_erase]
  · have differ : other.segments ≠ path.segments := fun e => same (congrArg Path.mk e)
    rw [if_neg same, Finmap.lookup_erase_ne differ, FlatMap.at?]

theorem rest (h : fs.Upwards (path :: order)) (nonroot : path.segments ≠ []) :
    (fs.erase path).Upwards order := by
  obtain ⟨first, after⟩ := List.pairwise_cons.mp h.after
  have differ : ∀ other ∈ order, other ≠ path := by
    rintro other ho rfl
    exact first other ho List.prefix_rfl
  refine ⟨fun other ho => ?_, fun above ha other under shown => ?_, after⟩
  · rw [h.at?_erase_first nonroot, if_neg (differ other ho)]
    exact h.there other (List.mem_cons_of_mem path ho)
  · rw [h.at?_erase_first nonroot] at shown
    split at shown
    · exact absurd rfl shown
    · next other_ne =>
      have listed := h.below above (List.mem_cons_of_mem path ha) other under shown
      exact (List.mem_cons.mp listed).resolve_left other_ne

/-- Removing the nodes in turn succeeds each time and removes exactly these nodes. -/
theorem removals (h : fs.Upwards order) (named : fs.Named) {cwd : Path}
    (outside : ∀ path ∈ order, ¬ path.segments <+: cwd.segments) :
    (fs.performAll (FileSystem.removals cwd order)).1 = order.map removed ∧
      ∀ other : Path, (fs.performAll (FileSystem.removals cwd order)).2.flat.at? other =
        if other ∈ order then none else fs.flat.at? other := by
  induction order generalizing fs with
  | nil => exact ⟨rfl, fun other => (if_neg List.not_mem_nil).symm⟩
  | cons path rest ih =>
    obtain ⟨first, later⟩ := List.forall_mem_cons.mp outside
    have nonroot : path.segments ≠ [] := fun root => first (root ▸ List.nil_prefix)
    obtain ⟨node, here⟩ := at?_flat_ne_none.mp (h.there path List.mem_cons_self)
    have written : cwd.resolve path.toText = path := Path.resolve_toText (named.plain here) cwd
    have gone := h.remove_first written first
    obtain ⟨answers, shows⟩ := ih (h.rest nonroot) (named.erase path) later
    rw [FileSystem.removals, List.map_cons, performAll, gone]
    refine ⟨congrArg (removed path :: ·) answers, fun other => ?_⟩
    refine (shows other).trans ?_
    rw [h.at?_erase_first nonroot]
    by_cases same : other = path
    · simp [same]
    · simp [same]

end Upwards

theorem mem_paths_nodes {fs : FileSystem} {path : Path} :
    path ∈ fs.nodes.map Prod.fst ↔ ∃ node, fs.lookup path = some node := by
  simp [mem_nodes]

/-- All nodes at or below a path, each after what lies below it. -/
structure TakesApart (fs : FileSystem) (path : Path) (order : List Path) : Prop where
  nodes : ∀ other : Path, other ∈ order ↔
    path.segments <+: other.segments ∧ ∃ node, fs.lookup other = some node
  after : order.Pairwise fun earlier later => ¬ earlier.segments <+: later.segments

theorem TakesApart.upwards {fs : FileSystem} {path : Path} {order : List Path}
    (h : fs.TakesApart path order) : fs.Upwards order where
  there other ho := at?_flat_ne_none.mpr ((h.nodes other).mp ho).2
  below above ha other under shown := by
    have top := ((h.nodes above).mp ha).1
    exact (h.nodes other).mpr ⟨top.trans under, at?_flat_ne_none.mp shown⟩
  after := h.after

/-- Descending order of length is such an order. -/
theorem exists_takesApart (fs : FileSystem) (path : Path) : ∃ order, fs.TakesApart path order := by
  let within := (fs.nodes.map Prod.fst).filter fun other => path.segments.isPrefixOf other.segments
  let longer (p q : Path) : Bool := q.segments.length ≤ p.segments.length
  have trans : ∀ p q r, longer p q → longer q r → longer p r := by
    intro p q r
    simp only [longer, decide_eq_true_eq]
    omega
  have total : ∀ p q, longer p q || longer q p := by
    intro p q
    simp only [longer, Bool.or_eq_true, decide_eq_true_eq]
    omega
  have sorted := List.pairwise_mergeSort trans total within.dedup
  have once : (within.dedup.mergeSort longer).Nodup :=
    (List.mergeSort_perm _ _).nodup_iff.mpr (List.nodup_dedup within)
  refine ⟨within.dedup.mergeSort longer, fun other => ?_, ?_⟩
  · rw [← mem_paths_nodes, List.mem_mergeSort, List.mem_dedup, List.mem_filter,
      List.isPrefixOf_iff_prefix, and_comm]
  · refine (sorted.and once).imp ?_
    rintro p q ⟨long, differ⟩ above
    apply differ
    simp only [longer, decide_eq_true_eq] at long
    exact congrArg Path.mk (above.eq_of_length_le long)

namespace TakesApart

variable {fs : FileSystem} {path cwd : Path} {order : List Path}

theorem outside (h : fs.TakesApart path order) (apart : ¬ path.segments <+: cwd.segments) :
    ∀ other ∈ order, ¬ other.segments <+: cwd.segments := by
  intro other ho above
  exact apart (((h.nodes other).mp ho).1.trans above)

theorem at?_emptied (h : fs.TakesApart path order) (named : fs.Named)
    (apart : ¬ path.segments <+: cwd.segments) (other : Path) :
    (fs.performAll (removals cwd order)).2.flat.at? other =
      if path.segments <+: other.segments then none else fs.flat.at? other := by
  rw [(h.upwards.removals named (h.outside apart)).2]
  by_cases under : path.segments <+: other.segments
  · rw [if_pos under]
    split
    · rfl
    · next unlisted =>
      by_contra shown
      exact unlisted ((h.nodes other).mpr ⟨under, at?_flat_ne_none.mp shown⟩)
  · have unlisted : other ∉ order := fun listed => under ((h.nodes other).mp listed).1
    rw [if_neg unlisted, if_neg under]

theorem emptied_eq (h : fs.TakesApart path order) (named : fs.Named)
    (apart : ¬ path.segments <+: cwd.segments) {node : Node} (here : fs.lookup path = some node) :
    (fs.performAll (removals cwd order)).2 = fs.erase path := by
  have nonroot : path.segments ≠ [] := fun root => apart (root ▸ List.nil_prefix)
  obtain ⟨above, ha⟩ := lookup_parent nonroot here
  apply flat_injective
  refine Finmap.ext_lookup fun names => ?_
  have left := h.at?_emptied named apart ⟨names⟩
  rw [← at?_erase nonroot ha] at left
  exact left

end TakesApart

theorem perform_remove_folder {fs : FileSystem} {cwd folder : Path} {name : String}
    {entries : Entries} (here : fs.lookup folder = some (.folder entries))
    (leads : cwd.resolve name = folder) (outside : ¬ folder.segments <+: cwd.segments) :
    fs.perform (.remove cwd name) =
      if entries = .nil then (removed folder, fs.erase folder)
      else (.error (.folderNotEmpty (folder.name?.getD "")), fs) := by
  rw [perform_remove, remove_of_lookup leads outside here]
  cases entries with
  | nil => rfl
  | cons first node rest => rfl

/-- An inserted entry can be removed again from every folder that is not at or below it, which
restores the tree. A node in a tree of plain names is removed by removing all nodes at or below it
by their written paths, in any order in which each follows those below it: every call succeeds, and
the result is the tree without that node. In every intermediate state a folder can be removed
exactly when it is empty, and a failing removal leaves the tree unchanged. -/
theorem folders_go_when_emptied (fs : FileSystem) :
    (∀ op path answer fs', op.created? = some path → fs.perform op = (.ok answer, fs') →
      ∀ (cwd : Path) (name : String), cwd.resolve name = path →
        ¬ path.segments <+: cwd.segments → fs'.perform (.remove cwd name) = (.ok answer, fs)) ∧
    ∀ path node, fs.Named → fs.lookup path = some node →
      (∃ order, fs.TakesApart path order) ∧
      ∀ (cwd : Path) (order : List Path), ¬ path.segments <+: cwd.segments →
        fs.TakesApart path order →
        let emptied := fs.performAll (removals cwd order)
        emptied.1 = order.map removed ∧ emptied.2 = fs.erase path ∧
          (∀ other : Path, emptied.2.flat.at? other =
            if path.segments <+: other.segments then none else fs.flat.at? other) ∧
          ∀ before, before <+: order →
            let now := (fs.performAll (removals cwd before)).2
            (∀ other, now.flat.at? other = if other ∈ before then none else fs.flat.at? other) ∧
              ∀ folder entries, now.lookup folder = some (.folder entries) →
                ∀ (cwd' : Path) (name : String), cwd'.resolve name = folder →
                  ¬ folder.segments <+: cwd'.segments →
                  now.perform (.remove cwd' name) =
                    if entries = .nil then (removed folder, now.erase folder)
                    else (.error (.folderNotEmpty (folder.name?.getD "")), now) := by
  refine ⟨fun _ _ _ _ creates done _ _ => perform_remove_of_created creates done, ?_⟩
  intro path node named here
  refine ⟨fs.exists_takesApart path, fun cwd order apart whole => ?_⟩
  have outside := whole.outside apart
  refine ⟨(whole.upwards.removals named outside).1, whole.emptied_eq named apart here,
    whole.at?_emptied named apart, fun before hb => ⟨?_, ?_⟩⟩
  · have first := whole.upwards.of_prefix hb
    exact (first.removals named fun other ho => outside other (hb.subset ho)).2
  · intro folder entries found cwd' name leads away
    exact perform_remove_folder found leads away

/-- A folder made and removed again from beside it, and a folder with a file in it taken away. -/
theorem folders_go_when_emptied_nested :
    let fs := (empty.put ⟨["a"]⟩ .folder "").put ⟨["a", "x"]⟩ .file "1"
    let grown := (fs.perform (.makeFolder ⟨["a"]⟩ "b")).2
    let order : List Path := [⟨["a", "x"]⟩, ⟨["a"]⟩]
    grown.perform (.remove .root "a/b") = (.ok (.leaf "b"), fs) ∧ fs.TakesApart ⟨["a"]⟩ order ∧
      fs.performAll (removals .root order) =
        ([.ok (.leaf "x"), .ok (.leaf "a")], fs.erase ⟨["a"]⟩) := by
  intro fs grown order
  have made : fs.perform (.makeFolder ⟨["a"]⟩ "b") = (.ok (.leaf "b"), grown) := by
    refine Prod.ext ?_ rfl
    decide
  have outer : Path.Plain ⟨["a"]⟩ := Path.plain_root.child (by decide)
  have inner : Path.Plain ⟨["a", "x"]⟩ := outer.child (by decide)
  have nothing : empty.Named := trivial
  have named : fs.Named := (nothing.put outer .folder "").put inner .file "1"
  have here : fs.lookup ⟨["a"]⟩ = some (.folder (.cons "x" (.file "1") .nil)) := by decide
  have nodes : fs.nodes.map Prod.fst = [.root, ⟨["a"]⟩, ⟨["a", "x"]⟩] := by decide
  have apart : fs.TakesApart ⟨["a"]⟩ order := by
    refine ⟨fun other => ?_, by decide⟩
    have root : ¬ ["a"] <+: Path.root.segments := by decide
    rw [← mem_paths_nodes, nodes]
    constructor
    · intro ho
      rcases List.mem_pair.mp ho with rfl | rfl <;> exact ⟨by decide, by decide⟩
    · rintro ⟨under, ho⟩
      rcases List.mem_cons.mp ho with rfl | ho
      · exact absurd under root
      · exact List.mem_pair.mpr (List.mem_pair.mp ho).symm
  obtain ⟨adding, taking⟩ := folders_go_when_emptied fs
  obtain ⟨answers, left, -⟩ := (taking _ _ named here).2 .root order (by decide) apart
  exact ⟨adding _ _ _ _ rfl made .root "a/b" (by decide) (by decide), apart, Prod.ext answers left⟩

end FileSystem
end VirtualTerminal
