import VirtualTerminal.Proofs.FlatRefinement

/-! # Independent writes

A write depends on the items at its path and in the folder above it and on the existence of items
below it, and changes its path alone. Hence two writes commute when neither path is at or above the
other. -/
namespace VirtualTerminal

def Operation.target? : Operation → Option Path
  | .makeFolder cwd name | .makeFile cwd name | .createFile cwd name _ | .remove cwd name =>
    some (cwd.resolve name)
  | .appendLine handle _ => some handle.path
  | .lookup _ | .list _ _ | .changeFolder _ _ | .read _ _ | .beginEdit _ _ => none

/-- Neither path is at or above the other. -/
def Path.Apart (p q : Path) : Prop := ¬ p.segments <+: q.segments ∧ ¬ q.segments <+: p.segments

theorem Path.Apart.symm {p q : Path} (h : p.Apart q) : q.Apart p := ⟨h.2, h.1⟩

theorem Path.Apart.ne {p q : Path} (h : p.Apart q) : p.segments ≠ q.segments := by
  intro same
  apply h.1
  rw [same]

theorem Path.Apart.parent_ne {p q : Path} (h : p.Apart q) : p.parent.segments ≠ q.segments := by
  intro same
  apply h.2
  rw [← same]
  exact List.dropLast_prefix p.segments

namespace FlatMap

/-- The maps agree at the path and in the folder above it, and both or neither have an item directly
below it. -/
structure AgreesAround (m m' : FlatMap) (path : Path) : Prop where
  here : m'.at? path = m.at? path
  above : m'.at? path.parent = m.at? path.parent
  below : m'.Occupied path ↔ m.Occupied path

theorem mem_keys_of_lookup_eq {m m' : FlatMap} {names : List String}
    (h : m'.lookup names = m.lookup names) : names ∈ m'.keys ↔ names ∈ m.keys := by
  rw [Finmap.mem_keys, Finmap.mem_keys, ← Finmap.lookup_isSome, ← Finmap.lookup_isSome, h]

theorem agreesAround_of_frame {m m' : FlatMap} {path changed : Path} (apart : path.Apart changed)
    (frame : ∀ names, names ≠ changed.segments → m'.lookup names = m.lookup names) :
    m.AgreesAround m' path where
  here := frame path.segments apart.ne
  above := frame path.parent.segments apart.parent_ne
  below := by
    have keys : ∀ names, names ≠ [] → names.dropLast = path.segments →
        (names ∈ m'.keys ↔ names ∈ m.keys) := by
      intro names _ directly
      apply mem_keys_of_lookup_eq
      apply frame
      rintro rfl
      apply apart.1
      rw [← directly]
      exact List.dropLast_prefix changed.segments
    constructor
    · rintro ⟨names, hm, hn, directly⟩
      exact ⟨names, (keys names hn directly).mp hm, hn, directly⟩
    · rintro ⟨names, hm, hn, directly⟩
      exact ⟨names, (keys names hn directly).mpr hm, hn, directly⟩

/-- A call on flat maps that looks around a path and changes that path alone. -/
structure Local (path : Path) (call : FlatMap → Except FileError Answer × FlatMap) : Prop where
  frame : ∀ m names, names ≠ path.segments → (call m).2.lookup names = m.lookup names
  answer : ∀ {m m' : FlatMap}, m.AgreesAround m' path → (call m').1 = (call m).1
  written : ∀ {m m' : FlatMap}, m.AgreesAround m' path →
    (call m').2.at? path = (call m).2.at? path

theorem local_insertAt (cwd : Path) (name what : String) (item : Item) :
    Local (cwd.resolve name) fun m => m.insertAt cwd name what item where
  frame m names differ := by
    simp only [insertAt]
    repeat' split
    all_goals first | rfl | exact Finmap.lookup_insert_of_ne m differ
  answer agrees := by
    simp only [insertAt, agrees.here, agrees.above]
    repeat' split
    all_goals rfl
  written agrees := by
    simp only [insertAt, agrees.here, agrees.above]
    repeat' split
    all_goals first | exact agrees.here | simp only [at?, Finmap.lookup_insert]

theorem local_removeAt (cwd : Path) (name : String) :
    Local (cwd.resolve name) fun m => m.removeAt cwd name where
  frame m names differ := by
    simp only [removeAt]
    repeat' split
    all_goals first | rfl | exact Finmap.lookup_erase_ne differ
  answer agrees := by
    simp only [removeAt, agrees.here, agrees.below]
    repeat' split
    all_goals rfl
  written agrees := by
    simp only [removeAt, agrees.here, agrees.below]
    repeat' split
    all_goals first | exact agrees.here | simp only [at?, Finmap.lookup_erase]

theorem local_appendAt (handle : EditHandle) (line : String) :
    Local handle.path fun m => m.appendAt handle line where
  frame m names differ := by
    simp only [appendAt]
    split
    · rfl
    · rfl
    · exact Finmap.lookup_insert_of_ne m differ
  answer agrees := by
    simp only [appendAt, agrees.here]
    split <;> rfl
  written agrees := by
    simp only [appendAt, agrees.here]
    split
    · exact agrees.here
    · exact agrees.here
    · simp only [at?, Finmap.lookup_insert]

variable {p q : Path} {call call' : FlatMap → Except FileError Answer × FlatMap}

/-- The answer of a call is the same after a call local to a path apart from its own. -/
theorem Local.answer_after (h : Local p call) (h' : Local q call') (apart : p.Apart q)
    (m : FlatMap) : (call (call' m).2).1 = (call m).1 :=
  h.answer (agreesAround_of_frame apart (h'.frame m))

theorem Local.lookup_after (h : Local p call) (h' : Local q call') (apart : p.Apart q)
    (m : FlatMap) {names : List String} (hn : names ≠ q.segments) :
    (call (call' m).2).2.lookup names = (call m).2.lookup names := by
  by_cases here : names = p.segments
  · rw [here]
    exact h.written (agreesAround_of_frame apart (h'.frame m))
  · rw [h.frame _ names here, h'.frame m names hn, h.frame m names here]

theorem Local.maps_commute (h : Local p call) (h' : Local q call') (apart : p.Apart q)
    (m : FlatMap) : (call' (call m).2).2 = (call (call' m).2).2 := by
  refine Finmap.ext_lookup fun names => ?_
  by_cases there : names = q.segments
  · have elsewhere : names ≠ p.segments := by
      rw [there]
      exact apart.symm.ne
    rw [h'.lookup_after h apart.symm m elsewhere, h.frame _ names elsewhere]
  · rw [h'.frame _ names there, h.lookup_after h' apart m there]

end FlatMap

namespace FileSystem

theorem perform_local {op : Operation} {path : Path} (h : op.target? = some path) :
    ∃ call, FlatMap.Local path call ∧
      ∀ fs : FileSystem, ((fs.perform op).1, (fs.perform op).2.flat) = call fs.flat := by
  cases op with
  | lookup | list | changeFolder | read | beginEdit => cases h
  | makeFolder cwd name =>
    cases h
    exact ⟨_, FlatMap.local_insertAt cwd name "folder name" .folder,
      fun fs => fs.flat_insert cwd name .folder "" "folder name"⟩
  | makeFile cwd name =>
    cases h
    exact ⟨_, FlatMap.local_insertAt cwd name "file name" (.file ""),
      fun fs => fs.flat_insert cwd name .file "" "file name"⟩
  | createFile cwd name text =>
    cases h
    exact ⟨_, FlatMap.local_insertAt cwd name "file name" (.file text),
      fun fs => fs.flat_insert cwd name .file text "file name"⟩
  | remove cwd name =>
    cases h
    exact ⟨_, FlatMap.local_removeAt cwd name, fun fs => fs.flat_remove cwd name⟩
  | appendLine handle line =>
    cases h
    exact ⟨_, FlatMap.local_appendAt handle line, fun fs => fs.flat_append handle line⟩

variable {op op' : Operation} {p q : Path}

theorem answer_after (writes : op.target? = some p) (writes' : op'.target? = some q)
    (apart : p.Apart q) (fs : FileSystem) :
    ((fs.perform op').2.perform op).1 = (fs.perform op).1 := by
  obtain ⟨call, here, acts⟩ := perform_local writes
  obtain ⟨call', here', acts'⟩ := perform_local writes'
  have left : (fs.perform op').2.flat = (call' fs.flat).2 := congrArg Prod.snd (acts' fs)
  calc ((fs.perform op').2.perform op).1
      = (call (fs.perform op').2.flat).1 := congrArg Prod.fst (acts _)
    _ = (call (call' fs.flat).2).1 := by rw [left]
    _ = (call fs.flat).1 := here.answer_after here' apart fs.flat
    _ = (fs.perform op).1 := (congrArg Prod.fst (acts fs)).symm

theorem trees_commute (writes : op.target? = some p) (writes' : op'.target? = some q)
    (apart : p.Apart q) (fs : FileSystem) :
    ((fs.perform op').2.perform op).2 = ((fs.perform op).2.perform op').2 := by
  obtain ⟨call, here, acts⟩ := perform_local writes
  obtain ⟨call', here', acts'⟩ := perform_local writes'
  have flat (fs : FileSystem) : (fs.perform op).2.flat = (call fs.flat).2 :=
    congrArg Prod.snd (acts fs)
  have flat' (fs : FileSystem) : (fs.perform op').2.flat = (call' fs.flat).2 :=
    congrArg Prod.snd (acts' fs)
  apply flat_injective
  rw [flat, flat', flat', flat]
  exact (here.maps_commute here' apart fs.flat).symm

/-- Two writes at paths of which neither is at or above the other have the same answers and the same
tree in either order, whether they succeed or fail and from any working folders. -/
theorem independent_writes_commute (fs : FileSystem) (writes : op.target? = some p)
    (writes' : op'.target? = some q) (apart : p.Apart q) :
    ∃ answer answer' after,
      fs.performAll [op, op'] = ([answer, answer'], after) ∧
        fs.performAll [op', op] = ([answer', answer], after) := by
  have first := answer_after writes writes' apart fs
  have second := answer_after writes' writes apart.symm fs
  have trees := trees_commute writes writes' apart fs
  refine ⟨(fs.perform op).1, (fs.perform op').1, ((fs.perform op).2.perform op').2, ?_, ?_⟩
  · simp only [performAll, second]
  · simp only [performAll, first, trees]

/-- A file removed and a new one made beside it, each from another folder. -/
theorem independent_writes_commute_siblings :
    let fs := (empty.put ⟨["a"]⟩ .folder "").put ⟨["a", "x"]⟩ .file "1"
    let op : Operation := .remove ⟨["b"]⟩ "../a/x"
    let op' : Operation := .createFile ⟨["a"]⟩ "y" "2"
    op.target? = some ⟨["a", "x"]⟩ ∧ op'.target? = some ⟨["a", "y"]⟩ ∧
      Path.Apart ⟨["a", "x"]⟩ ⟨["a", "y"]⟩ ∧
      ∃ answer answer' after,
        fs.performAll [op, op'] = ([answer, answer'], after) ∧
          fs.performAll [op', op] = ([answer', answer], after) := by
  intro fs op op'
  have writes : op.target? = some ⟨["a", "x"]⟩ := by decide
  have writes' : op'.target? = some ⟨["a", "y"]⟩ := by decide
  have apart : Path.Apart ⟨["a", "x"]⟩ ⟨["a", "y"]⟩ := ⟨by decide, by decide⟩
  exact ⟨writes, writes', apart, independent_writes_commute fs writes writes' apart⟩

end FileSystem
end VirtualTerminal
