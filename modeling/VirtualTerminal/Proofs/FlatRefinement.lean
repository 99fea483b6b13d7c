import VirtualTerminal.Proofs.FlatMap

/-! # The file system refines its flat map

The answer of every operation is determined by the flat map, and a write changes the flat map at one
path. -/
namespace VirtualTerminal

inductive Operation
  | lookup (path : Path)
  | list (cwd : Path) (name : String)
  | changeFolder (cwd : Path) (name : String)
  | read (cwd : Path) (name : String)
  | makeFolder (cwd : Path) (name : String)
  | makeFile (cwd : Path) (name : String)
  | createFile (cwd : Path) (name text : String)
  | remove (cwd : Path) (name : String)
  | beginEdit (cwd : Path) (name : String)
  | appendLine (handle : EditHandle) (line : String)
  deriving DecidableEq, Repr

inductive Answer
  | node (found : Option Node)
  | entries (entries : List (String × Kind))
  | path (path : Path)
  | text (text : String)
  | leaf (name : String)
  | handle (handle : EditHandle)
  | done
  deriving DecidableEq, Repr

namespace FileSystem

def reading {α : Type} (fs : FileSystem) (answer : α → Answer) (result : Except FileError α) :
    Except FileError Answer × FileSystem :=
  (result.map answer, fs)

def answering {α : Type} (answer : α → Answer) (result : Except FileError α × FileSystem) :
    Except FileError Answer × FileSystem :=
  (result.1.map answer, result.2)

def perform (fs : FileSystem) : Operation → Except FileError Answer × FileSystem
  | .lookup path => (.ok (.node (fs.lookup path)), fs)
  | .list cwd name => fs.reading .entries (fs.list cwd name)
  | .changeFolder cwd name => fs.reading .path (fs.changeFolder cwd name)
  | .read cwd name => fs.reading .text (fs.read cwd name)
  | .makeFolder cwd name => answering .leaf (fs.tryMakeFolder cwd name)
  | .makeFile cwd name => answering .leaf (fs.tryMakeFile cwd name)
  | .createFile cwd name text => answering .leaf (fs.tryCreateFile cwd name text)
  | .remove cwd name => answering .leaf (fs.tryRemove cwd name)
  | .beginEdit cwd name => fs.reading .handle (fs.beginEdit cwd name)
  | .appendLine handle line => answering (fun _ => .done) (fs.tryAppendLine handle line)

def writing (fs : FileSystem) :
    Except FileError (FileSystem × String) → Except FileError Answer × FileSystem
  | .ok (fs', leaf) => (.ok (.leaf leaf), fs')
  | .error e => (.error e, fs)

theorem answering_held (fs : FileSystem) (result : Except FileError (FileSystem × String)) :
    answering .leaf (fs.held result) = fs.writing result := by
  cases result <;> rfl

theorem perform_makeFolder (fs : FileSystem) (cwd : Path) (name : String) :
    fs.perform (.makeFolder cwd name) = fs.writing (fs.makeFolder cwd name) := by
  rw [perform, tryMakeFolder_eq, answering_held]

theorem perform_makeFile (fs : FileSystem) (cwd : Path) (name : String) :
    fs.perform (.makeFile cwd name) = fs.writing (fs.makeFile cwd name) := by
  rw [perform, tryMakeFile_eq, answering_held]

theorem perform_createFile (fs : FileSystem) (cwd : Path) (name text : String) :
    fs.perform (.createFile cwd name text) = fs.writing (fs.createFile cwd name text) := by
  rw [perform, tryCreateFile_eq, answering_held]

theorem perform_remove (fs : FileSystem) (cwd : Path) (name : String) :
    fs.perform (.remove cwd name) = fs.writing (fs.remove cwd name) := by
  rw [perform, tryRemove_eq, answering_held]

theorem perform_appendLine (fs : FileSystem) (handle : EditHandle) (line : String) :
    fs.perform (.appendLine handle line) =
      match fs.appendLine handle line with
      | .ok fs' => (.ok .done, fs')
      | .error e => (.error e, fs) := by
  rw [perform, tryAppendLine_eq]
  cases fs.appendLine handle line <;> rfl

end FileSystem

namespace FlatMap

/-- The entries list the paths one name longer with their kinds, in increasing order of name. -/
def Lists (m : FlatMap) (folder : Path) (entries : List (String × Kind)) : Prop :=
  (entries.Pairwise fun a b => a.1 < b.1) ∧
    ∀ name kind, (name, kind) ∈ entries ↔ (m.at? (folder.child name)).map Item.kind = some kind

def Occupied (m : FlatMap) (folder : Path) : Prop :=
  ∃ names ∈ m.keys, names ≠ [] ∧ names.dropLast = folder.segments

instance (m : FlatMap) (folder : Path) : Decidable (m.Occupied folder) :=
  inferInstanceAs (Decidable (∃ names ∈ m.keys, names ≠ [] ∧ names.dropLast = folder.segments))

def readAt (m : FlatMap) (cwd : Path) (name what : String)
    (answer : Item → Except FileError Answer) : Except FileError Answer :=
  if name = "" then .error (.missingOperand what)
  else
    match m.at? (cwd.resolve name) with
    | none => .error (.notFound name)
    | some item => answer item

def insertAt (m : FlatMap) (cwd : Path) (name what : String) (item : Item) :
    Except FileError Answer × FlatMap :=
  if name = "" then (.error (.missingOperand what), m)
  else
    match (cwd.resolve name).name? with
    | none => (.error (.invalidPath name), m)
    | some leaf =>
      if m.at? (cwd.resolve name).parent ≠ some .folder then (.error (.invalidPath name), m)
      else if m.at? (cwd.resolve name) ≠ none then (.error (.alreadyExists leaf), m)
      else (.ok (.leaf leaf), m.insert (cwd.resolve name).segments item)

def removeAt (m : FlatMap) (cwd : Path) (name : String) : Except FileError Answer × FlatMap :=
  if name = "" then (.error (.missingOperand "file or folder"), m)
  else if (cwd.resolve name).segments <+: cwd.segments then (.error (.invalidPath name), m)
  else
    let leaf := (cwd.resolve name).name?.getD ""
    match m.at? (cwd.resolve name) with
    | none => (.error (.notFound name), m)
    | some item =>
      if item = .folder ∧ m.Occupied (cwd.resolve name) then (.error (.folderNotEmpty leaf), m)
      else (.ok (.leaf leaf), m.erase (cwd.resolve name).segments)

def appendAt (m : FlatMap) (handle : EditHandle) (line : String) :
    Except FileError Answer × FlatMap :=
  match m.at? handle.path with
  | none => (.error (.notFound handle.name), m)
  | some .folder => (.error (.isAFolder handle.name), m)
  | some (.file text) => (.ok .done, m.insert handle.path.segments (.file (text ++ line ++ "\n")))

/-- The answer and the resulting map that a call is specified to have. -/
def Allows (m : FlatMap) (op : Operation) (answer : Except FileError Answer) (m' : FlatMap) :
    Prop :=
  match op with
  | .lookup path =>
    (∃ found, answer = .ok (.node found) ∧ found.map Node.item = m.at? path) ∧ m' = m
  | .list cwd name =>
    let shown := if name = "" then "." else name
    (match m.at? (cwd.resolve name) with
      | none => answer = .error (.notFound shown)
      | some (.file _) => answer = .error (.notAFolder shown)
      | some .folder =>
        ∃ entries, answer = .ok (.entries entries) ∧ m.Lists (cwd.resolve name) entries) ∧
      m' = m
  | .changeFolder cwd name =>
    answer = m.readAt cwd name "folder" (fun item =>
      if item = .folder then .ok (.path (cwd.resolve name)) else .error (.notAFolder name)) ∧ m' = m
  | .read cwd name =>
    answer = m.readAt cwd name "file" (fun
      | .file text => .ok (.text text)
      | .folder => .error (.isAFolder name)) ∧ m' = m
  | .makeFolder cwd name => (answer, m') = m.insertAt cwd name "folder name" .folder
  | .makeFile cwd name => (answer, m') = m.insertAt cwd name "file name" (.file "")
  | .createFile cwd name text => (answer, m') = m.insertAt cwd name "file name" (.file text)
  | .remove cwd name => (answer, m') = m.removeAt cwd name
  | .beginEdit cwd name =>
    answer = m.readAt cwd name "file" (fun item =>
      if item = .folder then .error (.isAFolder name)
      else .ok (.handle ⟨cwd.resolve name, name⟩)) ∧ m' = m
  | .appendLine handle line => (answer, m') = m.appendAt handle line

end FlatMap

namespace FileSystem

theorem occupied_flat {fs : FileSystem} {folder : Path} {entries : Entries}
    (h : fs.lookup folder = some (.folder entries)) :
    fs.flat.Occupied folder ↔ entries ≠ .nil := by
  constructor
  · rintro ⟨names, hm, hn, same⟩ rfl
    have shown : fs.flat.at? (folder.child (names.getLast hn)) = none := by
      rw [at?_flat, lookup_child h]
      rfl
    rw [FlatMap.at?, Path.child, ← same, List.dropLast_append_getLast] at shown
    exact Finmap.lookup_eq_none.mp shown (Finmap.mem_keys.mp hm)
  · intro hn
    cases entries with
    | nil => exact absurd rfl hn
    | cons name node rest =>
      refine ⟨(folder.child name).segments, ?_, by simp [Path.child], by simp [Path.child]⟩
      have shown : fs.flat.at? (folder.child name) = some node.item := by
        rw [at?_flat, lookup_child h, Entries.find?, if_pos rfl]
        rfl
      rw [Finmap.mem_keys, ← Finmap.lookup_isSome]
      exact Option.isSome_iff_exists.mpr ⟨_, shown⟩

theorem lists_kinds {fs : FileSystem} {folder : Path} {entries : Entries}
    (h : fs.lookup folder = some (.folder entries)) : fs.flat.Lists folder entries.kinds := by
  have ordered : entries.Ordered := fs.ordered.lookup h
  have kinds : Item.kind ∘ Node.item = Node.kind := funext Node.kind_item
  refine ⟨entries.pairwise_kinds ordered, fun name kind => ?_⟩
  rw [at?_flat, lookup_child h, Entries.mem_kinds ordered, Option.map_map, kinds]

theorem flat_insert (fs : FileSystem) (cwd : Path) (name : String) (kind : Kind)
    (text what : String) :
    ((answering .leaf (fs.tryInsert cwd name kind text what)).1,
        (answering .leaf (fs.tryInsert cwd name kind text what)).2.flat) =
      fs.flat.insertAt cwd name what (Node.bare kind text).item := by
  rw [tryInsert_eq, answering_held, insert_eq, FlatMap.insertAt]
  by_cases hn : name = ""
  · simp only [if_pos hn, writing]
  · simp only [if_neg hn]
    cases hl : (cwd.resolve name).name? with
    | none => rfl
    | some leaf =>
      have segments : (cwd.resolve name).segments ≠ [] := by
        intro root
        simp [Path.name?, root] at hl
      by_cases folder : fs.flat.at? (cwd.resolve name).parent = some .folder
      · obtain ⟨above, ha⟩ := at?_flat_eq_folder.mp folder
        cases here : fs.lookup (cwd.resolve name) with
        | some node => simp [writing, folder, ha, at?_flat, here]
        | none =>
          have put := flat_put segments ha (bareAt_of_none here) kind text
          simp [writing, folder, ha, at?_flat, here, put]
      · have absent (entries : Entries) :
            fs.lookup (cwd.resolve name).parent ≠ some (.folder entries) :=
          fun ha => folder (at?_flat_eq_folder.mpr ⟨entries, ha⟩)
        simp [writing, folder, absent]

theorem flat_remove (fs : FileSystem) (cwd : Path) (name : String) :
    ((answering .leaf (fs.tryRemove cwd name)).1,
        (answering .leaf (fs.tryRemove cwd name)).2.flat) =
      fs.flat.removeAt cwd name := by
  rw [tryRemove_eq, answering_held, remove_eq, FlatMap.removeAt]
  by_cases hn : name = ""
  · simp only [if_pos hn, writing]
  · simp only [if_neg hn, Path.isAtOrAbove, List.isPrefixOf_iff_prefix]
    by_cases hc : (cwd.resolve name).segments <+: cwd.segments
    · simp only [if_pos hc, writing]
    · have segments : (cwd.resolve name).segments ≠ [] := by
        intro root
        exact hc (root ▸ List.nil_prefix)
      simp only [if_neg hc, at?_flat]
      cases here : fs.lookup (cwd.resolve name) with
      | none => rfl
      | some node =>
        obtain ⟨above, ha⟩ := lookup_parent segments here
        cases node with
        | file text =>
          simp [writing, Node.item, flat_erase segments ha (bareAt_of_file here)]
        | folder inner =>
          have occupied := occupied_flat here
          cases inner with
          | nil =>
            simp [writing, Node.item, occupied, flat_erase segments ha (bareAt_of_empty here)]
          | cons first node rest => simp [writing, Node.item, occupied]

theorem flat_append (fs : FileSystem) (handle : EditHandle) (line : String) :
    ((fs.perform (.appendLine handle line)).1, (fs.perform (.appendLine handle line)).2.flat) =
      fs.flat.appendAt handle line := by
  rw [perform, tryAppendLine, FlatMap.appendAt, at?_flat]
  cases here : fs.lookup handle.path with
  | none => rfl
  | some node =>
    cases node with
    | folder entries => rfl
    | file text =>
      have segments : handle.path.segments ≠ [] := by
        intro root
        simp [lookup, root, Entries.lookup_nil] at here
      obtain ⟨above, ha⟩ := lookup_parent segments here
      exact congrArg (Prod.mk _)
        (flat_put segments ha (bareAt_of_file here) .file (text ++ line ++ "\n"))

theorem list_allows (fs : FileSystem) (cwd : Path) (name : String) :
    fs.flat.Allows (.list cwd name) (fs.perform (.list cwd name)).1 fs.flat := by
  refine ⟨?_, rfl⟩
  simp only [perform, reading, list, at?_flat]
  cases here : fs.lookup (cwd.resolve name) with
  | none => rfl
  | some node =>
    cases node with
    | file text => rfl
    | folder entries => exact ⟨entries.kinds, rfl, lists_kinds here⟩

theorem perform_allows (fs : FileSystem) (op : Operation) :
    fs.flat.Allows op (fs.perform op).1 (fs.perform op).2.flat := by
  cases op with
  | lookup path => exact ⟨⟨fs.lookup path, rfl, (at?_flat fs path).symm⟩, rfl⟩
  | list cwd name => exact fs.list_allows cwd name
  | changeFolder cwd name | read cwd name | beginEdit cwd name =>
    refine ⟨?_, rfl⟩
    simp only [perform, reading, changeFolder_eq, read_eq, beginEdit_eq, FlatMap.readAt, at?_flat]
    split
    · rfl
    · rcases fs.lookup (cwd.resolve name) with _ | _ | _ <;> rfl
  | makeFolder cwd name => exact fs.flat_insert cwd name .folder "" "folder name"
  | makeFile cwd name => exact fs.flat_insert cwd name .file "" "file name"
  | createFile cwd name text => exact fs.flat_insert cwd name .file text "file name"
  | remove cwd name => exact fs.flat_remove cwd name
  | appendLine handle line => exact fs.flat_append handle line

theorem answering_error {α : Type} {answer : α → Answer}
    {result : Except FileError α × FileSystem} {e : FileError}
    (h : (answering answer result).1 = .error e) : result.1 = .error e := by
  obtain ⟨answer, fs⟩ := result
  cases answer <;> simp_all [answering, Except.map]

theorem perform_error {fs : FileSystem} {op : Operation} {e : FileError}
    (h : (fs.perform op).1 = .error e) : (fs.perform op).2 = fs := by
  cases op with
  | lookup | list | changeFolder | read | beginEdit => rfl
  | makeFolder | makeFile | createFile => exact tryInsert_error (answering_error h)
  | remove => exact tryRemove_error (answering_error h)
  | appendLine => exact tryAppendLine_error (answering_error h)

def performAll (fs : FileSystem) : List Operation → List (Except FileError Answer) × FileSystem
  | [] => ([], fs)
  | op :: ops =>
    let first := fs.perform op
    let rest := first.2.performAll ops
    (first.1 :: rest.1, rest.2)

end FileSystem

def FlatMap.AllowsAll (m : FlatMap) :
    List Operation → List (Except FileError Answer) → FlatMap → Prop
  | [], [], m' => m' = m
  | op :: ops, answer :: answers, m' =>
    ∃ between, m.Allows op answer between ∧ between.AllowsAll ops answers m'
  | _, _, _ => False

namespace FileSystem

theorem performAll_allows (fs : FileSystem) (ops : List Operation) :
    fs.flat.AllowsAll ops (fs.performAll ops).1 (fs.performAll ops).2.flat := by
  induction ops generalizing fs with
  | nil => rfl
  | cons op rest ih => exact ⟨_, fs.perform_allows op, ih (fs.perform op).2⟩

/-- The file system refines its flat map: every call, on any tree, with any working folder and
operand, answers and writes as specified on the flat map; a failing call leaves the tree unchanged;
hence so do runs of calls. The flat map determines the tree. -/
theorem perform_refines_flat (fs : FileSystem) (op : Operation) :
    fs.flat.Allows op (fs.perform op).1 (fs.perform op).2.flat ∧
      (∀ e, (fs.perform op).1 = .error e → (fs.perform op).2 = fs) ∧
      (∀ ops, fs.flat.AllowsAll ops (fs.performAll ops).1 (fs.performAll ops).2.flat) ∧
      ∀ fs' : FileSystem, fs'.flat = fs.flat → fs' = fs :=
  ⟨fs.perform_allows op, fun _ => perform_error, fs.performAll_allows, fun _ => flat_injective⟩

end FileSystem
end VirtualTerminal
