import Mathlib.Data.List.Basic
import VirtualTerminal.Proofs.TreeLookup

/-! # The operations, case by case

Each operation of the file system as one case distinction on its operand and the nodes at the paths
involved. A failing operation leaves the tree unchanged. -/
namespace VirtualTerminal

theorem Path.child_of_name? {path : Path} {leaf : String} (h : path.name? = some leaf) :
    path.parent.child leaf = path := by
  simp only [child, parent]
  rw [List.dropLast_append_getLast? leaf h]

namespace FileSystem

theorem changeFolder_eq (fs : FileSystem) (cwd : Path) (name : String) :
    fs.changeFolder cwd name =
      if name = "" then .error (.missingOperand "folder")
      else
        match fs.lookup (cwd.resolve name) with
        | none => .error (.notFound name)
        | some (.file _) => .error (.notAFolder name)
        | some (.folder _) => .ok (cwd.resolve name) := by
  unfold changeFolder needs
  split <;> rfl

theorem read_eq (fs : FileSystem) (cwd : Path) (name : String) :
    fs.read cwd name =
      if name = "" then .error (.missingOperand "file")
      else
        match fs.lookup (cwd.resolve name) with
        | none => .error (.notFound name)
        | some (.folder _) => .error (.isAFolder name)
        | some (.file text) => .ok text := by
  unfold read needs
  split <;> rfl

theorem lookup_child {fs : FileSystem} {folder : Path} {entries : Entries}
    (h : fs.lookup folder = some (.folder entries)) (name : String) :
    fs.lookup (folder.child name) = entries.find? name := by
  rw [lookup, Path.child, Entries.lookup_append, ← lookup, h, Option.bind_some, Node.lookup,
    Entries.lookup_cons]
  cases entries.find? name with
  | none => rfl
  | some node => exact Node.lookup_nil node

theorem lookup_of_child {fs : FileSystem} {folder : Path} {name : String} {node : Node}
    (h : fs.lookup (folder.child name) = some node) :
    ∃ entries, fs.lookup folder = some (.folder entries) := by
  rw [lookup, Path.child, Entries.lookup_append, ← lookup] at h
  obtain ⟨above, ha, hn⟩ := Option.bind_eq_some_iff.mp h
  cases above with
  | file text => simp [Node.lookup] at hn
  | folder entries => exact ⟨entries, ha⟩

theorem lookup_parent {fs : FileSystem} {path : Path} {node : Node} (hp : path.segments ≠ [])
    (h : fs.lookup path = some node) :
    ∃ entries, fs.lookup path.parent = some (.folder entries) := by
  have whole : path.parent.child (path.segments.getLast hp) = path := by
    simp [Path.parent, Path.child, List.dropLast_append_getLast]
  exact lookup_of_child (whole.symm ▸ h)

theorem tryInsert_error {fs : FileSystem} {cwd : Path} {name : String} {kind : Kind}
    {text what : String} {e : FileError}
    (h : (fs.tryInsert cwd name kind text what).1 = .error e) :
    (fs.tryInsert cwd name kind text what).2 = fs := by
  unfold tryInsert at h ⊢
  split
  · rfl
  · dsimp only at h ⊢
    split
    · rfl
    · split
      · split
        · rfl
        · simp_all
      · rfl

theorem tryRemove_error {fs : FileSystem} {cwd : Path} {name : String} {e : FileError}
    (h : (fs.tryRemove cwd name).1 = .error e) : (fs.tryRemove cwd name).2 = fs := by
  unfold tryRemove at h ⊢
  split
  · rfl
  · dsimp only at h ⊢
    split
    · rfl
    · split
      · rfl
      · split
        · split
          · rfl
          · rfl
          · simp_all
        · rfl

theorem tryAppendLine_error {fs : FileSystem} {handle : EditHandle} {line : String} {e : FileError}
    (h : (fs.tryAppendLine handle line).1 = .error e) : (fs.tryAppendLine handle line).2 = fs := by
  unfold tryAppendLine at h ⊢
  split <;> simp_all

/-- The answer of a change and the tree after it, which is the tree before it if the change fails.
-/
def held {ε α : Type} (fs : FileSystem) : Except ε (FileSystem × α) → Except ε α × FileSystem
  | .ok (fs', answer) => (.ok answer, fs')
  | .error e => (.error e, fs)

theorem held_changed {ε α : Type} {fs : FileSystem} {result : Except ε α × FileSystem}
    (h : ∀ {e}, result.1 = .error e → result.2 = fs) : fs.held (changed result) = result := by
  obtain ⟨answer, fs'⟩ := result
  cases answer with
  | ok answer => rfl
  | error e => rw [← h rfl]; rfl

theorem tryInsert_eq (fs : FileSystem) (cwd : Path) (name : String) (kind : Kind)
    (text what : String) :
    fs.tryInsert cwd name kind text what = fs.held (fs.insert cwd name kind text what) :=
  (held_changed tryInsert_error).symm

theorem tryMakeFolder_eq (fs : FileSystem) (cwd : Path) (name : String) :
    fs.tryMakeFolder cwd name = fs.held (fs.makeFolder cwd name) := fs.tryInsert_eq ..

theorem tryMakeFile_eq (fs : FileSystem) (cwd : Path) (name : String) :
    fs.tryMakeFile cwd name = fs.held (fs.makeFile cwd name) := fs.tryInsert_eq ..

theorem tryCreateFile_eq (fs : FileSystem) (cwd : Path) (name text : String) :
    fs.tryCreateFile cwd name text = fs.held (fs.createFile cwd name text) := fs.tryInsert_eq ..

theorem tryRemove_eq (fs : FileSystem) (cwd : Path) (name : String) :
    fs.tryRemove cwd name = fs.held (fs.remove cwd name) := (held_changed tryRemove_error).symm

theorem tryAppendLine_eq (fs : FileSystem) (handle : EditHandle) (line : String) :
    fs.tryAppendLine handle line =
      match fs.appendLine handle line with
      | .ok fs' => (.ok (), fs')
      | .error e => (.error e, fs) := by
  have whole := held_changed (@tryAppendLine_error fs handle line)
  rw [← whole, appendLine]
  cases changed (fs.tryAppendLine handle line) <;> rfl

theorem insert_eq (fs : FileSystem) (cwd : Path) (name : String) (kind : Kind)
    (text what : String) :
    fs.insert cwd name kind text what =
      if name = "" then .error (.missingOperand what)
      else
        match (cwd.resolve name).name? with
        | none => .error (.invalidPath name)
        | some leaf =>
          match fs.lookup (cwd.resolve name).parent, fs.lookup (cwd.resolve name) with
          | some (.folder _), some _ => .error (.alreadyExists leaf)
          | some (.folder _), none => .ok (fs.put (cwd.resolve name) kind text, leaf)
          | _, _ => .error (.invalidPath name) := by
  unfold insert tryInsert needs
  by_cases named : name = ""
  · simp only [if_pos named, changed]
  · simp only [if_neg named]
    cases hl : (cwd.resolve name).name? with
    | none => simp [Path.splitLeaf?, hl, changed]
    | some leaf =>
      have whole := Path.child_of_name? hl
      simp only [Path.splitLeaf?, hl, Option.map_some]
      cases ha : fs.lookup (cwd.resolve name).parent with
      | none => rfl
      | some above =>
        cases above with
        | file text => rfl
        | folder entries =>
          have here := lookup_child ha leaf
          rw [whole] at here
          cases hf : entries.find? leaf <;> simp only [here, hf, changed]

theorem remove_eq (fs : FileSystem) (cwd : Path) (name : String) :
    fs.remove cwd name =
      if name = "" then .error (.missingOperand "file or folder")
      else if (cwd.resolve name).isAtOrAbove cwd then .error (.invalidPath name)
      else
        let leaf := (cwd.resolve name).name?.getD ""
        match fs.lookup (cwd.resolve name) with
        | none => .error (.notFound name)
        | some (.folder (.cons _ _ _)) => .error (.folderNotEmpty leaf)
        | some _ => .ok (fs.erase (cwd.resolve name), leaf) := by
  unfold remove tryRemove needs
  by_cases named : name = ""
  · simp only [if_pos named, changed]
  · simp only [if_neg named]
    cases hl : (cwd.resolve name).name? with
    | none =>
      have root : (cwd.resolve name).segments = [] := by simpa [Path.name?] using hl
      simp [Path.isAtOrAbove, root, changed]
    | some leaf =>
      have whole := Path.child_of_name? hl
      simp only [Path.splitLeaf?, hl, Option.map_some, Option.getD_some]
      split
      · rfl
      · cases here : fs.lookup (cwd.resolve name) with
        | none =>
          cases ha : fs.lookup (cwd.resolve name).parent with
          | none => rfl
          | some above =>
            cases above with
            | file text => rfl
            | folder entries =>
              have free := lookup_child ha leaf
              rw [whole, here] at free
              simp only [← free, changed]
        | some node =>
          obtain ⟨entries, ha⟩ := lookup_of_child (whole.symm ▸ here)
          have found := lookup_child ha leaf
          rw [whole, here] at found
          cases node with
          | file text => simp only [ha, ← found, changed]
          | folder inner => cases inner <;> simp only [ha, ← found, changed]

theorem eq_put_of_insert {fs fs' : FileSystem} {cwd : Path} {name : String} {kind : Kind}
    {text what leaf : String} (h : fs.insert cwd name kind text what = .ok (fs', leaf)) :
    fs.lookup (cwd.resolve name) = none ∧ fs' = fs.put (cwd.resolve name) kind text := by
  rw [insert_eq] at h
  split at h
  · cases h
  · split at h
    · cases h
    · split at h
      · cases h
      · next free =>
        cases h
        exact ⟨free, rfl⟩
      · cases h

theorem placed_of_insert {fs fs' : FileSystem} {cwd : Path} {name : String} {kind : Kind}
    {text what leaf : String} (h : fs.insert cwd name kind text what = .ok (fs', leaf)) :
    (cwd.resolve name).name? = some leaf ∧
      ∃ above, fs.lookup (cwd.resolve name).parent = some (.folder above) := by
  rw [insert_eq] at h
  split at h
  · cases h
  · split at h
    · cases h
    · next found =>
      split at h
      · cases h
      · next folder _ =>
        cases h
        exact ⟨found, _, folder⟩
      · cases h

theorem eq_erase_of_remove {fs fs' : FileSystem} {cwd : Path} {name leaf : String}
    (h : fs.remove cwd name = .ok (fs', leaf)) : fs' = fs.erase (cwd.resolve name) := by
  rw [remove_eq] at h
  split at h
  · cases h
  · split at h
    · cases h
    · dsimp only at h
      split at h <;> cases h
      rfl

/-- From a working folder that is not at or below it, a node is removed unless it is a nonempty
folder. -/
theorem remove_of_lookup {fs : FileSystem} {cwd path : Path} {name : String} {node : Node}
    (leads : cwd.resolve name = path) (outside : ¬ path.segments <+: cwd.segments) :
    fs.lookup path = some node →
      fs.remove cwd name =
        match node with
        | .folder (.cons _ _ _) => .error (.folderNotEmpty (path.name?.getD ""))
        | _ => .ok (fs.erase path, path.name?.getD "") := by
  intro here
  have named : name ≠ "" := by
    rintro rfl
    have same : cwd = path := leads
    exact outside (same ▸ List.prefix_rfl)
  have apart : ¬ path.isAtOrAbove cwd = true := by
    rwa [Path.isAtOrAbove, List.isPrefixOf_iff_prefix]
  rw [remove_eq, if_neg named, leads, if_neg apart, here]
  cases node with
  | file text => rfl
  | folder entries => cases entries <;> rfl

theorem appendLine_eq (fs : FileSystem) (handle : EditHandle) (line : String) :
    fs.appendLine handle line =
      match fs.lookup handle.path with
      | none => .error (.notFound handle.name)
      | some (.folder _) => .error (.isAFolder handle.name)
      | some (.file text) => .ok (fs.put handle.path .file (text ++ line ++ "\n")) := by
  unfold appendLine tryAppendLine
  rcases fs.lookup handle.path with _ | _ | _ <;> rfl

theorem eq_put_of_appendLine {fs fs' : FileSystem} {handle : EditHandle} {line : String}
    (h : fs.appendLine handle line = .ok fs') :
    ∃ text, fs.lookup handle.path = some (.file text) ∧
      fs' = fs.put handle.path .file (text ++ line ++ "\n") := by
  rw [appendLine_eq] at h
  split at h
  · cases h
  · cases h
  · next text here =>
    cases h
    exact ⟨text, here, rfl⟩

theorem beginEdit_eq (fs : FileSystem) (cwd : Path) (name : String) :
    fs.beginEdit cwd name =
      if name = "" then .error (.missingOperand "file")
      else
        match fs.lookup (cwd.resolve name) with
        | none => .error (.notFound name)
        | some (.folder _) => .error (.isAFolder name)
        | some (.file _) => .ok ⟨cwd.resolve name, name⟩ := by
  unfold beginEdit needs
  split <;> rfl

theorem lookup_beginEdit {fs : FileSystem} {cwd : Path} {name : String} {handle : EditHandle}
    (h : fs.beginEdit cwd name = .ok handle) :
    ∃ text, fs.lookup handle.path = some (.file text) := by
  rw [beginEdit_eq] at h
  split at h
  · cases h
  · split at h
    · cases h
    · cases h
    · next text hf =>
      cases h
      exact ⟨text, hf⟩

end FileSystem
end VirtualTerminal
