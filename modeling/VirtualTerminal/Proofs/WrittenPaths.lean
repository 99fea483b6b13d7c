import VirtualTerminal.Proofs.EntryOperands

/-! # Written paths

The paths that can be written are those of plain names, and each is the result of resolving its own
text from any folder. Resolving two texts in sequence is resolving them with a slash between them,
so that two steps to a folder have the result of one. -/
namespace VirtualTerminal

namespace Path

variable {p : Path}

theorem resolved_iff_plain : p.Resolved ↔ p.Plain := by
  refine ⟨Resolved.plain, fun plain => ?_⟩
  have back := Resolved.resolve .root p.toText
  rwa [resolve_toText plain] at back

theorem resolve_dots (p : Path) : p.resolve ".." = p.parent ∧ p.resolve "..." = p.parent := by
  constructor <;> rw [resolve_of_not_mem (by decide)] <;> rfl

theorem resolve_leaf {folder : Path} {name : String} (h : p.Plain)
    (split : p.splitLeaf? = some (folder, name)) : folder.resolve name = p := by
  obtain ⟨leaf, hl, same⟩ := Option.map_eq_some_iff.mp split
  cases same
  have plain : PlainName name := h name (List.mem_of_getLast? hl)
  rw [resolve_plain plain, child_of_name? hl]

/-- A resolved path has only plain names, and so has every path resolved from it. From every folder
its text resolves to it, hence distinct resolved paths have distinct texts. Two dots and three dots
resolve to its parent, and its last name resolves from there back to it. -/
theorem resolved_paths_read_back (h : p.Resolved) :
    (∀ written, ∀ name ∈ (p.resolve written).segments, PlainName name) ∧
      (∀ cwd : Path, cwd.resolve p.toText = p) ∧
      (∀ q : Path, q.Resolved → q.toText = p.toText → q = p) ∧
      p.resolve ".." = p.parent ∧ p.resolve "..." = p.parent ∧
      ∀ folder name, p.splitLeaf? = some (folder, name) → folder.resolve name = p := by
  have plain := resolved_iff_plain.mp h
  refine ⟨plain_resolve plain, resolve_toText plain, fun q hq same => ?_, (resolve_dots p).1,
    (resolve_dots p).2, fun folder name => resolve_leaf plain⟩
  rw [← resolve_toText hq.plain root, same, resolve_toText plain]

/-- A path with blanks in a name, written with dots and doubled slashes. -/
theorem resolved_paths_read_back_spaced :
    let p := root.resolve "a/./x//.../c d/"
    p.Resolved ∧ p.toText = "/a/c d" ∧ p.splitLeaf? = some (⟨["a"]⟩, "c d") ∧
      (root.child "b").resolve p.toText = p ∧ p.resolve "..." = p.parent ∧
      (⟨["a"]⟩ : Path).resolve "c d" = p := by
  intro p
  have resolved : p.Resolved := .resolve .root _
  have split : p.splitLeaf? = some (⟨["a"]⟩, "c d") := by decide
  obtain ⟨-, back, -, -, dots, leaf⟩ := resolved_paths_read_back resolved
  exact ⟨resolved, by decide, split, back (root.child "b"), dots, leaf _ _ split⟩

def Absolute (written : String) : Prop := written.toList.head? = some '/'

instance (written : String) : Decidable (Absolute written) := by unfold Absolute; infer_instance

theorem resolve_absolute {written : String} (h : Absolute written) (cwd : Path) :
    cwd.resolve written = root.resolve written := by
  have first : written.toList.head? = some '/' := h
  rw [resolve, if_pos first, resolve, if_pos first]

theorem resolve_relative {written : String} (h : ¬ Absolute written) (cwd : Path) :
    cwd.resolve written = (Text.split '/' written).foldl walk cwd := by
  have onward : written.toList.head? ≠ some '/' := h
  rw [resolve, if_neg onward]

/-- The parts of two texts with a slash between them are walked in sequence. -/
theorem resolve_append {a b : String} (named : a ≠ "") (relative : ¬ Absolute b) (cwd : Path) :
    cwd.resolve (a ++ "/" ++ b) = (cwd.resolve a).resolve b := by
  have filled : a.toList ≠ [] := by simpa using named
  have start : (a ++ "/" ++ b).toList.head? = a.toList.head? := by
    rw [String.append_assoc, String.toList_append, List.head?_append_of_ne_nil _ filled]
  have parts : Text.split '/' (a ++ "/" ++ b) = Text.split '/' a ++ Text.split '/' b :=
    Text.split_append '/' a b
  calc cwd.resolve (a ++ "/" ++ b)
      = (Text.split '/' b).foldl walk (cwd.resolve a) := by
        rw [resolve, start, parts, List.foldl_append, ← resolve]
    _ = (cwd.resolve a).resolve b := by rw [resolve_relative relative]

end Path

namespace FileSystem

variable {fs : FileSystem} {cwd : Path} {written : String}

def Enters (fs : FileSystem) (cwd : Path) (written : String) : Prop :=
  ∃ path, fs.changeFolder cwd written = .ok path

theorem Enters.changeFolder (h : fs.Enters cwd written) :
    fs.changeFolder cwd written = .ok (cwd.resolve written) := by
  obtain ⟨path, found⟩ := h
  obtain ⟨rfl, -⟩ := changeFolder_eq_ok found
  exact found

theorem enters_iff : fs.Enters cwd written ↔
    written ≠ "" ∧ ∃ entries, fs.lookup (cwd.resolve written) = some (.folder entries) := by
  constructor
  · intro entered
    have found := entered.changeFolder
    refine ⟨?_, (changeFolder_eq_ok found).2⟩
    rintro rfl
    rw [changeFolder_eq, if_pos rfl] at found
    cases found
  · rintro ⟨named, entries, folder⟩
    refine ⟨cwd.resolve written, ?_⟩
    rw [changeFolder_eq, if_neg named, folder]

theorem Enters.of_resolve_eq {cwd' : Path} {written' : String} (h : fs.Enters cwd written)
    (named : written' ≠ "") (same : cwd'.resolve written' = cwd.resolve written) :
    fs.Enters cwd' written' := by
  obtain ⟨-, entries, folder⟩ := enters_iff.mp h
  exact enters_iff.mpr ⟨named, entries, same ▸ folder⟩

end FileSystem

namespace Session

theorem runCommand_cd {s : Session} {written : String}
    (solid : ∀ c ∈ written.toList, Text.isBlank c = false)
    (entered : s.files.Enters s.cwd written) :
    (s.runCommand (FileVerb.cd.line written)).session =
      { s with cwd := s.cwd.resolve written } := by
  have word : Text.IsWord written := ⟨(FileSystem.enters_iff.mp entered).1, solid⟩
  have asked : (Command.file .cd written).execute s.toSurroundings =
      .ask s.toSurroundings (.changeFolder (s.cwd.resolve written)) := by
    simp only [Command.execute, Command.runFile, entered.changeFolder]
  rw [runCommand_line word.spaced .cd (.inl (by decide)), (dispatch_of_ask asked).1, grant]

/-- A relative text behind another with a slash between them resolves from the result of the other;
an absolute one resolves to the same path from everywhere. Hence a session that enters one folder
and from there another can enter the second in one step: by both texts with a slash between them or,
if the second is absolute, by that one alone. -/
theorem steps_to_folders_compose :
    (∀ (cwd : Path) (a b : String), a ≠ "" → ¬ Path.Absolute b →
        cwd.resolve (a ++ "/" ++ b) = (cwd.resolve a).resolve b) ∧
      (∀ (cwd cwd' : Path) (b : String), Path.Absolute b → cwd.resolve b = cwd'.resolve b) ∧
      ∀ (s : Session) (a b : String), (∀ c ∈ a.toList, Text.isBlank c = false) →
        (∀ c ∈ b.toList, Text.isBlank c = false) →
          let first := (s.runCommand (FileVerb.cd.line a)).session
          let second := (first.runCommand (FileVerb.cd.line b)).session
          s.files.Enters s.cwd a → first.files.Enters first.cwd b →
            second = { s with cwd := (s.cwd.resolve a).resolve b } ∧
              (¬ Path.Absolute b → s.files.Enters s.cwd (a ++ "/" ++ b) ∧
                (s.runCommand (FileVerb.cd.line (a ++ "/" ++ b))).session = second) ∧
              (Path.Absolute b → s.files.Enters s.cwd b ∧
                (s.runCommand (FileVerb.cd.line b)).session = second) := by
  refine ⟨fun cwd a b named relative => Path.resolve_append named relative cwd,
    fun cwd cwd' b absolute => ?_, ?_⟩
  · rw [Path.resolve_absolute absolute cwd, Path.resolve_absolute absolute cwd']
  intro s a b ha hb first second entered onward
  have one : first = { s with cwd := s.cwd.resolve a } := runCommand_cd ha entered
  have two : second = { first with cwd := first.cwd.resolve b } := runCommand_cd hb onward
  rw [one] at onward two
  have named := (FileSystem.enters_iff.mp entered).1
  refine ⟨two, fun relative => ?_, fun absolute => ?_⟩
  · have solid : ∀ c ∈ (a ++ "/" ++ b).toList, Text.isBlank c = false := by
      have slash : Text.isBlank '/' = false := by decide
      simpa [or_imp, forall_and, slash] using ⟨ha, hb⟩
    have same := Path.resolve_append named relative s.cwd
    have together : s.files.Enters s.cwd (a ++ "/" ++ b) :=
      onward.of_resolve_eq (by simp) same
    exact ⟨together, by rw [runCommand_cd solid together, same, two]⟩
  · have same : s.cwd.resolve b = (s.cwd.resolve a).resolve b := by
      rw [Path.resolve_absolute absolute, ← Path.resolve_absolute absolute]
    have alone : s.files.Enters s.cwd b :=
      onward.of_resolve_eq (FileSystem.enters_iff.mp onward).1 same
    exact ⟨alone, by rw [runCommand_cd hb alone, same, two]⟩

/-- The second step leaves the folder that the first one entered, and the root too. -/
theorem steps_to_folders_compose_up :
    let s := start (FileSystem.empty.put ⟨["a"]⟩ .folder "") (.ofWords [7]) "noon"
    (s.runCommand (FileVerb.cd.line ("a/" ++ "/" ++ ".././.../a"))).session =
      { s with cwd := ⟨["a"]⟩ } := by
  intro s
  have first : Text.IsWord "a/" := by decide
  have second : Text.IsWord ".././.../a" := by decide
  obtain ⟨-, -, steps⟩ := steps_to_folders_compose
  obtain ⟨there, once, -⟩ := steps s "a/" ".././.../a" first.2 second.2
    ⟨⟨["a"]⟩, by decide⟩ ⟨⟨["a"]⟩, by decide +kernel⟩
  rw [(once (by decide)).2, there]
  rfl

/-- Behind a folder, an absolute text is not absolute, since its slash is one of two. -/
example : Path.root.resolve ("a" ++ "/" ++ "/b") = ⟨["a", "b"]⟩ ∧
    (Path.root.resolve "a").resolve "/b" = ⟨["b"]⟩ := by decide

end Session
end VirtualTerminal
