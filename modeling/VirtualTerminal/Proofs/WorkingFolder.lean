import VirtualTerminal.Proofs.FileWrites
import VirtualTerminal.Proofs.PathNames

/-! # The working folder

The working folder always exists. No operation removes or overwrites the folder from which it is
called, and only an existing folder can be entered. -/
namespace VirtualTerminal

theorem FlatMap.at?_insert_of_ne {m : FlatMap} {names : List String} {path : Path}
    (h : path.segments ≠ names) (item : Item) : at? (m.insert names item) path = m.at? path :=
  Finmap.lookup_insert_of_ne m h

theorem FlatMap.at?_erase_of_ne {m : FlatMap} {names : List String} {path : Path}
    (h : path.segments ≠ names) : at? (m.erase names) path = m.at? path :=
  Finmap.lookup_erase_ne h

namespace FileSystem

theorem Write.keeps_cwd {cwd : Path} {fs fs' : FileSystem} (h : Write cwd fs fs')
    (hf : fs.flat.at? cwd = some .folder) : fs'.flat.at? cwd = some .folder := by
  cases h with
  | @insert name kind text what leaf done =>
    obtain ⟨free, flat⟩ := flat_of_insert done
    have differ : cwd.segments ≠ (cwd.resolve name).segments := by
      intro same
      rw [FlatMap.at?, ← same, ← FlatMap.at?, hf] at free
      cases free
    rw [flat, FlatMap.at?_insert_of_ne differ, hf]
  | @remove name leaf done =>
    obtain ⟨apart, flat⟩ := flat_of_remove done
    have differ : cwd.segments ≠ (cwd.resolve name).segments := by
      intro same
      exact apart (same ▸ List.prefix_rfl)
    rw [flat, FlatMap.at?_erase_of_ne differ, hf]
  | @append handle line done =>
    obtain ⟨text, file, flat⟩ := flat_of_append done
    have differ : cwd.segments ≠ handle.path.segments := by
      intro same
      rw [FlatMap.at?, ← same, ← FlatMap.at?, hf] at file
      cases file
    rw [flat, FlatMap.at?_insert_of_ne differ, hf]

theorem Writes.keeps_cwd {cwd : Path} {fs fs' : FileSystem} (h : Writes cwd fs fs')
    (hf : fs.flat.at? cwd = some .folder) : fs'.flat.at? cwd = some .folder := by
  induction h with
  | refl => exact hf
  | tail _ write ih => exact write.keeps_cwd ih

theorem changeFolder_eq_ok {fs : FileSystem} {cwd path : Path} {name : String}
    (h : fs.changeFolder cwd name = .ok path) :
    path = cwd.resolve name ∧ ∃ entries, fs.lookup path = some (.folder entries) := by
  rw [changeFolder_eq] at h
  split at h
  · cases h
  · split at h
    · cases h
    · cases h
    · next entries found =>
      cases h
      exact ⟨rfl, entries, found⟩

end FileSystem

structure Surroundings.Settled (w : Surroundings) : Prop where
  folder : ∃ entries, w.files.lookup w.cwd = some (.folder entries)
  plain : w.cwd.Plain

theorem Surroundings.Settled.moves {w w' : Surroundings} (h : w.Settled) (moved : w.Moves w') :
    w'.Settled := by
  obtain ⟨folder, plain⟩ := h
  obtain ⟨files, cwd⟩ := moved
  have kept : ∃ entries, w'.files.lookup w.cwd = some (.folder entries) := by
    rw [← FileSystem.at?_flat_eq_folder] at folder ⊢
    exact FileSystem.Writes.keeps_cwd files folder
  rcases cwd with same | ⟨name, found⟩
  · exact ⟨same ▸ kept, same ▸ plain⟩
  · obtain ⟨resolved, entered⟩ := FileSystem.changeFolder_eq_ok found
    exact ⟨entered, resolved ▸ Path.plain_resolve plain name⟩

namespace Session

theorem settled_start (files : FileSystem) (random : Chance) (clock : Clock) :
    (start files random clock).Settled := ⟨⟨files.entries, rfl⟩, Path.plain_root⟩

theorem settled_run {s : Session} (h : s.Settled) (events : List Event) :
    (s.run events).Settled := by
  induction events generalizing s with
  | nil => exact h
  | cons event rest ih =>
    rw [run_cons]
    exact ih (h.moves (s.step_moves event))

theorem Reachable.settled {s : Session} (h : Reachable s) : s.Settled := by
  induction h with
  | start files random clock => exact settled_start files random clock
  | step event _ ih => exact ih.moves (step_moves _ event)

end Session

theorem Script.save_eq {fs : FileSystem} {cwd : Path} {entries : Entries}
    (h : fs.lookup cwd = some (.folder entries)) (name : String) (lines : List String) :
    save fs cwd name lines =
      if PlainName name ∧ fs.lookup (cwd.child name) = none then
        .ok (fs.put (cwd.child name) .file (Text.join '\n' lines), name)
      else .error (discarded name) := by
  rw [save_createFile]
  by_cases plain : PlainName name
  · have leaf := Path.name?_child cwd name
    have above := Path.parent_child cwd name
    have inserted := fs.insert_eq cwd name .file (Text.join '\n' lines) "file name"
    rw [if_neg plain.1, Path.resolve_plain plain, leaf, above, h] at inserted
    simp only [FileSystem.createFile, inserted, not_true, plain, if_false, true_and]
    cases fs.lookup (cwd.child name) <;> rfl
  · simp [plain]

namespace Session

/-- In every run from the root, over any files, the working folder exists and its path consists of
plain names. Hence a bare `ls` never fails, and a script is stored whenever its name is plain and
free. -/
theorem run_keeps_working_folder (files : FileSystem) (random : Chance) (clock : Clock)
    (events : List Event) :
    let s := (start files random clock).run events
    (∀ name ∈ s.cwd.segments, PlainName name) ∧
      ∃ entries, s.files.lookup s.cwd = some (.folder entries) ∧
        (∀ line, Command.parse line = .file .ls "" →
          (s.runCommand line).session = s.printAll (Command.listing entries.kinds)) ∧
        ∀ name lines, Script.save s.files s.cwd name lines =
          if PlainName name ∧ s.files.lookup (s.cwd.child name) = none then
            .ok (s.files.put (s.cwd.child name) .file (Text.join '\n' lines), name)
          else .error (Script.discarded name) := by
  intro s
  have settled : s.Settled := settled_run (settled_start files random clock) events
  obtain ⟨entries, folder⟩ := settled.folder
  refine ⟨settled.plain, entries, folder, ?_, Script.save_eq folder⟩
  intro line parsed
  have listed : s.files.list s.cwd "" = .ok entries.kinds := by
    simp only [FileSystem.list, Path.resolve_empty, folder]
  have printed : (Command.parse line).execute s.toSurroundings =
      .print s.toSurroundings (Command.listing entries.kinds) := by
    simp only [parsed, Command.execute, Command.runFile, listed]
  have modal : (Command.parse line).modal? = none := by
    rw [parsed]
    rfl
  have request : ((Command.parse line).execute s.toSurroundings).request = none := by
    rw [printed]
    rfl
  rw [runCommand_of_not_modal modal, (dispatch_of_no_request request).1, printed]
  rfl

/-- A session that tries to remove its working folder, by itself and by a script. -/
theorem run_keeps_working_folder_removing :
    let files := FileSystem.empty.put ⟨["s"]⟩ .file "rm /a\nrm ."
    let s := (start files (.ofWords [7]) "noon").run
      [.command "mkdir a", .command "cd a", .command "rm ../a", .command "script run ../s"]
    s.cwd = ⟨["a"]⟩ ∧ Command.parse " LS " = .file .ls "" ∧
      ∃ entries, s.files.lookup s.cwd = some (.folder entries) ∧
        (s.runCommand " LS ").session = s.printAll (Command.listing entries.kinds) := by
  have parsed : Command.parse " LS " = .file .ls "" := by decide
  obtain ⟨_, entries, folder, listed, _⟩ := run_keeps_working_folder
    (FileSystem.empty.put ⟨["s"]⟩ .file "rm /a\nrm .") (.ofWords [7]) "noon"
    [.command "mkdir a", .command "cd a", .command "rm ../a", .command "script run ../s"]
  exact ⟨by decide +kernel, parsed, entries, folder, listed " LS " parsed⟩

end Session
end VirtualTerminal
