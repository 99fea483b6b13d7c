import Mathlib.Logic.Relation
import VirtualTerminal.Proofs.FlatRefinement
import VirtualTerminal.Proofs.ModeChanges

/-! # Writes of events

An event changes the files by operations called from the working folder, and the working folder only
to another existing folder. -/
namespace VirtualTerminal

namespace FileSystem

/-- One operation that changes the files, called from a working folder. -/
inductive Write (cwd : Path) (fs fs' : FileSystem) : Prop
  | insert {name : String} {kind : Kind} {text what leaf : String}
      (done : fs.insert cwd name kind text what = .ok (fs', leaf))
  | remove {name leaf : String} (done : fs.remove cwd name = .ok (fs', leaf))
  | append {handle : EditHandle} {line : String} (done : fs.appendLine handle line = .ok fs')

abbrev Writes (cwd : Path) : FileSystem → FileSystem → Prop := Relation.ReflTransGen (Write cwd)

theorem flat_of_insert {fs fs' : FileSystem} {cwd : Path} {name : String} {kind : Kind}
    {text what leaf : String} (h : fs.insert cwd name kind text what = .ok (fs', leaf)) :
    fs.flat.at? (cwd.resolve name) = none ∧
      fs'.flat = fs.flat.insert (cwd.resolve name).segments (Node.bare kind text).item := by
  have called := fs.flat_insert cwd name kind text what
  rw [tryInsert_eq, answering_held] at called
  simp only [h, writing, FlatMap.insertAt] at called
  split at called
  · cases called
  · split at called
    · cases called
    · split at called
      · cases called
      · split at called
        · cases called
        · next taken =>
          simp only [Prod.mk.injEq] at called
          exact ⟨not_not.mp taken, called.2⟩

theorem flat_of_remove {fs fs' : FileSystem} {cwd : Path} {name leaf : String}
    (h : fs.remove cwd name = .ok (fs', leaf)) :
    ¬ (cwd.resolve name).segments <+: cwd.segments ∧
      fs'.flat = fs.flat.erase (cwd.resolve name).segments := by
  have called := fs.flat_remove cwd name
  rw [tryRemove_eq, answering_held] at called
  simp only [h, writing, FlatMap.removeAt] at called
  split at called
  · cases called
  · split at called
    · cases called
    · next apart =>
      split at called
      · cases called
      · split at called
        · cases called
        · simp only [Prod.mk.injEq] at called
          exact ⟨apart, called.2⟩

theorem flat_of_append {fs fs' : FileSystem} {handle : EditHandle} {line : String}
    (h : fs.appendLine handle line = .ok fs') :
    ∃ text, fs.flat.at? handle.path = some (.file text) ∧
      fs'.flat = fs.flat.insert handle.path.segments (.file (text ++ line ++ "\n")) := by
  have called := fs.flat_append handle line
  rw [perform_appendLine] at called
  simp only [h, FlatMap.appendAt] at called
  split at called
  · cases called
  · cases called
  · next text here =>
    simp only [Prod.mk.injEq] at called
    exact ⟨text, here, called.2⟩

end FileSystem

namespace Script

theorem save_createFile (fs : FileSystem) (cwd : Path) (name : String) (lines : List String) :
    save fs cwd name lines =
      if ¬ PlainName name then .error (discarded name)
      else (fs.createFile cwd name (Text.join '\n' lines)).mapError (refused name) := by
  unfold save trySave
  split
  · rfl
  · rw [FileSystem.tryCreateFile_eq]
    cases fs.createFile cwd name (Text.join '\n' lines) <;> rfl

theorem trySave_error {fs : FileSystem} {cwd : Path} {name : String} {lines : List String}
    {e : TerminalError} (h : (trySave fs cwd name lines).1 = .error e) :
    (trySave fs cwd name lines).2 = fs := by
  unfold trySave at h ⊢
  split
  · rfl
  · next plain =>
    rw [if_neg plain, FileSystem.tryCreateFile_eq] at h
    rw [FileSystem.tryCreateFile_eq]
    cases stored : fs.createFile cwd name (Text.join '\n' lines) with
    | error e => rfl
    | ok saved =>
      rw [stored] at h
      cases h

theorem trySave_eq (fs : FileSystem) (cwd : Path) (name : String) (lines : List String) :
    trySave fs cwd name lines = fs.held (save fs cwd name lines) :=
  (FileSystem.held_changed trySave_error).symm

theorem createFile_of_save {fs fs' : FileSystem} {cwd : Path} {name leaf : String}
    {lines : List String} (h : save fs cwd name lines = .ok (fs', leaf)) :
    fs.createFile cwd name (Text.join '\n' lines) = .ok (fs', leaf) := by
  rw [save_createFile] at h
  split at h
  · cases h
  · cases created : fs.createFile cwd name (Text.join '\n' lines) with
    | error e =>
      rw [created] at h
      cases h
    | ok saved =>
      rw [created] at h
      cases h
      rfl

end Script

namespace Session

theorem nameScript_eq (s : Session) (lines : List String) (line : String) :
    (s.nameScript lines line).session =
      match Script.save s.files s.cwd (scriptName line) lines with
      | .ok (files, saved) =>
        ({ s.leaveMode with files := files }).print
          (.success ("Script '" ++ saved ++ "' saved successfully."))
      | .error e => s.leaveMode.print (.error e.message) := by
  unfold nameScript
  generalize scriptName line = name
  have files : s.leaveMode.files = s.files := rfl
  have cwd : s.leaveMode.cwd = s.cwd := rfl
  simp only [Script.trySave_eq, files, cwd]
  cases Script.save s.files s.cwd name lines <;> rfl

theorem editLine_eq (s : Session) (handle : EditHandle) (line : String) :
    (s.editLine handle line).session =
      if isTerminator line then
        s.leaveMode.print (.text ("Finished editing \"" ++ handle.name ++ "\"."))
      else
        match s.files.appendLine handle line with
        | .ok files => ({ s with files := files }).print (.text line)
        | .error e => (s.print (.error (TerminalError.file e).message)).leaveMode := by
  unfold editLine
  split
  · rfl
  · rw [FileSystem.tryAppendLine_eq]
    cases s.files.appendLine handle line <;> rfl

end Session

theorem Command.execute_writes (w : Surroundings) (c : Command) :
    w.files.Writes w.cwd (c.execute w).files := by
  cases c with
  | builtin b => cases b <;> exact .refl
  | echo | reverse | empty | unknown | script => exact .refl
  | scriptRun name =>
    simp only [execute, runScriptFile]
    split
    · exact .refl
    · split <;> exact .refl
  | file verb name =>
    cases verb with
    | ls | cd | cat | edit =>
      simp only [execute, runFile]
      split <;> exact .refl
    | mkdir =>
      simp only [execute, runFile, FileSystem.tryMakeFolder_eq, Execution.report_held]
      split
      · next files leaf done => exact .single (.insert done)
      · exact .refl
    | touch =>
      simp only [execute, runFile, FileSystem.tryMakeFile_eq, Execution.report_held]
      split
      · next files leaf done => exact .single (.insert done)
      · exact .refl
    | rm =>
      simp only [execute, runFile, FileSystem.tryRemove_eq, Execution.report_held]
      split
      · next files leaf done => exact .single (.remove done)
      · exact .refl

/-- A request for another working folder names an existing folder, and its command writes nothing.
-/
theorem Command.request_changeFolder {w : Surroundings} {c : Command} {path : Path}
    (h : (c.execute w).request = some (.changeFolder path)) :
    (c.execute w).files = w.files ∧ ∃ name, w.files.changeFolder w.cwd name = .ok path := by
  cases c with
  | builtin b => cases b <;> cases h
  | echo | reverse | empty | unknown | script => cases h
  | scriptRun name =>
    simp only [execute, runScriptFile] at h
    split at h
    · cases h
    · split at h <;> cases h
  | file verb name =>
    cases verb with
    | ls | cat | edit =>
      simp only [execute, runFile] at h
      split at h <;> cases h
    | mkdir | touch | rm => simp [execute, runFile] at h
    | cd =>
      simp only [execute, runFile] at h ⊢
      split at h
      · next found =>
        cases h
        exact ⟨rfl, name, found⟩
      · cases h

/-- The files change by operations called from the working folder, which stays or becomes a folder
found from it. -/
structure Surroundings.Moves (w w' : Surroundings) : Prop where
  files : w.files.Writes w.cwd w'.files
  cwd : w'.cwd = w.cwd ∨ ∃ name, w'.files.changeFolder w.cwd name = .ok w'.cwd

namespace Session

abbrev Moves (s t : Session) : Prop := s.toSurroundings.Moves t.toSurroundings

theorem Moves.refl (s : Session) : s.Moves s := ⟨.refl, .inl rfl⟩

theorem Moves.of_writes {s t : Session} (h : s.files.Writes s.cwd t.files) (hc : t.cwd = s.cwd) :
    s.Moves t := ⟨h, .inl hc⟩

theorem Moves.of_same {s t : Session} (hf : t.files = s.files) (hc : t.cwd = s.cwd) : s.Moves t :=
  .of_writes (hf ▸ .refl) hc

theorem Moves.of_timer {event : Event} (h : event.IsTimer) (s : Session) :
    s.Moves (s.step event) := by
  have kept := (step_frame_of_isTimer h s).1
  exact .of_same (congrArg Surroundings.files kept) (congrArg Surroundings.cwd kept)

theorem Moves.after_writes {s t u : Session} (moved : t.Moves u)
    (h : s.files.Writes s.cwd t.files) (hc : t.cwd = s.cwd) : s.Moves u := by
  obtain ⟨files, cwd⟩ := moved
  rw [hc] at files cwd
  exact ⟨h.trans files, cwd⟩

theorem runScriptLine_cwd (s : Session) (line : String) :
    (s.runScriptLine line).session.cwd = s.cwd := rfl

theorem runScriptLine_writes (s : Session) (line : String) :
    s.files.Writes s.cwd (s.runScriptLine line).session.files := by
  simp only [runScriptLine, absorb, Script.runLine]
  split
  · exact Command.execute_writes (s.print (.text (">> " ++ line))).toSurroundings _
  · exact .refl

theorem runScriptLines_moves (s : Session) (lines : List String) :
    s.files.Writes s.cwd (s.runScriptLines lines).session.files ∧
      (s.runScriptLines lines).session.cwd = s.cwd := by
  induction lines generalizing s with
  | nil => exact ⟨.refl, rfl⟩
  | cons line rest ih =>
    obtain ⟨writes, kept⟩ := ih (s.runScriptLine line).session
    rw [runScriptLine_cwd] at writes kept
    exact ⟨(s.runScriptLine_writes line).trans writes, kept⟩

theorem enterMode_files (s : Session) (next : Mode) (opening : List Row) :
    (s.enterMode next opening).session.files = s.files ∧
      (s.enterMode next opening).session.cwd = s.cwd := by
  unfold enterMode
  split <;> exact ⟨rfl, rfl⟩

theorem grant_moves {s : Session} {r : Request}
    (h : ∀ path, r = .changeFolder path → ∃ name, s.files.changeFolder s.cwd name = .ok path) :
    s.Moves (s.grant r).session := by
  cases r with
  | clearScreen => exact .refl s
  | startLoading => exact .of_same rfl rfl
  | changeFolder path => exact ⟨.refl, .inr (h path rfl)⟩
  | startAutocode | startGuess | startScript | startEdit =>
    simp only [grant]
    obtain ⟨files, cwd⟩ := enterMode_files _ _ _
    exact .of_same files cwd
  | runScript name content =>
    obtain ⟨writes, kept⟩ := runScriptLines_moves
      (s.print (.info ("--- RUNNING SCRIPT: " ++ name ++ " ---"))) (Script.lines content)
    exact .of_writes writes kept
  | toggleColor =>
    simp only [grant, toggleColor]
    split <;> exact .of_same rfl rfl
  | shutdown =>
    simp only [grant, startShutdown]
    split
    · exact .refl s
    · have timer : Event.stepShutdown.IsTimer := trivial
      exact .of_timer timer { s with shutdown := some .start }

theorem dispatch_moves (s : Session) (c : Command) : s.Moves (s.dispatch c).session := by
  have writes := c.execute_writes s.toSurroundings
  cases hr : (c.execute s.toSurroundings).request with
  | none =>
    rw [(dispatch_of_no_request hr).1]
    exact .of_writes writes rfl
  | some r =>
    rw [(dispatch_of_request hr).1]
    have granted : (s.absorb (c.execute s.toSurroundings)).Moves
        ((s.absorb (c.execute s.toSurroundings)).grant r).session := by
      refine grant_moves ?_
      rintro path rfl
      obtain ⟨same, name, found⟩ := Command.request_changeFolder hr
      refine ⟨name, ?_⟩
      rw [absorb_files, same]
      exact found
    exact granted.after_writes writes rfl

theorem runCommand_moves (s : Session) (line : String) : s.Moves (s.runCommand line).session := by
  unfold runCommand
  dsimp only
  split
  · exact s.dispatch_moves _
  · split
    · exact s.dispatch_moves _
    · exact .of_same rfl rfl

theorem escape_moves (s : Session) : s.Moves s.escape.session := by
  have cancelled : s.Moves s.cancelMode.session := by
    unfold cancelMode
    split <;> exact .of_same rfl rfl
  unfold escape
  split
  · exact cancelled
  · exact .of_same rfl rfl
  · exact cancelled

theorem nameScript_moves (s : Session) (lines : List String) (line : String) :
    s.Moves (s.nameScript lines line).session := by
  rw [nameScript_eq]
  split
  · next files saved done =>
    exact .of_writes (.single (.insert (Script.createFile_of_save done))) rfl
  · exact .of_same rfl rfl

theorem editLine_moves (s : Session) (handle : EditHandle) (line : String) :
    s.Moves (s.editLine handle line).session := by
  rw [editLine_eq]
  split
  · exact .of_same rfl rfl
  · split
    · next files done => exact .of_writes (.single (.append done)) rfl
    · exact .of_same rfl rfl

theorem submit_moves (s : Session) : s.Moves s.submit.session := by
  unfold submit
  dsimp only
  split
  · exact runCommand_moves { s with input := "" } s.input
  · next lines _ =>
    unfold collectLine
    split <;> exact .of_same rfl rfl
  · next lines _ => exact nameScript_moves { s with input := "" } lines s.input
  · next handle _ => exact editLine_moves { s with input := "" } handle s.input
  · next game _ =>
    unfold guessLine
    dsimp only
    split <;> exact .of_same rfl rfl
  · exact .of_same rfl rfl

theorem handleKey_moves (s : Session) (key : Key) : s.Moves (s.handleKey key).session := by
  cases s.handleKey_pressed key with
  | escape same =>
    rw [same]
    exact s.escape_moves
  | play playing same =>
    rw [same]
    unfold playAutocode
    split <;> exact .of_same rfl rfl
  | submit same =>
    rw [same]
    exact s.submit_moves
  | edit input same =>
    rw [same]
    exact .of_same rfl rfl

/-- In every step the files change only by operations called from the working folder, and the
working folder only to a folder found from it. -/
theorem step_moves (s : Session) (event : Event) : s.Moves (s.step event) := by
  by_cases timer : event.IsTimer
  · exact .of_timer timer s
  · cases event with
    | key key =>
      rw [step_key]
      exact s.handleKey_moves key
    | command line =>
      rw [step_command]
      exact s.runCommand_moves line
    | tickLoading | stopLoading | tickColor | stepShutdown => exact absurd trivial timer

end Session
end VirtualTerminal
