import VirtualTerminal.Proofs.FileWrites
import VirtualTerminal.Proofs.Typing

/-! # The open file

Under keys and timers the file being edited stays a file, and each entered line is appended to it. A
command line can remove the file; the next entered line then ends the editing. -/
namespace VirtualTerminal

namespace FileSystem

/-- The error of appending to an open file that is no longer a file. -/
def lostFile (fs : FileSystem) (handle : EditHandle) : FileError :=
  match fs.lookup handle.path with
  | none => .notFound handle.name
  | some _ => .isAFolder handle.name

theorem appendLine_of_file {fs : FileSystem} {handle : EditHandle} {text : String}
    (h : fs.lookup handle.path = some (.file text)) (line : String) :
    ∃ fs', fs.appendLine handle line = .ok fs' ∧
      fs'.flat = fs.flat.insert handle.path.segments (.file (text ++ line ++ "\n")) := by
  have done : fs.appendLine handle line =
      .ok (fs.put handle.path .file (text ++ line ++ "\n")) := by
    simp only [appendLine_eq, h]
  obtain ⟨text', shown, flat⟩ := flat_of_append done
  have same : text' = text := by
    rw [at?_flat, h] at shown
    cases shown
    rfl
  rw [same] at flat
  exact ⟨_, done, flat⟩

theorem appendLine_of_lost {fs : FileSystem} {handle : EditHandle}
    (h : ∀ text, fs.lookup handle.path ≠ some (.file text)) (line : String) :
    fs.appendLine handle line = .error (fs.lostFile handle) := by
  rw [appendLine_eq]
  unfold lostFile
  split
  · next here => rw [here]
  · next entries here => rw [here]
  · next text here => exact absurd here (h text)

theorem lookup_of_append {fs fs' : FileSystem} {handle : EditHandle} {line : String}
    (h : fs.appendLine handle line = .ok fs') :
    ∃ text, fs'.lookup handle.path = some (.file text) := by
  obtain ⟨text, -, flat⟩ := flat_of_append h
  exact ⟨_, lookup_of_flat_eq_insert flat⟩

end FileSystem

namespace Session

theorem submit_of_editing {s : Session} {handle : EditHandle} (editing : s.mode = .editing handle) :
    s.submit = ({ s with input := "" } : Session).editLine handle s.input := by
  simp only [submit, editing]

theorem handleKey_enter_of_editing {s : Session} {handle : EditHandle}
    (editing : s.mode = .editing handle) (live : s.halted = false) :
    s.handleKey .enter = ({ s with input := "" } : Session).editLine handle s.input := by
  rw [handleKey_of_listens (.of_mode live editing nofun), press, submit_of_editing editing]

theorem enter_appends {s : Session} {handle : EditHandle} {text : String}
    (editing : s.mode = .editing handle) (live : s.halted = false)
    (goesOn : Text.trim s.input ≠ ".")
    (file : s.files.lookup handle.path = some (.file text)) :
    (s.step (.key .enter)).files.flat =
        s.files.flat.insert handle.path.segments (.file (text ++ s.input ++ "\n")) ∧
      s.step (.key .enter) =
        { s with
          files := (s.step (.key .enter)).files
          log := s.log.push (.text s.input)
          input := "" } := by
  obtain ⟨files, done, flat⟩ := FileSystem.appendLine_of_file file s.input
  have stepped : s.step (.key .enter) =
      { s with files := files, log := s.log.push (.text s.input), input := "" } := by
    simp [step, handleKey_enter_of_editing editing live, editLine_eq, isTerminator, goesOn, done,
      print]
  rw [stepped]
  exact ⟨flat, rfl⟩

theorem enter_abandons {s : Session} {handle : EditHandle}
    (editing : s.mode = .editing handle) (live : s.halted = false)
    (goesOn : Text.trim s.input ≠ ".")
    (lost : ∀ text, s.files.lookup handle.path ≠ some (.file text)) :
    s.step (.key .enter) =
      { s with
        log := s.log.push (.error (TerminalError.file (s.files.lostFile handle)).message)
        mode := .normal
        input := "" } := by
  have failed := FileSystem.appendLine_of_lost lost s.input
  simp [step, handleKey_enter_of_editing editing live, editLine_eq, isTerminator, goesOn, failed,
    print, leaveMode]

theorem escape_files (s : Session) : s.escape.session.files = s.files := by
  have kept : s.cancelMode.session.files = s.files := by
    unfold cancelMode
    split <;> rfl
  unfold escape
  split
  · exact kept
  · rfl
  · exact kept

theorem handleKey_files_of_editing {s : Session} {handle : EditHandle}
    (editing : s.mode = .editing handle) (key : Key) :
    (s.handleKey key).session.files = s.files ∨
      ∃ line, s.files.appendLine handle line = .ok (s.handleKey key).session.files := by
  cases s.handleKey_pressed key with
  | escape same =>
    rw [same]
    exact .inl s.escape_files
  | play playing => cases editing.symm.trans playing
  | submit same =>
    rw [same, submit_of_editing editing, editLine_eq]
    split
    · exact .inl rfl
    · split
      · next files done => exact .inr ⟨s.input, done⟩
      · exact .inl rfl
  | edit input same =>
    rw [same]
    exact .inl rfl

/-- The file being edited exists. -/
def HoldsOpenFile (s : Session) : Prop :=
  ∀ handle, s.mode = .editing handle → ∃ text, s.files.lookup handle.path = some (.file text)

theorem step_files_of_editing {s : Session} {handle : EditHandle}
    (editing : s.mode = .editing handle) {event : Event} (h : ∀ line, event ≠ .command line) :
    (s.step event).files = s.files ∨
      ∃ line, s.files.appendLine handle line = .ok (s.step event).files := by
  by_cases timer : event.IsTimer
  · exact .inl (congrArg Surroundings.files (step_frame_of_isTimer timer s).1)
  · cases event with
    | key key => exact handleKey_files_of_editing editing key
    | command line => exact absurd rfl (h line)
    | tickLoading | stopLoading | tickColor | stepShutdown => exact absurd trivial timer

theorem HoldsOpenFile.step {s : Session} (holds : s.HoldsOpenFile) {event : Event}
    (h : ∀ line, event ≠ .command line) : (s.step event).HoldsOpenFile := by
  intro handle after
  cases s.step_modeChange event with
  | stay same =>
    have editing : s.mode = .editing handle := same.symm.trans after
    rcases step_files_of_editing editing h with kept | ⟨line, appended⟩
    · rw [kept]
      exact holds handle editing
    · exact FileSystem.lookup_of_append appended
  | edit _ entered file =>
    cases entered.symm.trans after
    exact ⟨_, file⟩
  | record _ other | play _ other | autocode _ other | leave _ other | collect _ other
  | name _ other | guess _ other | type _ other => cases other.symm.trans after

theorem HoldsOpenFile.run {s : Session} (holds : s.HoldsOpenFile) {events : List Event}
    (h : ∀ line, .command line ∉ events) : (s.run events).HoldsOpenFile := by
  induction events generalizing s with
  | nil => exact holds
  | cons event rest ih =>
    rw [run_cons]
    apply ih
    · refine holds.step fun line same => h line ?_
      rw [same]
      exact List.mem_cons_self
    · exact fun line hm => h line (List.mem_cons_of_mem _ hm)

/-- In every run from a fresh session in which command lines are only typed, the file being edited
is a file and appending to it never fails. In any run, an entered line is appended to the open file
and changes nothing else; if the file is lost, the line shows an error and ends the editing. -/
theorem run_keeps_open_file (files : FileSystem) (random : Chance) (clock : Clock)
    (events : List Event) (handle : EditHandle)
    (editing : ((start files random clock).run events).mode = .editing handle) :
    let s := (start files random clock).run events
    ((∀ line, .command line ∉ events) →
      (∃ text, s.files.lookup handle.path = some (.file text)) ∧
        ∀ line, ∃ files, s.files.appendLine handle line = .ok files) ∧
      (s.halted = false → Text.trim s.input ≠ "." →
        (∀ text, s.files.lookup handle.path = some (.file text) →
          (s.step (.key .enter)).files.flat =
              s.files.flat.insert handle.path.segments (.file (text ++ s.input ++ "\n")) ∧
            s.step (.key .enter) =
              { s with
                files := (s.step (.key .enter)).files
                log := s.log.push (.text s.input)
                input := "" }) ∧
        ((∀ text, s.files.lookup handle.path ≠ some (.file text)) →
          s.step (.key .enter) =
            { s with
              log := s.log.push (.error (TerminalError.file (s.files.lostFile handle)).message)
              mode := .normal
              input := "" })) := by
  intro s
  refine ⟨fun typed => ?_, fun live goesOn => ⟨fun text file => ?_, fun lost => ?_⟩⟩
  · have fresh : (start files random clock).HoldsOpenFile := nofun
    obtain ⟨text, file⟩ := fresh.run typed handle editing
    refine ⟨⟨text, file⟩, fun line => ?_⟩
    obtain ⟨files, done, -⟩ := FileSystem.appendLine_of_file file line
    exact ⟨files, done⟩
  · exact enter_appends editing live goesOn file
  · exact enter_abandons editing live goesOn lost

/-- A line typed into an open file, and the same line after a command removed the file. -/
theorem run_keeps_open_file_typed :
    let files := FileSystem.empty.put ⟨["f"]⟩ .file "a\n"
    let s := (start files (.ofWords [7]) "noon").run (entering "edit f" ++ [.key (.char 'x')])
    let t := (start files (.ofWords [7]) "noon").run
      (entering "edit f" ++ [.key (.char 'x'), .command "rm f"])
    s.mode = .editing ⟨⟨["f"]⟩, "f"⟩ ∧ s.input = "x" ∧
      (∃ text, s.files.lookup ⟨["f"]⟩ = some (.file text)) ∧
      (s.step (.key .enter)).files.flat =
        s.files.flat.insert ["f"] (.file ("a\n" ++ s.input ++ "\n")) ∧
      t.mode = .editing ⟨⟨["f"]⟩, "f"⟩ ∧ t.files.lookup ⟨["f"]⟩ = none ∧
      (t.step (.key .enter)).mode = .normal := by
  have keysOnly : ∀ line, .command line ∉ entering "edit f" ++ [.key (.char 'x')] := by
    simp [entering]
  have gone : ((start (FileSystem.empty.put ⟨["f"]⟩ .file "a\n") (.ofWords [7]) "noon").run
      (entering "edit f" ++ [.key (.char 'x'), .command "rm f"])).files.lookup ⟨["f"]⟩ = none := by
    decide +kernel
  obtain ⟨kept, enters⟩ := run_keeps_open_file (FileSystem.empty.put ⟨["f"]⟩ .file "a\n")
    (.ofWords [7]) "noon" (entering "edit f" ++ [.key (.char 'x')]) ⟨⟨["f"]⟩, "f"⟩
    (by decide +kernel)
  obtain ⟨_, stops⟩ := run_keeps_open_file (FileSystem.empty.put ⟨["f"]⟩ .file "a\n")
    (.ofWords [7]) "noon" (entering "edit f" ++ [.key (.char 'x'), .command "rm f"]) ⟨⟨["f"]⟩, "f"⟩
    (by decide +kernel)
  have appended := (enters (by decide +kernel) (by decide +kernel)).1 "a\n" (by decide +kernel)
  have stopped := (stops (by decide +kernel) (by decide +kernel)).2 (by simp [gone])
  exact ⟨by decide +kernel, by decide +kernel, (kept keysOnly).1, appended.1, by decide +kernel,
    gone, congrArg Session.mode stopped⟩

end Session
end VirtualTerminal
