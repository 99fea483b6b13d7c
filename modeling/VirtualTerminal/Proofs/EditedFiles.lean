import VirtualTerminal.Proofs.EntryOperands
import VirtualTerminal.Proofs.LineInvariant
import VirtualTerminal.Proofs.OpenFile
import VirtualTerminal.Proofs.SessionScrollback

/-! # Edited files

Lines typed into an open file are appended as typed, each with a line feed. Showing the file
afterwards shows its text without the last line feed, line by line. -/
namespace VirtualTerminal

namespace Text

/-- Every line with a line feed behind it. -/
def terminated (lines : List String) : String := String.join (lines.map fun line => line ++ "\n")

theorem terminated_cons (line : String) (rest : List String) :
    terminated (line :: rest) = line ++ "\n" ++ terminated rest := by
  simp [terminated]

theorem terminated_eq_join {lines : List String} (h : lines ≠ []) :
    terminated lines = join '\n' lines ++ "\n" := by
  induction lines with
  | nil => exact absurd rfl h
  | cons line rest ih =>
    rw [terminated_cons]
    cases rest with
    | nil => simp [terminated, join, joinChars]
    | cons next more =>
      rw [ih (List.cons_ne_nil next more)]
      simp [join, joinChars, ← String.toList_inj]

end Text

theorem Command.fileText_append_newline (body : String) : fileText (body ++ "\n") = body := by
  have filled : body ++ "\n" ≠ "" := by
    intro nothing
    exact absurd (String.append_eq_empty_iff.mp nothing).2 (by decide)
  have last : (body ++ "\n").toList.getLast? = some '\n' := by simp
  rw [fileText, if_neg filled, if_pos last]
  simp

theorem FlatMap.insert_eq_self {m : FlatMap} {path : Path} {item : Item}
    (h : m.at? path = some item) : m.insert path.segments item = m := by
  refine Finmap.ext_lookup fun names => ?_
  by_cases same : names = path.segments
  · rw [same, Finmap.lookup_insert]
    exact h.symm
  · rw [Finmap.lookup_insert_of_ne m same]

namespace Session

def editingOpened (name : String) : Row :=
  .info ("Editing \"" ++ name ++ "\". Type a single \".\" on a line to finish.")

theorem runCommand_edit {s : Session} {operand text : String} (normal : s.mode = .normal)
    (same : Text.spaced operand = operand) (named : operand ≠ "")
    (file : s.files.lookup (s.cwd.resolve operand) = some (.file text)) :
    (s.runCommand (FileVerb.edit.line operand)).session =
      ({ s with mode := .editing ⟨s.cwd.resolve operand, operand⟩, input := "" } : Session).print
        (editingOpened operand) := by
  have asked : (Command.file .edit operand).execute s.toSurroundings =
      .ask s.toSurroundings (.startEdit ⟨s.cwd.resolve operand, operand⟩) := by
    simp only [Command.execute, Command.runFile, FileSystem.beginEdit_eq, if_neg named, file]
  rw [runCommand_line same .edit (.inr normal), (dispatch_of_ask asked).1, grant,
    (enterMode_of_normal normal _ _).1]
  rfl

theorem runCommand_cat {s : Session} {operand text : String} (same : Text.spaced operand = operand)
    (named : operand ≠ "") (file : s.files.lookup (s.cwd.resolve operand) = some (.file text)) :
    (s.runCommand (FileVerb.cat.line operand)).session =
      s.print (.text (Command.fileText text)) := by
  rw [runCommand_line same .cat (.inl (by decide))]
  apply dispatch_of_print
  simp only [Command.execute, Command.runFile, FileSystem.read_eq, if_neg named, file]

variable {s : Session} {handle : EditHandle} {text : String}

theorem enter_edited {line : String} (live : s.halted = false) (editing : s.mode = .editing handle)
    (empty : s.input = "") (file : s.files.lookup handle.path = some (.file text))
    (free : Text.ControlFree line) (fits : line.length ≤ inputLimit)
    (goesOn : Text.trim line ≠ ".") :
    ∃ files,
      s.run (entering line) =
          ({ s with files := files, input := "" } : Session).print (.text line) ∧
        files.flat = s.files.flat.insert handle.path.segments (.file (text ++ line ++ "\n")) := by
  obtain ⟨files, done, flat⟩ := FileSystem.appendLine_of_file file line
  refine ⟨files, ?_, flat⟩
  rw [run_entering_of_empty (.of_mode live editing nofun) empty free fits]
  simp only [submit, editing, editLine_eq, done]
  simp [isTerminator, goesOn]

theorem enter_all_edited (lines : List String) (live : s.halted = false)
    (editing : s.mode = .editing handle) (empty : s.input = "")
    (file : s.files.lookup handle.path = some (.file text))
    (typable : ∀ line ∈ lines, Text.ControlFree line ∧ line.length ≤ inputLimit ∧
      Text.trim line ≠ ".") :
    ∃ files,
      s.run (lines.flatMap entering) =
          ({ s with files := files, input := "" } : Session).printAll (lines.map Row.text) ∧
        files.flat =
          s.files.flat.insert handle.path.segments (.file (text ++ Text.terminated lines)) := by
  induction lines generalizing s text with
  | nil =>
    have same : { s with input := "" } = s := by rw [← empty]
    refine ⟨s.files, ?_, ?_⟩
    · simp [run, printAll, Scrollback.extend, same]
    · have here := FileSystem.at?_flat_eq_file.mpr file
      simp [Text.terminated, FlatMap.insert_eq_self here]
  | cons line rest ih =>
    obtain ⟨⟨free, fits, goesOn⟩, others⟩ := List.forall_mem_cons.mp typable
    obtain ⟨files, entered, flat⟩ := enter_edited live editing empty file free fits goesOn
    let next := ({ s with files := files, input := "" } : Session).print (.text line)
    have longer : next.files.lookup handle.path = some (.file (text ++ line ++ "\n")) :=
      FileSystem.lookup_of_flat_eq_insert flat
    obtain ⟨files', later, flat'⟩ := ih (s := next) live editing rfl longer others
    refine ⟨files', ?_, ?_⟩
    · rw [List.flatMap_cons, run_append, entered]
      exact later
    · change files'.flat = files.flat.insert _ _ at flat'
      rw [flat', flat, Finmap.insert_insert, Text.terminated_cons]
      simp only [String.append_assoc]

theorem enter_edited_end (live : s.halted = false) (editing : s.mode = .editing handle)
    (empty : s.input = "") :
    s.run (entering ".") =
      ({ s with mode := .normal, input := "" } : Session).print
        (.text ("Finished editing \"" ++ handle.name ++ "\".")) := by
  have free : Text.ControlFree "." := by decide
  have ends : isTerminator "." = true := by decide
  rw [run_entering_of_empty (.of_mode live editing nofun) empty free (by decide)]
  simp [submit, editing, editLine, ends, leaveMode]

/-- Opening a file, typing lines and the terminator appends the lines to the file and changes
nothing else but the scrollback. -/
theorem edit_whole_file {operand : String} {lines : List String} (live : s.halted = false)
    (normal : s.mode = .normal) (empty : s.input = "") (same : Text.spaced operand = operand)
    (named : operand ≠ "")
    (file : s.files.lookup (s.cwd.resolve operand) = some (.file text))
    (typable : ∀ line ∈ lines, Text.ControlFree line ∧ line.length ≤ inputLimit ∧
      Text.trim line ≠ ".") :
    ∃ files log,
      s.run (.command (FileVerb.edit.line operand) :: (lines ++ ["."]).flatMap entering) =
          { s with files := files, log := log } ∧
        files.flat = s.files.flat.insert (s.cwd.resolve operand).segments
          (.file (text ++ Text.terminated lines)) := by
  have keys : (lines ++ ["."]).flatMap entering = lines.flatMap entering ++ entering "." := by simp
  let opened := ({ s with mode := .editing ⟨s.cwd.resolve operand, operand⟩, input := "" } :
    Session).print (editingOpened operand)
  have opens : s.step (.command (FileVerb.edit.line operand)) = opened :=
    runCommand_edit normal same named file
  obtain ⟨files, typed, flat⟩ :=
    enter_all_edited (s := opened) lines live rfl rfl file typable
  let filled := ({ opened with files := files, input := "" } : Session).printAll
    (lines.map Row.text)
  have ended := enter_edited_end (s := filled) live rfl rfl
  refine ⟨files, filled.log.push (.text ("Finished editing \"" ++ operand ++ "\".")), ?_, flat⟩
  rw [run_cons, opens, keys, run_append, typed, ended]
  have unchanged : s = { s with mode := .normal, input := "" } := by rw [← normal, ← empty]
  conv_rhs => rw [unchanged]
  rfl

/-- A file is shown without its last line feed, cut to the length of a message, one row per line. -/
theorem runCommand_cat_rows {operand body : String} (same : Text.spaced operand = operand)
    (named : operand ≠ "")
    (file : s.files.lookup (s.cwd.resolve operand) = some (.file (body ++ "\n"))) :
    (s.runCommand (FileVerb.cat.line operand)).session =
      { s with
        log := ((Text.split '\n' (String.ofList (body.toList.take s.log.maxChars))).map
          Row.text).foldl Scrollback.pushRow s.log } := by
  rw [runCommand_cat same named file, Command.fileText_append_newline, print, Scrollback.push_eq,
    Row.shown_message_eq]

/-- From every reachable state of the normal mode with empty input: opening a file by an operand
with single spaces, typing lines and a terminating dot returns to the normal mode. The file then
holds its former text followed by each line as typed with a line feed, and nothing else has changed
but the scrollback. Showing the file pushes its first 2000 characters without the last line feed,
one row per line; if the file was empty before and the joined lines are no longer than that, these
rows are the lines. -/
theorem edited_file_shows_lines (reachable : Reachable s) (live : s.halted = false)
    (normal : s.mode = .normal) (empty : s.input = "") {operand : String}
    (same : Text.spaced operand = operand)
    (file : s.files.lookup (s.cwd.resolve operand) = some (.file text)) {lines : List String}
    (filled : lines ≠ [])
    (typable : ∀ line ∈ lines, Text.ControlFree line ∧ line.length ≤ 800 ∧ Text.trim line ≠ ".") :
    let t := s.run (.command (FileVerb.edit.line operand) :: (lines ++ ["."]).flatMap entering)
    let content := text ++ Text.terminated lines
    t.mode = .normal ∧ t = { s with files := t.files, log := t.log } ∧
      t.files.flat = s.files.flat.insert (s.cwd.resolve operand).segments (.file content) ∧
      (∃ body, content = body ++ "\n" ∧
        (t.runCommand (FileVerb.cat.line operand)).session =
          { t with
            log := ((Text.split '\n' (String.ofList (body.toList.take 2000))).map
              Row.text).foldl Scrollback.pushRow t.log }) ∧
      (text = "" → (Text.join '\n' lines).length ≤ 2000 →
        (t.runCommand (FileVerb.cat.line operand)).session =
          { t with log := (lines.map Row.text).foldl Scrollback.pushRow t.log }) := by
  intro t content
  have named : operand ≠ "" := by
    rintro rfl
    obtain ⟨entries, folder⟩ := reachable.settled.folder
    rw [Path.resolve_empty, folder] at file
    cases file
  obtain ⟨files, log, whole, flat⟩ := edit_whole_file live normal empty same named file typable
  have written : t = { s with files := files, log := log } := whole
  have cut : t.log.maxChars = 2000 := (reachable.run _).maxChars
  let body := text ++ Text.join '\n' lines
  have ends : content = body ++ "\n" := by
    simp only [content, body, Text.terminated_eq_join filled, String.append_assoc]
  have held : t.files.lookup (t.cwd.resolve operand) = some (.file (body ++ "\n")) := by
    rw [← ends, written]
    exact FileSystem.lookup_of_flat_eq_insert flat
  have shown := runCommand_cat_rows same named held
  rw [cut] at shown
  refine ⟨?_, ?_, ?_, ⟨body, ends, shown⟩, fun bare short => ?_⟩
  · rw [written]
    exact normal
  · rw [written]
  · rw [written]
    exact flat
  · have fits : body.toList.take 2000 = (Text.join '\n' lines).toList := by
      have bodyEq : body = Text.join '\n' lines := by simp only [body, bare, String.empty_append]
      rw [bodyEq, List.take_of_length_le (String.length_toList ▸ short)]
    have lineFree : ∀ line ∈ lines, '\n' ∉ line.toList :=
      fun line hl => newline_not_mem (typable line hl).1
    rw [fits, String.ofList_toList, Text.split_join filled lineFree] at shown
    exact shown

theorem edited_file_shows_lines_blank :
    let s := start (FileSystem.empty.put ⟨["a b"]⟩ .file "") (.ofWords [7]) "noon"
    let lines := [" x ", "  ", ""]
    let t := s.run (.command "edit a b" :: (lines ++ ["."]).flatMap entering)
    t.mode = .normal ∧ t.files.flat = s.files.flat.insert ["a b"] (.file " x \n  \n\n") ∧
      (t.runCommand "cat a b").session =
        { t with log := ([" x ", "  ", ""].map Row.text).foldl Scrollback.pushRow t.log } := by
  intro s lines t
  have spaced : Text.spaced "a b" = "a b" := by decide
  have file : s.files.lookup (s.cwd.resolve "a b") = some (.file "") := by decide
  have typable : ∀ line ∈ lines, Text.ControlFree line ∧ line.length ≤ 800 ∧
      Text.trim line ≠ "." := by decide
  have reachable : Reachable s := .start _ _ _
  obtain ⟨mode, -, flat, -, shows⟩ :=
    edited_file_shows_lines reachable rfl rfl rfl spaced file (List.cons_ne_nil _ _) typable
  exact ⟨mode, flat, shows rfl (by decide)⟩

end Session
end VirtualTerminal
