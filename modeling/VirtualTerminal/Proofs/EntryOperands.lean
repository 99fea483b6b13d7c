import VirtualTerminal.Proofs.CommandLines
import VirtualTerminal.Proofs.EntryNames
import VirtualTerminal.Proofs.ModalGate
import VirtualTerminal.Proofs.WorkingFolder

/-! # Names of entries as operands

The operand of a file command is parsed to words with single spaces between them. Hence an entry of
the working folder is reached by its own name exactly when the name is spaced so. -/
namespace VirtualTerminal

def FileVerb.line (verb : FileVerb) (operand : String) : String := verb.word ++ " " ++ operand

namespace Command

/-- The operand of a file command consists of the words behind its verb. -/
theorem parse_line (verb : FileVerb) (rest : String) :
    parse (verb.line rest) = .file verb (Text.spaced rest) := by
  obtain ⟨word, lower⟩ := keyword_file verb
  have space : Text.isBlank ' ' = true := by decide
  have split : Text.words (verb.line rest) = verb.word :: Text.words rest := by
    rw [FileVerb.line, String.append_assoc, word.words_append (by simp [space]),
      Text.words_blank_append (by simp [Text.Blank, space])]
  exact parse_of_understood? (understood?_of_words split lower)

theorem spaced_operand {line operand : String} {verb : FileVerb}
    (h : parse line = .file verb operand) : Text.spaced operand = operand := by
  have canonical := canonical_parse line
  rw [h] at canonical
  obtain ⟨words, hw, rfl⟩ := canonical
  rw [Text.spaced, Text.words_join hw]

end Command

/-- The words of a name with single spaces between them resolve to its entry exactly when they make
up the name. -/
theorem Path.resolve_spaced_iff {name : String} (h : PlainName name) (cwd : Path) :
    cwd.resolve (Text.spaced name) = cwd.child name ↔ Text.spaced name = name := by
  constructor
  · intro there
    have free : '/' ∉ (Text.spaced name).toList := by
      intro slash
      rcases Text.mem_of_mem_spaced slash with same | inside
      · cases same
      · exact h.2.1 inside
    rw [resolve_of_not_mem free] at there
    exact eq_of_walk_eq_child there
  · intro same
    rw [same, resolve_plain h]

namespace FileSystem

theorem Named.write {fs fs' : FileSystem} (h : fs.Named) {cwd : Path} (hc : cwd.Plain)
    (write : Write cwd fs fs') : fs'.Named := by
  cases write with
  | insert done => exact h.insert hc done
  | remove done => exact h.remove done
  | append done => exact h.appendLine done

theorem Named.writes {fs fs' : FileSystem} (h : fs.Named) {cwd : Path} (hc : cwd.Plain)
    (writes : Writes cwd fs fs') : fs'.Named := by
  induction writes with
  | refl => exact h
  | tail _ write ih => exact ih.write hc write

end FileSystem

theorem Session.named_run {s : Session} (named : s.files.Named) (settled : s.Settled)
    (events : List Event) : (s.run events).files.Named := by
  induction events generalizing s with
  | nil => exact named
  | cons event rest ih =>
    have moved := s.step_moves event
    rw [run_cons]
    exact ih (named.writes settled.plain moved.files) (settled.moves moved)

namespace FileSystem

variable {fs : FileSystem} {cwd : Path} {name : String}

theorem flat_erase_child {node : Node} (here : fs.lookup (cwd.child name) = some node)
    (bare : fs.BareAt (cwd.child name)) :
    (fs.erase (cwd.child name)).flat = fs.flat.erase (cwd.child name).segments := by
  obtain ⟨above, folder⟩ := lookup_of_child here
  have above' : fs.lookup (cwd.child name).parent = some (.folder above) := by
    rwa [Path.parent_child]
  exact flat_erase (by simp [Path.child]) above' bare

theorem remove_child (plain : PlainName name) {node : Node} :
    fs.lookup (cwd.child name) = some node →
      fs.remove cwd name =
        match node with
        | .folder (.cons _ _ _) => .error (.folderNotEmpty name)
        | _ => .ok (fs.erase (cwd.child name), name) := by
  intro here
  have outside : ¬ (cwd.child name).segments <+: cwd.segments := by
    intro above
    have shorter := above.length_le
    simp only [Path.child, List.length_append, List.length_singleton] at shorter
    omega
  have removed := remove_of_lookup (Path.resolve_plain plain cwd) outside here
  rwa [Path.name?_child, Option.getD_some] at removed

end FileSystem

namespace Session

/-- The results of the file commands on a file: it is shown, opened and removed. -/
structure ActsOnFile (s : Session) (name text : String) : Prop where
  cat : (s.runCommand (FileVerb.cat.line name)).session = s.print (.text (Command.fileText text))
  edit : s.mode = .normal → (s.runCommand (FileVerb.edit.line name)).session.mode =
    .editing ⟨s.cwd.child name, name⟩
  rm : (s.runCommand (FileVerb.rm.line name)).session.files.flat =
    s.files.flat.erase (s.cwd.child name).segments

/-- The results of the file commands on a folder: only an empty one is removed. -/
structure ActsOnFolder (s : Session) (name : String) (entries : Entries) : Prop where
  cat : (s.runCommand (FileVerb.cat.line name)).session =
    s.print (.error (TerminalError.file (.isAFolder name)).message)
  edit : s.mode = .normal → (s.runCommand (FileVerb.edit.line name)).session =
    s.print (.error (TerminalError.file (.isAFolder name)).message)
  rm : if entries = .nil then
      (s.runCommand (FileVerb.rm.line name)).session.files.flat =
        s.files.flat.erase (s.cwd.child name).segments
    else (s.runCommand (FileVerb.rm.line name)).session =
      s.print (.error (TerminalError.file (.folderNotEmpty name)).message)

variable {s : Session} {name : String}

theorem dispatch_of_print {c : Command} {row : Row}
    (h : c.execute s.toSurroundings = .print s.toSurroundings [row]) :
    (s.dispatch c).session = s.print row := by
  have request : (c.execute s.toSurroundings).request = none := by rw [h]; rfl
  rw [(dispatch_of_no_request request).1, h]
  rfl

theorem runCommand_line (same : Text.spaced name = name) (verb : FileVerb)
    (free : verb ≠ .edit ∨ s.mode = .normal) :
    s.runCommand (verb.line name) = s.dispatch (.file verb name) := by
  have parsed : Command.parse (verb.line name) = .file verb name := by
    rw [Command.parse_line, same]
  have passes : s.gate? (verb.line name) = none := by
    rw [gate?, parsed]
    cases verb with
    | edit => exact refusal?_of_normal (free.resolve_left (absurd rfl)) _
    | ls | cd | mkdir | touch | cat | rm => rfl
  rw [runCommand_of_gate? passes, parsed]

theorem dispatch_rm_files {files : FileSystem} {leaf : String}
    (h : s.files.remove s.cwd name = .ok (files, leaf)) :
    (s.dispatch (.file .rm name)).session.files = files := by
  have request : ((Command.file .rm name).execute s.toSurroundings).request = none := by
    simp only [Command.execute, Command.runFile, Execution.report_request]
  rw [(dispatch_of_no_request request).1, absorb_files]
  simp only [Command.execute, Command.runFile, FileSystem.tryRemove_eq, Execution.report_held, h,
    Execution.change]

theorem actsOnFile (plain : PlainName name) (same : Text.spaced name = name) {text : String}
    (here : s.files.lookup (s.cwd.child name) = some (.file text)) : s.ActsOnFile name text where
  cat := by
    rw [runCommand_line same .cat (.inl (by decide))]
    apply dispatch_of_print
    simp only [Command.execute, Command.runFile, FileSystem.read_eq, if_neg plain.1,
      Path.resolve_plain plain, here]
  edit := by
    intro normal
    have asked : (Command.file .edit name).execute s.toSurroundings =
        .ask s.toSurroundings (.startEdit ⟨s.cwd.child name, name⟩) := by
      simp only [Command.execute, Command.runFile, FileSystem.beginEdit_eq, if_neg plain.1,
        Path.resolve_plain plain, here]
    rw [runCommand_line same .edit (.inr normal), (dispatch_of_ask asked).1, grant,
      (enterMode_of_normal normal _ _).1]
    rfl
  rm := by
    have removed := FileSystem.remove_child plain here
    rw [runCommand_line same .rm (.inl (by decide)), dispatch_rm_files removed,
      FileSystem.flat_erase_child here (FileSystem.bareAt_of_file here)]

theorem actsOnFolder (plain : PlainName name) (same : Text.spaced name = name)
    {entries : Entries} (here : s.files.lookup (s.cwd.child name) = some (.folder entries)) :
    s.ActsOnFolder name entries where
  cat := by
    rw [runCommand_line same .cat (.inl (by decide))]
    apply dispatch_of_print
    simp only [Command.execute, Command.runFile, FileSystem.read_eq, if_neg plain.1,
      Path.resolve_plain plain, here, Execution.fail]
  edit := by
    intro normal
    rw [runCommand_line same .edit (.inr normal)]
    apply dispatch_of_print
    simp only [Command.execute, Command.runFile, FileSystem.beginEdit_eq, if_neg plain.1,
      Path.resolve_plain plain, here, Execution.fail]
  rm := by
    have removed := FileSystem.remove_child plain here
    rw [runCommand_line same .rm (.inl (by decide))]
    cases entries with
    | nil =>
      rw [if_pos rfl, dispatch_rm_files removed,
        FileSystem.flat_erase_child here (FileSystem.bareAt_of_empty here)]
    | cons head node rest =>
      have filled : Entries.cons head node rest ≠ .nil := by simp
      rw [if_neg filled]
      apply dispatch_of_print
      simp only [Command.execute, Command.runFile, FileSystem.tryRemove_eq, Execution.report_held,
        removed, Execution.fail]

/-- In every run over the seeded files, the name of an entry listed in the working folder, as the
operand of a file command, is parsed to its words with single spaces between them. It resolves to
the entry exactly when the name is spaced so; then the command acts on the entry. The operand of a
parsed file command is always spaced so. -/
theorem listed_names_read_back (random : Chance) (clock : Clock) (events : List Event) :
    let s := (start .seeded random clock).run events
    ∃ shown, s.files.list s.cwd "" = .ok shown ∧
      (∀ name kind, (name, kind) ∈ shown →
        (s.files.lookup (s.cwd.child name)).map Node.kind = some kind ∧
          (∀ verb : FileVerb,
            Command.parse (verb.line name) = .file verb (Text.spaced name)) ∧
          (s.cwd.resolve (Text.spaced name) = s.cwd.child name ↔ Text.spaced name = name) ∧
          (Text.spaced name = name →
            (∀ text, s.files.lookup (s.cwd.child name) = some (.file text) →
              s.ActsOnFile name text) ∧
            ∀ entries, s.files.lookup (s.cwd.child name) = some (.folder entries) →
              s.ActsOnFolder name entries)) ∧
      ∀ line verb operand, Command.parse line = .file verb operand →
        Text.spaced operand = operand := by
  intro s
  have settled : s.Settled := settled_run (settled_start .seeded random clock) events
  have named : s.files.Named := named_run FileSystem.named_seeded
    (settled_start .seeded random clock) events
  obtain ⟨entries, folder⟩ := settled.folder
  refine ⟨entries.kinds, ?_, fun name kind listed => ?_, fun _ _ _ => Command.spaced_operand⟩
  · simp only [FileSystem.list, Path.resolve_empty, folder]
  · have ordered : entries.Ordered := s.files.ordered.lookup folder
    have found := (Entries.mem_kinds ordered).mp listed
    rw [← FileSystem.lookup_child folder name] at found
    obtain ⟨node, here, -⟩ := Option.map_eq_some_iff.mp found
    have plain : PlainName name := named.plain here name (by simp [Path.child])
    exact ⟨found, fun verb => Command.parse_line verb name, Path.resolve_spaced_iff plain s.cwd,
      fun same => ⟨fun _ => actsOnFile plain same, fun _ => actsOnFolder plain same⟩⟩

/-- A script stored under a name with two consecutive spaces is listed but cannot be removed: its
name is parsed with one space, which resolves to nothing. -/
theorem listed_names_read_back_not_spaced :
    let s := (start .seeded [] "").run (entering "script" ++ entering "." ++ entering "a  b")
    s.mode = .normal ∧
      s.files.list s.cwd "" =
        .ok [("a  b", .file), ("docs", .folder), ("readme.txt", .file)] ∧
      Command.parse "rm a  b" = .file .rm "a b" ∧
      s.cwd.resolve "a b" ≠ s.cwd.child "a  b" ∧ s.files.lookup (s.cwd.resolve "a b") = none ∧
      (s.runCommand "rm a  b").session.files = s.files := by
  rw [← FileSystem.defaultTree_eq_seeded]
  decide +kernel

end Session
end VirtualTerminal
