import VirtualTerminal.Proofs.CommandLines
import VirtualTerminal.Proofs.ModalGate
import VirtualTerminal.Proofs.ScriptReplay
import VirtualTerminal.Proofs.Typing
import VirtualTerminal.Proofs.WorkingFolder

/-! # Recorded scripts

Typing a script, its lines and its name stores a file of the trimmed lines, and running that file by
its name runs those lines. -/
namespace VirtualTerminal

namespace Session

def recordingOpened : Row :=
  .info "Script mode enabled. Write '.' on a new line to finish and save."

theorem enter_script {s : Session} (live : s.halted = false) (normal : s.mode = .normal)
    (empty : s.input = "") :
    s.run (entering "script") =
      ({ s with mode := .collecting [], input := "" } : Session).print recordingOpened := by
  have free : Text.ControlFree "script" := by decide
  have parsed : Command.parse "script" = .script := by decide
  have asked : (Command.parse "script").execute s.toSurroundings =
      .ask s.toSurroundings .startScript := by
    rw [parsed]
    rfl
  have gate : s.gate? "script" = none := by simp [gate?, parsed, Command.modal?, refusal?, normal]
  rw [run_entering_of_normal live normal empty free (by decide), runCommand_of_gate? gate,
    (dispatch_of_ask asked).1, grant, (enterMode_of_normal normal _ _).1]
  rfl

theorem enter_recorded {s : Session} {lines : List String} {line : String}
    (live : s.halted = false) (recording : s.mode = .collecting lines) (empty : s.input = "")
    (free : Text.ControlFree line) (fits : line.length ≤ inputLimit)
    (goesOn : Text.trim line ≠ ".") :
    s.run (entering line) =
      ({ s with mode := .collecting (lines ++ [Text.trim line]), input := "" } : Session).print
        (.text line) := by
  rw [run_entering_of_empty (.of_mode live recording nofun) empty free fits, submit]
  simp [recording, collectLine, isTerminator, goesOn]

theorem enter_all_recorded {s : Session} {lines : List String} (more : List String)
    (live : s.halted = false) (recording : s.mode = .collecting lines) (empty : s.input = "")
    (typable : ∀ line ∈ more, Text.ControlFree line ∧ line.length ≤ inputLimit ∧
      Text.trim line ≠ ".") :
    s.run (more.flatMap entering) =
      ({ s with mode := .collecting (lines ++ more.map Text.trim), input := "" } : Session).printAll
        (more.map Row.text) := by
  induction more generalizing s lines with
  | nil =>
    have same : { s with mode := .collecting lines, input := "" } = s := by
      rw [← recording, ← empty]
    simp [run, printAll, Scrollback.extend, same]
  | cons line rest ih =>
    obtain ⟨free, fits, goesOn⟩ := typable line List.mem_cons_self
    let next := ({ s with mode := .collecting (lines ++ [Text.trim line]), input := "" } : Session)
    have goingOn : (next.print (.text line)).mode = .collecting (lines ++ [Text.trim line]) := rfl
    have later := ih (s := next.print (.text line)) live goingOn rfl
      fun other ho => typable other (List.mem_cons_of_mem _ ho)
    rw [List.append_assoc] at later
    rw [List.flatMap_cons, run_append, enter_recorded live recording empty free fits goesOn]
    exact later

theorem enter_terminator {s : Session} {lines : List String} (live : s.halted = false)
    (recording : s.mode = .collecting lines) (empty : s.input = "") :
    s.run (entering ".") = { s with mode := .naming lines, input := namePrompt } := by
  have free : Text.ControlFree "." := by decide
  have ends : isTerminator "." = true := by decide
  rw [run_entering_of_empty (.of_mode live recording nofun) empty free (by decide), submit]
  simp [recording, collectLine, ends]

theorem scriptName_prompted (name : String) : scriptName (namePrompt ++ name) = Text.trim name := by
  have prompted : namePrompt.toList.isPrefixOf (namePrompt ++ name).toList = true := by
    rw [String.toList_append, List.isPrefixOf_iff_prefix]
    exact List.prefix_append _ _
  have rest : (namePrompt ++ name).toList.drop namePrompt.length = name.toList := by
    rw [String.toList_append, ← String.length_toList, List.drop_left]
  simp only [scriptName, prompted, if_true, rest, String.ofList_toList]

theorem nameScript_of_saved {s : Session} {lines : List String} {line saved : String}
    {files : FileSystem}
    (h : Script.save s.files s.cwd (scriptName line) lines = .ok (files, saved)) :
    (s.nameScript lines line).session =
      ({ s with files := files, mode := .normal, input := "" } : Session).print
        (.success ("Script '" ++ saved ++ "' saved successfully.")) := by
  rw [nameScript_eq, h]
  rfl

theorem enter_name {s : Session} {lines : List String} {name : String} {entries : Entries}
    (live : s.halted = false) (naming : s.mode = .naming lines) (prompted : s.input = namePrompt)
    (free : Text.ControlFree name) (fits : name.length ≤ inputLimit - namePrompt.length)
    (folder : s.files.lookup s.cwd = some (.folder entries)) (plain : PlainName (Text.trim name))
    (unused : s.files.lookup (s.cwd.child (Text.trim name)) = none) :
    s.run (entering name) =
      ({ s with
        files := s.files.put (s.cwd.child (Text.trim name)) .file (Text.join '\n' lines)
        mode := .normal
        input := "" } : Session).print
          (.success ("Script '" ++ Text.trim name ++ "' saved successfully.")) := by
  have listens : s.Listens := .of_mode live naming nofun
  have room : s.input.length + name.length ≤ inputLimit := by
    have short : namePrompt.length ≤ inputLimit := by decide
    rw [prompted]
    omega
  have saved := Script.save_eq folder (Text.trim name) lines
  rw [if_pos ⟨plain, unused⟩, ← scriptName_prompted name] at saved
  rw [run_entering listens free room, prompted, submit]
  simp only [naming]
  rw [← naming]
  refine (nameScript_of_saved (s := { s with input := "" }) saved).trans ?_
  rw [scriptName_prompted]

end Session

namespace Command

/-- The name of a script to run is the trimmed text behind `run`. -/
theorem parse_scriptRun {before name after : String} (hb : Text.Blank before.toList)
    (ha : Text.Blank after.toList) (named : name ≠ "") (trimmed : Text.trim name = name) :
    parse ("script run " ++ before ++ name ++ after) = .scriptRun name := by
  have solid : Text.Solid name.toList := trimmed ▸ Text.solid_trim name
  have space : Text.isBlank ' ' = true := by decide
  have script : Text.IsWord "script" := by decide
  have lower : Text.lower "script" = "script" := by decide +kernel
  have last {start : String} : ∀ c ∈ (start ++ name).toList.getLast?, Text.isBlank c = false := by
    have chars : name.toList ≠ [] := by simpa using named
    rw [String.toList_append, List.getLast?_append_of_ne_nil _ chars]
    exact solid.last
  have whole : "script run " ++ before ++ name ++ after =
      "script" ++ (" " ++ ("run" ++ (" " ++ (before ++ name)))) ++ after := by
    simp [← String.toList_inj]
  have ends : ∀ c ∈ (" " ++ ("run" ++ (" " ++ (before ++ name)))).toList.getLast?,
      Text.isBlank c = false := by
    simpa only [← String.append_assoc] using last
  have ends' : ∀ c ∈ (" " ++ (before ++ name)).toList.getLast?, Text.isBlank c = false := by
    simpa only [← String.append_assoc] using last
  have operand : Text.trim (before ++ name) = name := by
    have nothing : Text.Blank "".toList := nofun
    have alone := Text.trim_between hb solid nothing
    rwa [String.append_empty] at alone
  apply parse_of_understood?
  rw [whole, understood?_append script (by simp [space]) ends ha, lower, known?_script,
    Text.behind_space, knownScript?_run (by simp [space]) ends', Text.behind_space, operand]

end Command

theorem Script.lines_join {lines : List String} (free : ∀ line ∈ lines, '\n' ∉ line.toList)
    (trimmed : ∀ line ∈ lines, Text.trim line = line) :
    Script.lines (Text.join '\n' lines) = lines.filter fun line => line ≠ "" := by
  by_cases none : lines = []
  · rw [none]
    decide
  · rw [Script.lines, Text.split_join none free]
    apply List.filter_congr
    intro line hl
    rw [trimmed line hl]

theorem Script.lines_join_trim {lines : List String}
    (free : ∀ line ∈ lines, Text.ControlFree line) :
    Script.lines (Text.join '\n' (lines.map Text.trim)) =
      (lines.map Text.trim).filter fun line => line ≠ "" := by
  apply Script.lines_join
  · intro line hl newline
    obtain ⟨typed, ht, rfl⟩ := List.mem_map.mp hl
    have control := free typed ht '\n' (Text.mem_of_mem_trim newline)
    exact absurd control (by decide)
  · intro line hl
    obtain ⟨typed, -, rfl⟩ := List.mem_map.mp hl
    exact Text.trim_trim typed

namespace Session

theorem enter_whole_script {s : Session} (reachable : Reachable s) (live : s.halted = false)
    (normal : s.mode = .normal) (empty : s.input = "") {lines : List String} {name : String}
    (typable : ∀ line ∈ lines, Text.ControlFree line ∧ line.length ≤ inputLimit ∧
      Text.trim line ≠ ".")
    (free : Text.ControlFree name) (fits : name.length ≤ inputLimit - namePrompt.length)
    (plain : PlainName (Text.trim name))
    (unused : s.files.lookup (s.cwd.child (Text.trim name)) = none) :
    s.run (("script" :: lines ++ [".", name]).flatMap entering) =
      ({ s with
        files := s.files.put (s.cwd.child (Text.trim name)) .file
          (Text.join '\n' (lines.map Text.trim))
        mode := .normal
        input := ""
        log := (s.log.push recordingOpened).extend (lines.map Row.text) } : Session).print
          (.success ("Script '" ++ Text.trim name ++ "' saved successfully.")) := by
  obtain ⟨entries, folder⟩ := reachable.settled.folder
  have keys : ("script" :: lines ++ [".", name]).flatMap entering =
      entering "script" ++ (lines.flatMap entering ++ (entering "." ++ entering name)) := by
    simp
  let opened := ({ s with mode := .collecting [], input := "" } : Session).print recordingOpened
  let full := ({ opened with mode := .collecting (lines.map Text.trim) } : Session).printAll
    (lines.map Row.text)
  let asked := { full with mode := .naming (lines.map Text.trim), input := namePrompt }
  have recording : opened.mode = .collecting [] := rfl
  have recorded : opened.run (lines.flatMap entering) = full :=
    enter_all_recorded (s := opened) lines live recording rfl typable
  have ended : full.run (entering ".") = asked := enter_terminator (s := full) live rfl rfl
  have named := enter_name (s := asked) live rfl rfl free fits folder plain unused
  rw [keys, run_append, enter_script live normal empty, run_append, recorded, run_append, ended]
  exact named

/-- From every reachable state of the normal mode with empty input: typing a script, its lines and a
plain free name stores one file with the trimmed lines and changes nothing else but the scrollback.
The lines to run are the nonblank ones, and a line that runs the script by its name finds the file
and types those lines. -/
theorem recorded_script_runs {s : Session} (reachable : Reachable s) (live : s.halted = false)
    (normal : s.mode = .normal) (empty : s.input = "") {lines : List String} {name : String}
    (typable : ∀ line ∈ lines, Text.ControlFree line ∧ line.length ≤ 800 ∧ Text.trim line ≠ ".")
    (free : Text.ControlFree name) (fits : name.length ≤ 778) (plain : PlainName (Text.trim name))
    (unused : s.files.lookup (s.cwd.child (Text.trim name)) = none) :
    let t := s.run (("script" :: lines ++ [".", name]).flatMap entering)
    let stored := Text.trim name
    let content := Text.join '\n' (lines.map Text.trim)
    let recorded := (lines.map Text.trim).filter fun line => line ≠ ""
    t.mode = .normal ∧ t = { s with files := t.files, log := t.log } ∧
      t.files.flat = s.files.flat.insert (s.cwd.child stored).segments (.file content) ∧
      Script.lines content = recorded ∧
      ∀ before after, Text.Blank before.toList → Text.Blank after.toList →
        let line := "script run " ++ before ++ stored ++ after
        Command.parse line = .scriptRun stored ∧ t.files.read t.cwd stored = .ok content ∧
          (t.runCommand line).session =
            (recorded.foldl typeScriptLine
              (t.print (.info ("--- RUNNING SCRIPT: " ++ stored ++ " ---")))).print
                (.info ("--- SCRIPT FINISHED: " ++ stored ++ " ---")) := by
  intro t stored content recorded
  obtain ⟨entries, folder⟩ := reachable.settled.folder
  have whole := enter_whole_script reachable live normal empty typable free fits plain unused
  have shape : t = { s with files := t.files, log := t.log } := by
    have same : s = { s with mode := .normal, input := "" } := by rw [← normal, ← empty]
    rw [same]
    simp only [t, whole]
    rfl
  have files : t.files = s.files.put (s.cwd.child stored) .file content := by
    simp only [t, whole]
    rfl
  have flat : t.files.flat = s.files.flat.insert (s.cwd.child stored).segments (.file content) := by
    have parent : s.files.lookup (s.cwd.child stored).parent = some (.folder entries) := by
      rw [Path.parent_child]
      exact folder
    rw [files, FileSystem.flat_put (by simp [Path.child]) parent
      (FileSystem.bareAt_of_none unused)]
    rfl
  have found : t.files.read t.cwd stored = .ok content := by
    have cwd : t.cwd = s.cwd := by rw [shape]
    have here : t.files.lookup (t.cwd.resolve stored) = some (.file content) := by
      rw [cwd, Path.resolve_plain plain, ← FileSystem.at?_flat_eq_file, flat]
      exact Finmap.lookup_insert _
    rw [FileSystem.read_eq, if_neg plain.1, here]
  have kept : Script.lines content = recorded :=
    Script.lines_join_trim fun line hl => (typable line hl).1
  refine ⟨?_, shape, flat, kept, fun before after hb ha => ?_⟩
  · rw [shape]
    exact normal
  · have parsed := Command.parse_scriptRun hb ha plain.1 (Text.trim_trim name)
    refine ⟨parsed, found, ?_⟩
    rw [(runCommand_of_read parsed found).1, runScript_eq, kept]

/-- A script with a blank line, under a name with blanks around and inside. -/
theorem recorded_script_runs_named :
    let s := start .empty (.ofWords [7]) "noon"
    let typed := "script" :: ["  mkdir a ", " ", "ls"] ++ [".", " my  script "]
    let t := s.run (typed.flatMap entering)
    let ran := (t.runCommand "script run \t my  script\n").session
    t.mode = .normal ∧ t.files.flat = s.files.flat.insert ["my  script"] (.file "mkdir a\n\nls") ∧
      ran.files = t.files.put ⟨["a"]⟩ .folder "" ∧
      ran.log.rows = [
        .info "Script mode enabled. Write '.' on a new line to finish and save.",
        .text "  mkdir a ", .text " ", .text "ls",
        .success "Script 'my  script' saved successfully.",
        .info "--- RUNNING SCRIPT: my  script ---",
        .text ">> mkdir a", .success "Folder \"a\" created",
        .text ">> ls", .entry "a" .folder, .entry "my  script" .file,
        .info "--- SCRIPT FINISHED: my  script ---"] := by
  have trimmed : Text.trim " my  script " = "my  script" := by decide
  have lines : ["  mkdir a ", " ", "ls"].map Text.trim = ["mkdir a", "", "ls"] := by decide
  have content : Text.join '\n' ["mkdir a", "", "ls"] = "mkdir a\n\nls" := by decide
  have kept : ["mkdir a", "", "ls"].filter (fun line => line ≠ "") = ["mkdir a", "ls"] := by decide
  have typable : ∀ line ∈ ["  mkdir a ", " ", "ls"],
      Text.ControlFree line ∧ line.length ≤ 800 ∧ Text.trim line ≠ "." := by decide
  have free : Text.ControlFree " my  script " := by decide
  obtain ⟨mode, _, flat, _, runs⟩ := recorded_script_runs (.start .empty (.ofWords [7]) "noon") rfl
    rfl rfl typable free (by decide) (by decide) (by decide)
  have stored : (Path.root.child "my  script").segments = ["my  script"] := rfl
  have root : (start .empty (.ofWords [7]) "noon").cwd = .root := rfl
  rw [trimmed, lines, content, root, stored] at flat
  rw [trimmed, lines, kept] at runs
  have before : Text.Blank "\t ".toList := by simp [Text.Blank, Text.isBlank]
  have after : Text.Blank "\n".toList := by simp [Text.Blank, Text.isBlank]
  have line : "script run " ++ "\t " ++ "my  script" ++ "\n" = "script run \t my  script\n" := by
    decide
  have ran := (runs "\t " "\n" before after).2.2
  rw [line] at ran
  refine ⟨mode, flat, ?files, ?rows⟩ <;> rw [ran]
  case files => decide +kernel
  case rows => decide +kernel

end Session
end VirtualTerminal
