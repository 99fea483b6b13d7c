import VirtualTerminal.Proofs.Commands

/-! # Running a script file

Running a script has the result of typing its lines, with each line shown first. Lines that are not
allowed show an error row instead. -/
namespace VirtualTerminal

/-- A command allowed in a script draws no number and requests at most a clear screen. -/
theorem Command.execute_of_isScriptSafe {c : Command} (h : c.isScriptSafe) (w : Surroundings) :
    (c.execute w).random = w.random ∧
      ((c.execute w).request = none ∨ (c.execute w).request = some .clearScreen) := by
  cases c with
  | scriptRun | script | empty | unknown => cases h
  | echo | reverse => exact ⟨rfl, Or.inl rfl⟩
  | builtin b =>
    cases b with
    | help | hello | autocode | loading | colorCycle | exit | guess | cheer => cases h
    | whoami | date => exact ⟨rfl, Or.inl rfl⟩
    | clear => exact ⟨rfl, Or.inr rfl⟩
  | file verb operand =>
    cases verb with
    | cd | edit => cases h
    | ls | cat =>
      simp only [execute, runFile]
      split <;> exact ⟨rfl, Or.inl rfl⟩
    | mkdir | touch | rm => simp [execute, runFile]

theorem Command.modal?_of_isScriptSafe {c : Command} (h : c.isScriptSafe) : c.modal? = none := by
  cases c with
  | scriptRun | script | empty | unknown => cases h
  | echo | reverse => rfl
  | builtin b => cases b <;> first | rfl | cases h
  | file verb operand => cases verb <;> first | rfl | cases h

theorem Command.execute_scriptRun {w : Surroundings} {name content : String}
    (found : w.files.read w.cwd name = .ok content) :
    (scriptRun name).execute w = .ask w (.runScript name content) := by
  have named : name ≠ "" := by
    rintro rfl
    cases found
  simp only [execute, runScriptFile, if_neg named, found]

namespace Script

def allows (line : String) : Bool := (Command.parse line).isScriptSafe

theorem runLine_of_allows {line : String} (h : allows line) (w : Surroundings) :
    runLine w line = (Command.parse line).execute w := if_pos h

theorem runLine_of_not_allows {line : String} (h : ¬ allows line) (w : Surroundings) :
    runLine w line = .fail w (.scriptLineUnsupported (Text.trim line)) := if_neg h

end Script

namespace Session

/-- Typing a line of a script: the line is shown and then run, if it is allowed. -/
def typeScriptLine (s : Session) (line : String) : Session :=
  let shown := s.print (.text (">> " ++ line))
  if Script.allows line then (shown.runCommand line).session
  else shown.print (.error ("[SCRIPT ERROR] Unknown/Non-Executable Command: " ++ Text.trim line))

def logAfter (s : Session) (e : Execution) : Scrollback :=
  if e.request = some .clearScreen then (s.log.extend e.output).clear else s.log.extend e.output

theorem runCommand_of_allows {line : String} (h : Script.allows line) (s : Session) :
    (s.runCommand line).session =
      { s with
        files := ((Command.parse line).execute s.toSurroundings).files
        clock := ((Command.parse line).execute s.toSurroundings).clock
        log := s.logAfter ((Command.parse line).execute s.toSurroundings) } := by
  obtain ⟨random, request⟩ := Command.execute_of_isScriptSafe h s.toSurroundings
  rw [runCommand_of_not_modal (Command.modal?_of_isScriptSafe h)]
  rcases request with none | clear
  · rw [(dispatch_of_no_request none).1]
    simp [absorb, logAfter, none, random]
  · rw [(dispatch_of_request clear).1]
    simp [absorb, logAfter, clear, random, grant]

theorem typeScriptLine_of_allows {line : String} (h : Script.allows line) (s : Session) :
    s.typeScriptLine line = ((s.print (.text (">> " ++ line))).runCommand line).session := by
  rw [typeScriptLine, if_pos h]

theorem runScriptLine_eq (s : Session) (line : String) :
    (s.runScriptLine line).session = s.typeScriptLine line := by
  by_cases safe : Script.allows line
  · obtain ⟨random, _⟩ :=
      Command.execute_of_isScriptSafe safe (s.print (.text (">> " ++ line))).toSurroundings
    rw [typeScriptLine_of_allows safe, runCommand_of_allows safe]
    simp only [runScriptLine, Script.runLine_of_allows safe, absorb, logAfter, random]
  · simp only [runScriptLine, Script.runLine_of_not_allows safe, typeScriptLine, if_neg safe]
    rfl

/-- Typing a line of a script changes the files and reads the clock as running the line, and
otherwise only the scrollback. -/
theorem typeScriptLine_eq (s : Session) (line : String) :
    s.typeScriptLine line =
      { s with
        files := if Script.allows line then (s.runCommand line).session.files else s.files
        clock := if Script.allows line then (s.runCommand line).session.clock else s.clock
        log := (s.typeScriptLine line).log } := by
  by_cases safe : Script.allows line
  · rw [if_pos safe, if_pos safe, typeScriptLine_of_allows safe, runCommand_of_allows safe,
      runCommand_of_allows safe, print_toSurroundings]
    rfl
  · simp only [typeScriptLine, if_neg safe]
    rfl

theorem runScriptLines_eq (s : Session) (lines : List String) :
    (s.runScriptLines lines).session = lines.foldl typeScriptLine s := by
  induction lines generalizing s with
  | nil => rfl
  | cons line rest ih => rw [runScriptLines, List.foldl_cons, ← runScriptLine_eq, ih]

theorem typeScriptLine_surroundings {s t : Session} (h : s.toSurroundings = t.toSurroundings)
    (line : String) : (s.typeScriptLine line).toSurroundings =
      if Script.allows line then (t.runCommand line).session.toSurroundings
      else t.toSurroundings := by
  rw [typeScriptLine_eq]
  split
  · next safe => rw [runCommand_of_allows safe, runCommand_of_allows safe, ← h]
  · exact h

theorem typeScriptLines_surroundings {s t : Session} (h : s.toSurroundings = t.toSurroundings)
    (lines : List String) : (lines.foldl typeScriptLine s).toSurroundings =
      (t.run ((lines.filter Script.allows).map .command)).toSurroundings := by
  induction lines generalizing s t with
  | nil => exact h
  | cons line rest ih =>
    have first := typeScriptLine_surroundings h line
    rw [List.foldl_cons]
    by_cases safe : Script.allows line
    · rw [if_pos safe] at first
      rw [List.filter_cons_of_pos safe, List.map_cons, run_cons, step_command]
      exact ih first
    · rw [if_neg safe] at first
      rw [List.filter_cons_of_neg safe]
      exact ih first

theorem typeScriptLines_frame (s : Session) (lines : List String) :
    lines.foldl typeScriptLine s =
      { s with
        files := (lines.foldl typeScriptLine s).files
        clock := (lines.foldl typeScriptLine s).clock
        log := (lines.foldl typeScriptLine s).log } := by
  induction lines generalizing s with
  | nil => rfl
  | cons line rest ih =>
    rw [List.foldl_cons, ih (s.typeScriptLine line), typeScriptLine_eq]

theorem runScript_eq (s : Session) (name content : String) :
    (s.runScript name content).session =
      ((Script.lines content).foldl typeScriptLine
        (s.print (.info ("--- RUNNING SCRIPT: " ++ name ++ " ---")))).print
          (.info ("--- SCRIPT FINISHED: " ++ name ++ " ---")) := by
  simp only [runScript, runScriptLines_eq]

theorem runCommand_of_read {s : Session} {line name content : String}
    (parsed : Command.parse line = .scriptRun name)
    (found : s.files.read s.cwd name = .ok content) :
    (s.runCommand line).session = (s.runScript name content).session ∧
      (s.runCommand line).answer = none := by
  have asked : (Command.parse line).execute s.toSurroundings =
      .ask s.toSurroundings (.runScript name content) := by
    rw [parsed]
    exact Command.execute_scriptRun found
  have free : (Command.parse line).modal? = none := by rw [parsed]; rfl
  rw [runCommand_of_not_modal free]
  exact dispatch_of_ask asked

/-- Running a script file is typing its nonblank lines. In any mode and for any lines, even those
that remove the script: the files and the clock result from running the allowed lines as commands,
the scrollback shows each line followed by its own output, and nothing else changes. -/
theorem runCommand_scriptRun {s : Session} {line name content : String}
    (parsed : Command.parse line = .scriptRun name)
    (found : s.files.read s.cwd name = .ok content) :
    let lines := (Text.split '\n' content).filter fun line => Text.trim line ≠ ""
    let typed := s.run ((lines.filter Script.allows).map .command)
    let shown := lines.foldl typeScriptLine
      (s.print (.info ("--- RUNNING SCRIPT: " ++ name ++ " ---")))
    (s.runCommand line).answer = none ∧
      (s.runCommand line).session =
        { s with
          files := typed.files
          clock := typed.clock
          log := (shown.print (.info ("--- SCRIPT FINISHED: " ++ name ++ " ---"))).log } := by
  intro lines typed shown
  obtain ⟨session, answer⟩ := runCommand_of_read parsed found
  let header : Row := .info ("--- RUNNING SCRIPT: " ++ name ++ " ---")
  have same : shown.toSurroundings = typed.toSurroundings :=
    typeScriptLines_surroundings (s := s.print header) (t := s) rfl lines
  have frame : shown = { s.print header with
      files := shown.files, clock := shown.clock, log := shown.log } :=
    typeScriptLines_frame (s.print header) lines
  refine ⟨answer, ?_⟩
  rw [session, runScript_eq, ← congrArg Surroundings.files same, ← congrArg Surroundings.clock same]
  change shown.print _ = _
  clear_value shown
  rw [frame]
  rfl

/-- A script that clears the screen, removes itself, contains a line that is not allowed and reads
the clock, during a recording. -/
theorem runCommand_scriptRun_removing :
    let content := "mkdir a\nclear\nrm s\n \ncd a\ndate\ntouch b\n"
    let s := { Session.start (FileSystem.empty.put ⟨["s"]⟩ .file content) (.ofWords [7]) "noon" with
      mode := .collecting ["ls"], input := "ec" }
    let t := (s.runCommand "script run s").session
    Command.parse "script run s" = .scriptRun "s" ∧ s.files.read s.cwd "s" = .ok content ∧
      t.files = (FileSystem.empty.put ⟨["a"]⟩ .folder "").put ⟨["b"]⟩ .file "" ∧
      t.log.rows = [.text ">> rm s", .success "\"s\" removed",
        .text ">> cd a", .error "[SCRIPT ERROR] Unknown/Non-Executable Command: cd a",
        .text ">> date", .text "noon",
        .text ">> touch b", .success "File \"b\" created",
        .info "--- SCRIPT FINISHED: s ---"] ∧
      t.mode = .collecting ["ls"] ∧ t.input = "ec" := by
  intro content s t
  have parsed : Command.parse "script run s" = .scriptRun "s" := by decide
  have found : s.files.read s.cwd "s" = .ok content := by rfl
  have same := (runCommand_scriptRun parsed found).2
  refine ⟨parsed, found, ?files, ?rows, ?mode, ?input⟩ <;> simp only [t, same]
  case files => decide +kernel
  case rows => decide +kernel
  case mode => rfl
  case input => rfl

end Session
end VirtualTerminal
