import VirtualTerminal.Proofs.LineInvariant
import VirtualTerminal.Proofs.RecordedScripts
import VirtualTerminal.Proofs.SessionScrollback

/-! # Naming a script

Enter either stores the recorded lines under the name in the input or discards them. No other error
of the files occurs, since the working folder exists and a plain name is an entry of it. -/
namespace VirtualTerminal

namespace FileSystem

variable {fs : FileSystem} {cwd : Path} {entries : Entries} {name : String}

theorem lookup_child_eq_none (folder : fs.lookup cwd = some (.folder entries)) :
    fs.lookup (cwd.child name) = none ↔ name ∉ entries.names := by
  rw [lookup_child folder, Entries.find?_eq_none_iff]

theorem flat_put_child (folder : fs.lookup cwd = some (.folder entries))
    (unused : name ∉ entries.names) (kind : Kind) (text : String) :
    (fs.put (cwd.child name) kind text).flat =
      fs.flat.insert (cwd.child name).segments (Node.bare kind text).item := by
  have below : (cwd.child name).segments ≠ [] := by simp [Path.child]
  have parent : fs.lookup (cwd.child name).parent = some (.folder entries) := by
    rwa [Path.parent_child]
  have bare := bareAt_of_none ((lookup_child_eq_none folder).mpr unused)
  exact flat_put below parent bare kind text

end FileSystem

/-- In an existing folder, a script is stored or discarded by its name alone. -/
theorem Script.save_of_folder {fs : FileSystem} {cwd : Path} {entries : Entries}
    (folder : fs.lookup cwd = some (.folder entries)) (name : String) (lines : List String) :
    save fs cwd name lines =
      if PlainName name ∧ name ∉ entries.names then
        .ok (fs.put (cwd.child name) .file (Text.join '\n' lines), name)
      else .error (discarded name) := by
  rw [save_eq folder]
  simp only [FileSystem.lookup_child_eq_none folder]

theorem Script.message_discarded (name : String) :
    (discarded name).message =
      "Error: Invalid name or file '" ++ name ++ "' already exists. Script discarded." := by
  have opening : "Error: " ++ "Invalid name or file '" = "Error: Invalid name or file '" := rfl
  calc
    (discarded name).message
    _ = "Error: " ++ ("Invalid name or file '" ++ name ++ "' already exists. Script discarded.") :=
        rfl
    _ = _ := by simp only [← opening, String.append_assoc]

namespace Session

theorem scriptName_bare {line : String} (h : ¬ namePrompt.toList <+: line.toList) :
    scriptName line = Text.trim line := by
  have other : ¬ namePrompt.toList.isPrefixOf line.toList = true := by
    rwa [List.isPrefixOf_iff_prefix]
  rw [scriptName, if_neg other, String.ofList_toList]

theorem scriptName_tidy {line : String} (h : Tidy line) : Tidy (scriptName line) := by
  by_cases prompted : namePrompt.toList <+: line.toList
  · obtain ⟨rest, whole⟩ := prompted
    have split : line = namePrompt ++ String.ofList rest := by simp [← String.toList_inj, whole]
    have tidy : Tidy (String.ofList rest) := by
      refine ⟨?_, fun c hc => h.free c ?_⟩
      · have short := h.short
        rw [split, String.length_append] at short
        omega
      · rw [split, String.toList_append]
        exact List.mem_append_right _ hc
    rw [split, scriptName_prompted]
    exact tidy.trim
  · rw [scriptName_bare prompted]
    exact h.trim

/-- A tidy name in a short sentence without line breaks is one row of the scrollback. -/
theorem push_around_tidy {log : Scrollback} {name : String} (limit : log.maxChars = messageLimit)
    (tidy : Tidy name) (tone : Tone) (before after : String)
    (oneLine : '\n' ∉ before.toList ∧ '\n' ∉ after.toList)
    (short : before.length + after.length ≤ messageLimit - inputLimit) :
    log.push (.message tone (before ++ name ++ after)) =
      log.pushRow (.message tone (before ++ name ++ after)) := by
  apply Scrollback.push_of_fits
  · simp only [String.toList_append, List.mem_append, not_or]
    exact ⟨⟨oneLine.1, newline_not_mem tidy.free⟩, oneLine.2⟩
  · have room := tidy.short
    rw [limit, String.length_append, String.length_append]
    simp only [messageLimit, inputLimit] at room short ⊢
    omega

variable {s : Session} {lines : List String}

theorem enter_of_naming (live : s.halted = false) (naming : s.mode = .naming lines) :
    s.step (.key .enter) =
      (({ s with input := "" } : Session).nameScript lines s.input).session := by
  rw [step_key_of_listens (.of_mode live naming nofun), press, submit]
  simp only [naming]

theorem nameScript_of_discarded {line : String} {e : TerminalError}
    (h : Script.save s.files s.cwd (scriptName line) lines = .error e) :
    (s.nameScript lines line).session =
      ({ s with mode := .normal, input := "" } : Session).print (.error e.message) := by
  rw [nameScript_eq, h, leaveMode]

theorem enter_stores {entries : Entries} (reachable : Reachable s) (live : s.halted = false)
    (naming : s.mode = .naming lines) (folder : s.files.lookup s.cwd = some (.folder entries))
    (free : PlainName (scriptName s.input) ∧ scriptName s.input ∉ entries.names) :
    s.step (.key .enter) = { s with
      files := s.files.put (s.cwd.child (scriptName s.input)) .file (Text.join '\n' lines)
      mode := .normal
      input := ""
      log := s.log.pushRow
        (.success ("Script '" ++ scriptName s.input ++ "' saved successfully.")) } := by
  have saved := Script.save_of_folder folder (scriptName s.input) lines
  rw [if_pos free] at saved
  have pushed := push_around_tidy reachable.maxChars (scriptName_tidy reachable.keepsTidy.line)
    .success "Script '" "' saved successfully." (by decide) (by decide)
  rw [enter_of_naming live naming, nameScript_of_saved (s := { s with input := "" }) saved, print,
    pushed]

theorem enter_discards {entries : Entries} (reachable : Reachable s) (live : s.halted = false)
    (naming : s.mode = .naming lines) (folder : s.files.lookup s.cwd = some (.folder entries))
    (unfit : ¬ (PlainName (scriptName s.input) ∧ scriptName s.input ∉ entries.names)) :
    s.step (.key .enter) = { s with
      mode := .normal
      input := ""
      log := s.log.pushRow (.error ("Error: Invalid name or file '" ++ scriptName s.input ++
        "' already exists. Script discarded.")) } := by
  have saved := Script.save_of_folder folder (scriptName s.input) lines
  rw [if_neg unfit] at saved
  have pushed := push_around_tidy reachable.maxChars (scriptName_tidy reachable.keepsTidy.line)
    .error "Error: Invalid name or file '" "' already exists. Script discarded." (by decide)
    (by decide)
  rw [enter_of_naming live naming, nameScript_of_discarded (s := { s with input := "" }) saved,
    Script.message_discarded, print, pushed]

/-- From every reachable session in the naming mode, with any input, Enter returns to the normal
mode with empty input. The name is the input without the prompt, if it begins with it, and trimmed.
If the name is plain and unused in the working folder, one file with the recorded lines is stored
and one row shows its name. Otherwise the files are unchanged and one row reports the script as
discarded; no other error occurs. -/
theorem naming_stores_or_discards (reachable : Reachable s) (live : s.halted = false)
    (naming : s.mode = .naming lines) :
    let name := scriptName s.input
    let t := s.step (.key .enter)
    (∀ rest, s.input = namePrompt ++ rest → name = Text.trim rest) ∧
      (¬ namePrompt.toList <+: s.input.toList → name = Text.trim s.input) ∧
      t.mode = .normal ∧ t.input = "" ∧
      (∃ entries, s.files.lookup s.cwd = some (.folder entries) ∧
        (PlainName name ∧ name ∉ entries.names →
          t.files.flat = s.files.flat.insert (s.cwd.child name).segments
              (.file (Text.join '\n' lines)) ∧
            t = { s with
              files := t.files
              mode := .normal
              input := ""
              log := s.log.pushRow (.success ("Script '" ++ name ++ "' saved successfully.")) }) ∧
        (¬ (PlainName name ∧ name ∉ entries.names) →
          t = { s with
            mode := .normal
            input := ""
            log := s.log.pushRow (.error ("Error: Invalid name or file '" ++ name ++
              "' already exists. Script discarded.")) })) ∧
      ∀ e, Script.save s.files s.cwd name lines ≠ .error (.file e) := by
  intro name t
  obtain ⟨entries, folder⟩ := reachable.settled.folder
  have prompted : ∀ rest, s.input = namePrompt ++ rest → name = Text.trim rest := by
    intro rest whole
    simp only [name, whole, scriptName_prompted]
  have noOther : ∀ e, Script.save s.files s.cwd name lines ≠ .error (.file e) := by
    intro e failed
    rw [Script.save_of_folder folder] at failed
    split at failed <;> cases failed
  by_cases free : PlainName name ∧ name ∉ entries.names
  · have stored : t = _ := enter_stores reachable live naming folder free
    have flat := FileSystem.flat_put_child folder free.2 .file (Text.join '\n' lines)
    refine ⟨prompted, scriptName_bare, ?_, ?_, ⟨entries, folder, fun _ => ?_, (absurd free ·)⟩,
      noOther⟩
    · rw [stored]
    · rw [stored]
    · rw [stored]
      exact ⟨flat, rfl⟩
  · have discarded : t = _ := enter_discards reachable live naming folder free
    refine ⟨prompted, scriptName_bare, ?_, ?_,
      ⟨entries, folder, (absurd · free), fun _ => discarded⟩, noOther⟩
    · rw [discarded]
    · rw [discarded]

/-- Escape empties the input during a color cycle, and no script is stored without a name; behind
the prompt a free name with blanks around it is accepted. -/
theorem naming_stores_or_discards_cleared :
    let s := (start .empty (.ofWords [7]) "noon").run
      (.command "colorcycle" :: .command "script" :: ["ls", "."].flatMap entering)
    let cleared := s.step (.key .escape)
    let named := s.run (" b ".toList.map fun c => .key (.char c))
    cleared.step (.key .enter) = { cleared with
        mode := .normal
        input := ""
        log := cleared.log.pushRow
          (.error "Error: Invalid name or file '' already exists. Script discarded.") } ∧
      (named.step (.key .enter)).files.flat = named.files.flat.insert ["b"] (.file "ls") := by
  intro s cleared named
  have reachable : Reachable s := (Reachable.start _ _ _).run _
  obtain ⟨live, naming, prompt, cycling, root, nothing⟩ : s.halted = false ∧
      s.mode = .naming ["ls"] ∧ s.input = namePrompt ∧ s.color.isSome = true ∧ s.cwd = .root ∧
      s.files.lookup s.cwd = some (.folder .nil) := by decide +kernel
  clear_value s
  have emptied : cleared = ({ s with color := none, input := "" } : Session).print
      (.info "Colorcycle cancelled") := by
    obtain ⟨cycle, color⟩ := Option.isSome_iff_exists.mp cycling
    have escaped : s.step (.key .escape) = s.escape.session := by rw [step, handleKey_escape live]
    simp only [cleared, escaped, escape, naming, color]
  have whole : named = { s with input := namePrompt ++ " b " } := by
    have listens : s.Listens := ⟨live, by simp [naming]⟩
    have free : Text.ControlFree " b " := by decide
    have room : s.input.length + " b ".toList.length ≤ inputLimit := by
      rw [prompt]
      decide
    have typed := run_chars listens free room
    rwa [String.ofList_toList, prompt] at typed
  have kept : cleared.halted = false ∧ cleared.mode = .naming ["ls"] ∧ cleared.input = "" := by
    rw [emptied]
    exact ⟨live, naming, rfl⟩
  have going : named.halted = false ∧ named.mode = .naming ["ls"] ∧
      named.files.lookup named.cwd = some (.folder .nil) := by
    rw [whole]
    exact ⟨live, naming, nothing⟩
  constructor
  · obtain ⟨-, -, -, -, ⟨_, -, -, discards⟩, -⟩ := naming_stores_or_discards
      (s := cleared) (reachable.step (.key .escape)) kept.1 kept.2.1
    have unnamed : scriptName cleared.input = "" := by
      rw [kept.2.2]
      decide
    have refused : ¬ PlainName "" := by decide
    rw [unnamed] at discards
    exact discards fun h => refused h.1
  · obtain ⟨prompted, -, -, -, ⟨entries, folder, stores, -⟩, -⟩ := naming_stores_or_discards
      (s := named) (reachable.run _) going.1 going.2.1
    have trimmed : Text.trim " b " = "b" := by decide
    have taken : scriptName named.input = "b" := (prompted " b " (by rw [whole])).trans trimmed
    have stored : (named.cwd.child "b").segments = ["b"] := by
      rw [whole]
      exact congrArg (fun p : Path => (p.child "b").segments) root
    cases going.2.2.symm.trans folder
    rw [taken, stored] at stores
    exact (stores ⟨by decide, List.not_mem_nil⟩).1

end Session
end VirtualTerminal
