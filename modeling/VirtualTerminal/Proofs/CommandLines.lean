import Mathlib.Logic.Relation
import VirtualTerminal.Command
import VirtualTerminal.Proofs.TextLaws

/-! # Command lines

Every command in normal form is parsed from its own line, and every parsed command is in normal
form. Blanks around a line, the case of its first word and the blanks between the words of a file
command do not affect the result. -/
namespace VirtualTerminal

namespace Text

variable {word rest text : String}

theorem IsWord.named (h : IsWord word) : word.toList ≠ [] := by simpa using h.1

theorem IsWord.solid_append (h : IsWord word)
    (last : ∀ c ∈ rest.toList.getLast?, isBlank c = false) : Solid (word ++ rest).toList := by
  rw [String.toList_append]
  by_cases bare : rest.toList = []
  · rw [bare, List.append_nil]
    exact solid_of_forall h.2
  · exact .append h.named (solid_of_forall h.2).head bare last

theorem IsWord.cut_append (h : IsWord word) (ends : ∀ c ∈ rest.toList.head?, isBlank c = true) :
    cutAtBlank (word ++ rest) = (word, String.ofList (rest.toList.drop 1)) := by
  have solid : ∀ c ∈ word.toList, (!isBlank c) = true := fun c hc => by simp [h.2 c hc]
  rw [cutAtBlank, String.toList_append, List.takeWhile_append_of_pos solid,
    List.dropWhile_append_of_pos solid]
  cases hr : rest.toList with
  | nil => simp
  | cons c cs =>
    have stop : (!isBlank c) = false := by simp [ends c (by rw [hr]; rfl)]
    simp [stop]

theorem IsWord.words_append (h : IsWord word)
    (ends : ∀ c ∈ rest.toList.head?, isBlank c = true) :
    words (word ++ rest) = word :: words rest := by
  rw [words, String.toList_append, wordChars_append h.named h.2 ends, List.map_cons,
    String.ofList_toList, words]

theorem behind_space (text : String) : String.ofList ((" " ++ text).toList.drop 1) = text := by
  have chars : (" " ++ text).toList = ' ' :: text.toList := by simp
  rw [chars, List.drop_succ_cons, List.drop_zero, String.ofList_toList]

def withText (word text : String) : String := if text = "" then word else word ++ " " ++ text

theorem withText_spec (word text : String) :
    ∃ rest : String, withText word text = word ++ rest ∧
      String.ofList (rest.toList.drop 1) = text ∧ words rest = words text ∧
      (∀ c ∈ rest.toList.head?, isBlank c = true) ∧
      ((∀ c ∈ text.toList.getLast?, isBlank c = false) →
        ∀ c ∈ rest.toList.getLast?, isBlank c = false) := by
  by_cases bare : text = ""
  · subst bare
    exact ⟨"", by simp [withText], rfl, rfl, nofun, nofun⟩
  · have space : isBlank ' ' = true := by decide
    have blank : Blank " ".toList := by simp [Blank, space]
    refine ⟨" " ++ text, ?_, behind_space text, words_blank_append blank text, ?_, fun last => ?_⟩
    · simp [withText, bare, String.append_assoc]
    · simp [space]
    · have filled : text.toList ≠ [] := by simpa using bare
      rwa [String.toList_append, List.getLast?_append_of_ne_nil _ filled]

theorem IsWord.withText_ne (h : IsWord word) : withText word text ≠ "" := by
  obtain ⟨rest, whole, -⟩ := withText_spec word text
  rw [whole]
  exact fun nothing => h.1 (String.append_eq_empty_iff.mp nothing).1

theorem IsWord.solid_withText (h : IsWord word)
    (last : ∀ c ∈ text.toList.getLast?, isBlank c = false) : Solid (withText word text).toList := by
  obtain ⟨rest, whole, -, -, -, ends⟩ := withText_spec word text
  rw [whole]
  exact h.solid_append (ends last)

theorem IsWord.cut_withText (h : IsWord word) : cutAtBlank (withText word text) = (word, text) := by
  obtain ⟨rest, whole, behind, -, blank, -⟩ := withText_spec word text
  rw [whole, h.cut_append blank, behind]

theorem IsWord.words_withText (h : IsWord word) :
    words (withText word text) = word :: words text := by
  obtain ⟨rest, whole, -, same, blank, -⟩ := withText_spec word text
  rw [whole, h.words_append blank, same]

theorem withText_script (name : String) :
    withText "script run" name = withText "script" (withText "run" name) := by
  have run : IsWord "run" := by decide
  have outer : withText "script" (withText "run" name) = "script" ++ " " ++ withText "run" name :=
    if_neg run.withText_ne
  rw [outer, ← String.toList_inj]
  by_cases bare : name = "" <;> simp [withText, bare]

end Text

namespace Command

/-- The command for the text behind the word `script`, if it is known. -/
def knownScript? (rest : String) : Option Command :=
  if Text.trim rest = "" then some .script
  else
    let (sub, name) := Text.cutAtBlank (Text.trim rest)
    if Text.sameButCase sub "run" then some (.scriptRun (Text.trim name)) else none

/-- The command for a lower-case word and the text behind it, if it is known. -/
def known? (word rest : String) : Option Command :=
  match Builtin.ofWord? word, FileVerb.ofWord? word with
  | some b, _ => if rest = "" then some (.builtin b) else none
  | none, some verb => some (.file verb (Text.spaced rest))
  | none, none =>
    if word = "echo" then some (.echo rest)
    else if word = "reverse" ∧ rest ≠ "" then some (.reverse rest)
    else if word = "script" then knownScript? rest
    else none

def understood? (line : String) : Option Command :=
  if Text.trim line = "" then some .empty
  else
    let (first, rest) := Text.cutAtBlank (Text.trim line)
    known? (Text.lower first) rest

theorem parseScript_eq (line rest : String) :
    parseScript line rest = (knownScript? rest).getD (.unknown line) := by
  simp only [parseScript, knownScript?]
  split
  · rfl
  · split <;> rfl

theorem parseTrimmed_eq (line : String) :
    parseTrimmed line = (known? (Text.lower (Text.cutAtBlank line).1)
      (Text.cutAtBlank line).2).getD (.unknown line) := by
  generalize cut : Text.cutAtBlank line = parts
  obtain ⟨first, rest⟩ := parts
  simp only [parseTrimmed, cut, known?]
  cases Builtin.ofWord? (Text.lower first) with
  | some b =>
    dsimp only
    split <;> rfl
  | none =>
    cases FileVerb.ofWord? (Text.lower first) with
    | some verb => rfl
    | none =>
      dsimp only
      split
      · rfl
      · split
        · rfl
        · split
          · exact parseScript_eq line rest
          · rfl

theorem understood?_of_written {line : String} (written : Text.trim line ≠ "") :
    understood? line = known? (Text.lower (Text.cutAtBlank (Text.trim line)).1)
      (Text.cutAtBlank (Text.trim line)).2 := by
  simp only [understood?, if_neg written]

/-- Parsing yields the known command of a line, or else the trimmed line as unknown. -/
theorem parse_eq (line : String) :
    parse line = (understood? line).getD (.unknown (Text.trim line)) := by
  by_cases blank : Text.trim line = ""
  · simp only [parse, understood?, if_pos blank, Option.getD_some]
  · rw [understood?_of_written blank, ← parseTrimmed_eq]
    simp only [parse, if_neg blank]

theorem understood?_trim (line : String) : understood? (Text.trim line) = understood? line := by
  simp only [understood?, Text.trim_trim]

theorem parse_trim (line : String) : parse (Text.trim line) = parse line := by
  simp only [parse, Text.trim_trim]

theorem parse_of_understood? {line : String} {c : Command} (h : understood? line = some c) :
    parse line = c := by
  rw [parse_eq, h, Option.getD_some]

theorem understood?_append {word rest after : String} (h : Text.IsWord word)
    (ends : ∀ c ∈ rest.toList.head?, Text.isBlank c = true)
    (last : ∀ c ∈ rest.toList.getLast?, Text.isBlank c = false) (ha : Text.Blank after.toList) :
    understood? (word ++ rest ++ after) =
      known? (Text.lower word) (String.ofList (rest.toList.drop 1)) := by
  have trimmed : Text.trim (word ++ rest ++ after) = word ++ rest := by
    have around := @Text.trim_between "" (word ++ rest) after nofun (h.solid_append last) ha
    rwa [String.empty_append] at around
  have written : Text.trim (word ++ rest ++ after) ≠ "" := by
    rw [trimmed]
    exact fun nothing => h.1 (String.append_eq_empty_iff.mp nothing).1
  rw [understood?_of_written written, trimmed, h.cut_append ends]

def Keyword (word : String) : Prop := Text.IsWord word ∧ Text.lower word = word

instance (word : String) : Decidable (Keyword word) := by unfold Keyword; infer_instance

theorem keyword_builtin (b : Builtin) : Keyword b.word := by cases b <;> decide +kernel

theorem keyword_file (verb : FileVerb) : Keyword verb.word := by cases verb <;> decide +kernel

theorem understood?_withText {word text : String} (h : Keyword word)
    (last : ∀ c ∈ text.toList.getLast?, Text.isBlank c = false) :
    understood? (Text.withText word text) = known? word text := by
  have trimmed := Text.trim_of_solid (h.1.solid_withText last)
  have written : Text.trim (Text.withText word text) ≠ "" := by
    rw [trimmed]
    exact h.1.withText_ne
  rw [understood?_of_written written, trimmed, h.1.cut_withText, h.2]

theorem understood?_word {word : String} (h : Keyword word) :
    understood? word = known? word "" := by
  have alone := @understood?_withText word "" h (by simp)
  rwa [Text.withText, if_pos rfl] at alone

theorem known?_builtin (b : Builtin) : known? b.word "" = some (.builtin b) := by
  have builtin : Builtin.ofWord? b.word = some b := by cases b <;> decide
  simp only [known?, builtin, if_true]

theorem known?_file (verb : FileVerb) (rest : String) :
    known? verb.word rest = some (.file verb (Text.spaced rest)) := by
  have builtin : Builtin.ofWord? verb.word = none := by cases verb <;> decide
  have file : FileVerb.ofWord? verb.word = some verb := by cases verb <;> decide
  simp only [known?, builtin, file]

theorem known?_echo (rest : String) : known? "echo" rest = some (.echo rest) := by
  have builtin : Builtin.ofWord? "echo" = none := by decide
  have file : FileVerb.ofWord? "echo" = none := by decide
  simp only [known?, builtin, file, if_true]

theorem known?_reverse {rest : String} (written : rest ≠ "") :
    known? "reverse" rest = some (.reverse rest) := by
  have builtin : Builtin.ofWord? "reverse" = none := by decide
  have file : FileVerb.ofWord? "reverse" = none := by decide
  have echo : ¬ "reverse" = "echo" := by decide
  have reverse : True ∧ rest ≠ "" := ⟨True.intro, written⟩
  simp only [known?, builtin, file, if_neg echo, if_pos reverse]

theorem known?_script (rest : String) : known? "script" rest = knownScript? rest := by
  have builtin : Builtin.ofWord? "script" = none := by decide
  have file : FileVerb.ofWord? "script" = none := by decide
  have echo : ¬ "script" = "echo" := by decide
  have reverse : ¬ ("script" = "reverse" ∧ rest ≠ "") := by simp
  simp only [known?, builtin, file, if_neg echo, if_neg reverse, if_true]

theorem knownScript?_run {rest : String} (ends : ∀ c ∈ rest.toList.head?, Text.isBlank c = true)
    (last : ∀ c ∈ rest.toList.getLast?, Text.isBlank c = false) :
    knownScript? ("run" ++ rest) =
      some (.scriptRun (Text.trim (String.ofList (rest.toList.drop 1)))) := by
  have run : Text.IsWord "run" := by decide
  have trimmed := Text.trim_of_solid (run.solid_append last)
  have written : "run" ++ rest ≠ "" := by simp
  have word : Text.sameButCase "run" "run" = true := by decide
  simp only [knownScript?, trimmed, if_neg written, run.cut_append ends, word, if_true]

/-- A file command is its verb in any case, followed by its words. -/
theorem understood?_of_words {line first : String} {rest : List String} {verb : FileVerb}
    (words : Text.words line = first :: rest) (lower : Text.lower first = verb.word) :
    understood? line = some (.file verb (Text.join ' ' rest)) := by
  have written : Text.trim line ≠ "" := by
    intro nothing
    rw [← Text.words_trim, nothing] at words
    cases words
  have split := Text.words_eq_cutAtBlank written (Text.solid_trim line).head
  rw [Text.words_trim, words] at split
  obtain ⟨here, behind⟩ := List.cons.inj split
  rw [understood?_of_written written, ← here, lower, known?_file, Text.spaced, ← behind]

/-- The line of a command: its word and, behind one space, its text if it has one. -/
def toLine : Command → String
  | .builtin b => b.word
  | .echo text => Text.withText "echo" text
  | .reverse text => Text.withText "reverse" text
  | .script => "script"
  | .scriptRun name => Text.withText "script run" name
  | .file verb operand => Text.withText verb.word operand
  | .empty => ""
  | .unknown line => line

def Canonical : Command → Prop
  | .echo text => Text.trimEnd text = text
  | .reverse text => Text.trimEnd text = text ∧ text ≠ ""
  | .scriptRun name => Text.trim name = name
  | .file _ operand => ∃ words, (∀ word ∈ words, Text.IsWord word) ∧ operand = Text.join ' ' words
  | .unknown line => Text.trim line = line ∧ line ≠ ""
  | .builtin _ | .script | .empty => True

/-- Known commands are in normal form and differ from unknown lines. -/
theorem canonical_of_known? {word rest : String} (last : Text.trimEnd rest = rest) {c : Command}
    (h : known? word rest = some c) : c.Canonical ∧ ∀ line, c ≠ .unknown line := by
  simp only [known?] at h
  split at h
  · split at h <;> cases h
    exact ⟨True.intro, nofun⟩
  · cases h
    exact ⟨⟨Text.words rest, fun _ hw => Text.isWord_of_mem_words hw, rfl⟩, nofun⟩
  · split at h
    · cases h
      exact ⟨last, nofun⟩
    · split at h
      · next reverse =>
        cases h
        exact ⟨⟨last, reverse.2⟩, nofun⟩
      · split at h
        · simp only [knownScript?] at h
          split at h
          · cases h
            exact ⟨True.intro, nofun⟩
          · split at h <;> cases h
            exact ⟨Text.trim_trim _, nofun⟩
        · cases h

theorem canonical_of_understood? {line : String} {c : Command} (h : understood? line = some c) :
    c.Canonical ∧ ∀ text, c ≠ .unknown text := by
  by_cases blank : Text.trim line = ""
  · simp only [understood?, if_pos blank, Option.some.injEq] at h
    subst h
    exact ⟨True.intro, nofun⟩
  · have ends := Text.getLast?_cutAtBlank (Text.solid_trim line).last
    rw [understood?_of_written blank] at h
    exact canonical_of_known? (Text.trimEnd_eq_self_iff.mpr ends) h

theorem written_of_unknown {line : String} (h : understood? line = none) : Text.trim line ≠ "" := by
  intro blank
  simp only [understood?, if_pos blank] at h
  cases h

theorem canonical_parse (line : String) : (parse line).Canonical := by
  rw [parse_eq]
  cases reading : understood? line with
  | none => exact ⟨Text.trim_trim line, written_of_unknown reading⟩
  | some c => exact (canonical_of_understood? reading).1

theorem understood?_toLine {c : Command} (canonical : c.Canonical)
    (named : ∀ line, c ≠ .unknown line) : understood? c.toLine = some c := by
  cases c with
  | empty => decide
  | unknown line => exact absurd rfl (named line)
  | builtin b => rw [toLine, understood?_word (keyword_builtin b), known?_builtin]
  | script =>
    rw [toLine, understood?_word (by decide +kernel), known?_script]
    decide
  | echo text =>
    have last := Text.trimEnd_eq_self_iff.mp canonical
    rw [toLine, understood?_withText (by decide +kernel) last, known?_echo]
  | reverse text =>
    have last := Text.trimEnd_eq_self_iff.mp canonical.1
    rw [toLine, understood?_withText (by decide +kernel) last, known?_reverse canonical.2]
  | scriptRun name =>
    have trimmed : Text.trim name = name := canonical
    have run : Text.IsWord "run" := by decide
    have solid := run.solid_withText (trimmed ▸ Text.solid_trim name).last
    obtain ⟨rest, whole, behind, -, blank, last⟩ := Text.withText_spec "run" name
    rw [toLine, Text.withText_script, understood?_withText (by decide +kernel) solid.last,
      known?_script, whole, knownScript?_run blank (last (trimmed ▸ Text.solid_trim name).last),
      behind, trimmed]
  | file verb operand =>
    obtain ⟨words, hw, rfl⟩ := canonical
    have word := keyword_file verb
    have split : Text.words (toLine (.file verb (Text.join ' ' words))) = verb.word :: words := by
      rw [toLine, word.1.words_withText, Text.words_join hw]
    exact understood?_of_words split word.2

/-- Two lines that differ in the blanks around them, in a first word that is the same in lower case,
or, for a file command, in the blanks around its words. -/
inductive Alike : String → String → Prop
  | around (line : String) {before after before' after' : String}
    (hb : Text.Blank before.toList) (ha : Text.Blank after.toList)
    (hb' : Text.Blank before'.toList) (ha' : Text.Blank after'.toList) :
    Alike (before ++ line ++ after) (before' ++ line ++ after')
  | firstWord {word word' : String} (rest : String)
    (hw : Text.IsWord word) (hw' : Text.IsWord word') (same : Text.lower word = Text.lower word')
    (ends : ∀ c ∈ rest.toList.head?, Text.isBlank c = true) : Alike (word ++ rest) (word' ++ rest)
  | fileWords (verb : FileVerb) {line line' word : String} {rest : List String}
    (words : Text.words line = word :: rest) (words' : Text.words line' = word :: rest)
    (lower : Text.lower word = verb.word) : Alike line line'

theorem understood?_around {before after : String} (hb : Text.Blank before.toList)
    (ha : Text.Blank after.toList) (line : String) :
    understood? (before ++ line ++ after) = understood? line := by
  rw [← understood?_trim, Text.trim_surrounded hb ha, understood?_trim]

theorem understood?_firstWord {word word' rest : String} (hw : Text.IsWord word)
    (hw' : Text.IsWord word') (same : Text.lower word = Text.lower word')
    (ends : ∀ c ∈ rest.toList.head?, Text.isBlank c = true) :
    understood? (word ++ rest) = understood? (word' ++ rest) := by
  obtain ⟨kept, after, rfl, blank, last⟩ := Text.exists_blank_end rest
  have first : ∀ c ∈ kept.toList.head?, Text.isBlank c = true := by
    intro c hc
    apply ends c
    rw [String.toList_append, List.head?_append, hc]
    rfl
  rw [← String.append_assoc, ← String.append_assoc, understood?_append hw first last blank,
    understood?_append hw' first last blank, same]

theorem Alike.understood {line line' : String} (h : Alike line line') :
    understood? line = understood? line' := by
  cases h with
  | around line hb ha hb' ha' => rw [understood?_around hb ha, understood?_around hb' ha']
  | firstWord rest hw hw' same ends => exact understood?_firstWord hw hw' same ends
  | fileWords verb words words' lower =>
    rw [understood?_of_words words lower, understood?_of_words words' lower]

theorem understood?_of_eqvGen {line line' : String} (h : Relation.EqvGen Alike line line') :
    understood? line = understood? line' := by
  induction h with
  | rel line line' alike => exact alike.understood
  | refl line => rfl
  | symm line line' _ ih => exact ih.symm
  | trans line line' line'' _ _ ih ih' => exact ih.trans ih'

/-- Every parsed command has a line that parses to it again. It is in normal form, and every command
in normal form, except an unknown one, is parsed from its own line. Lines that differ, any number of
times, in blanks or in the case of the first word parse to the same command, or both are unknown and
are trimmed. -/
theorem lines_read_back :
    (∀ line, parse (parse line).toLine = parse line) ∧
      (∀ line, (parse line).Canonical) ∧
      (∀ c : Command, c.Canonical → (∀ line, c ≠ .unknown line) → parse c.toLine = c) ∧
      ∀ line line', Relation.EqvGen Alike line line' →
        parse line = parse line' ∨
          parse line = .unknown (Text.trim line) ∧ parse line' = .unknown (Text.trim line') := by
  have known {c : Command} (canonical : c.Canonical) (named : ∀ line, c ≠ .unknown line) :
      parse c.toLine = c := parse_of_understood? (understood?_toLine canonical named)
  refine ⟨fun line => ?_, canonical_parse, fun c => known, fun line line' alike => ?_⟩
  · cases reading : understood? line with
    | none =>
      have unknown : parse line = .unknown (Text.trim line) := by
        rw [parse_eq, reading, Option.getD_none]
      rw [unknown, toLine, parse_trim, unknown]
    | some c =>
      obtain ⟨canonical, named⟩ := canonical_of_understood? reading
      rw [parse_of_understood? reading, known canonical named]
  · have same := understood?_of_eqvGen alike
    cases reading : understood? line with
    | none =>
      right
      rw [parse_eq, parse_eq, ← same, reading]
      exact ⟨rfl, rfl⟩
    | some c =>
      left
      rw [parse_of_understood? reading, parse_of_understood? (same ▸ reading)]

/-- Blanks inside the name of a script and inside a line that is not known stay as they are. -/
example : parse "\tScript  RUN  a  b " = .scriptRun "a  b" ∧
    parse " FOO \u2003 x " = .unknown "FOO \u2003 x" := by decide +kernel

end Command
end VirtualTerminal
