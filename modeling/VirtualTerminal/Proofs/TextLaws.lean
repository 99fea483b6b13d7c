import Mathlib.Data.List.DropRight
import VirtualTerminal.Text.Blank
import VirtualTerminal.Text.Split

/-! # Laws of texts

Splitting inverts joining when no piece contains the separator. Trimming removes exactly the blanks
at both ends. The words of words joined by single spaces are these words. -/
namespace VirtualTerminal.Text

theorem splitChars_eq_splitOn (sep : Char) (cs : List Char) :
    splitChars sep cs = cs.splitOn sep := by
  induction cs with
  | nil => simp [splitChars]
  | cons c cs ih =>
    rw [splitChars, List.splitOn_cons_eq_if_modifyHead, ih]
    simp only [beq_iff_eq]
    split
    · rfl
    · cases h : cs.splitOn sep with
      | nil => exact absurd h (List.splitOn_ne_nil sep cs)
      | cons p ps => rfl

theorem joinChars_eq_intercalate (sep : Char) (ps : List (List Char)) :
    joinChars sep ps = [sep].intercalate ps := by
  induction ps with
  | nil => rfl
  | cons p rest ih =>
    cases rest with
    | nil => simp [joinChars]
    | cons q more => simp [joinChars, ih, List.intercalate_cons_cons]

theorem not_mem_of_mem_splitChars {sep : Char} {cs p : List Char} (h : p ∈ splitChars sep cs) :
    sep ∉ p := by
  induction cs generalizing p with
  | nil =>
    simp only [splitChars, List.mem_singleton] at h
    simp [h]
  | cons c cs ih =>
    simp only [splitChars] at h
    split at h
    · rcases List.mem_cons.mp h with rfl | h
      · simp
      · exact ih h
    · next differ =>
      split at h
      · simp only [List.mem_singleton] at h
        simp [h, Ne.symm differ]
      · next first rest pieces =>
        rcases List.mem_cons.mp h with rfl | h
        · have free : sep ∉ first := ih (by simp [pieces])
          simp [free, Ne.symm differ]
        · exact ih (by simp [pieces, h])

theorem not_mem_of_mem_split {sep : Char} {s p : String} (h : p ∈ split sep s) :
    sep ∉ p.toList := by
  obtain ⟨cs, hcs, rfl⟩ := List.mem_map.mp h
  rw [String.toList_ofList]
  exact not_mem_of_mem_splitChars hcs

theorem sublist_of_mem_splitChars {sep : Char} {cs p : List Char} (h : p ∈ splitChars sep cs) :
    p.Sublist cs := by
  induction cs generalizing p with
  | nil =>
    simp only [splitChars, List.mem_singleton] at h
    simp [h]
  | cons c cs ih =>
    simp only [splitChars] at h
    split at h
    · rcases List.mem_cons.mp h with rfl | h
      · exact List.nil_sublist _
      · exact (ih h).cons c
    · split at h
      · simp only [List.mem_singleton] at h
        simp [h]
      · next first rest pieces =>
        rcases List.mem_cons.mp h with rfl | h
        · exact (ih (by simp [pieces])).cons_cons c
        · exact (ih (by simp [pieces, h])).cons c

theorem sublist_of_mem_split {sep : Char} {s p : String} (h : p ∈ split sep s) :
    p.toList.Sublist s.toList := by
  obtain ⟨cs, hcs, rfl⟩ := List.mem_map.mp h
  rw [String.toList_ofList]
  exact sublist_of_mem_splitChars hcs

theorem split_of_not_mem {sep : Char} {s : String} (h : sep ∉ s.toList) : split sep s = [s] := by
  rw [split, splitChars_eq_splitOn, List.splitOn_eq_singleton h]
  simp

theorem split_singleton_append (sep : Char) (s : String) :
    split sep (String.singleton sep ++ s) = "" :: split sep s := by
  have chars : (String.singleton sep ++ s).toList = sep :: s.toList := by simp
  rw [split, chars, splitChars, if_pos rfl, List.map_cons, ← split]

theorem splitChars_append (sep : Char) (cs ds : List Char) :
    splitChars sep (cs ++ sep :: ds) = splitChars sep cs ++ splitChars sep ds := by
  rw [splitChars_eq_splitOn, splitChars_eq_splitOn, splitChars_eq_splitOn,
    List.splitOn_append_cons_self]

theorem split_append (sep : Char) (s t : String) :
    split sep (s ++ String.singleton sep ++ t) = split sep s ++ split sep t := by
  have chars : (s ++ String.singleton sep ++ t).toList = s.toList ++ sep :: t.toList := by simp
  rw [split, split, split, chars, splitChars_append, List.map_append]

theorem length_splitChars (sep : Char) (cs : List Char) :
    (splitChars sep cs).length = cs.count sep + 1 := by
  induction cs with
  | nil => rfl
  | cons c cs ih =>
    rw [splitChars]
    split
    · next same => rw [same, List.count_cons_self, List.length_cons, ih]
    · next differ =>
      rw [List.count_cons_of_ne differ]
      cases pieces : splitChars sep cs with
      | nil => simp [pieces] at ih
      | cons p ps => rwa [pieces] at ih

theorem getLast?_splitChars (sep : Char) (cs : List Char) :
    (splitChars sep cs).getLast? = some (cs.rtakeWhile fun c => c ≠ sep) := by
  have whole : splitChars sep (cs.rtakeWhile fun c => c ≠ sep) =
      [cs.rtakeWhile fun c => c ≠ sep] := by
    rw [splitChars_eq_splitOn, List.splitOn_eq_singleton]
    intro inside
    simpa using List.mem_rtakeWhile_imp inside
  have parts := List.rdropWhile_append_rtakeWhile (p := fun c => c ≠ sep) (l := cs)
  rcases List.eq_nil_or_concat' (cs.rdropWhile fun c => c ≠ sep) with none | ⟨before, last, more⟩
  · rw [none, List.nil_append] at parts
    rw [parts] at whole ⊢
    rw [whole, List.getLast?_singleton]
  · have ended : last = sep := by
      have stopped := List.rdropWhile_last_not (fun c => c ≠ sep) cs (by rw [more]; simp)
      simp only [more, List.getLast_concat] at stopped
      simpa using stopped
    rw [more, ended, List.append_assoc, List.singleton_append] at parts
    conv_lhs => rw [← parts]
    rw [splitChars_append, whole, List.getLast?_concat]

/-- A piece ended by a separator is preceded by as many pieces as separators. -/
theorem getElem?_splitChars {sep : Char} {cs : List Char} {k : Nat} (h : cs[k]? = some sep) :
    (splitChars sep cs)[(cs.take k).count sep]? =
      some ((cs.take k).rtakeWhile fun c => c ≠ sep) := by
  obtain ⟨within, here⟩ := List.getElem?_eq_some_iff.mp h
  have parts : cs.take k ++ sep :: cs.drop (k + 1) = cs := by
    rw [← here, List.getElem_cons_drop, List.take_append_drop]
  have pieces := splitChars_append sep (cs.take k) (cs.drop (k + 1))
  rw [parts] at pieces
  have counted := length_splitChars sep (cs.take k)
  rw [pieces, List.getElem?_append_left (by omega), ← getLast?_splitChars,
    List.getLast?_eq_getElem?, counted, Nat.add_sub_cancel]

theorem split_join {sep : Char} {ps : List String} (hn : ps ≠ [])
    (h : ∀ p ∈ ps, sep ∉ p.toList) : split sep (join sep ps) = ps := by
  have free : ∀ cs ∈ ps.map String.toList, sep ∉ cs := by
    intro cs hcs
    obtain ⟨p, hp, rfl⟩ := List.mem_map.mp hcs
    exact h p hp
  rw [split, join, String.toList_ofList, splitChars_eq_splitOn, joinChars_eq_intercalate,
    List.splitOn_intercalate sep free (by simpa using hn)]
  simp [Function.comp_def]

def Blank (cs : List Char) : Prop := ∀ c ∈ cs, isBlank c = true

structure Solid (cs : List Char) : Prop where
  head : ∀ c ∈ cs.head?, isBlank c = false
  last : ∀ c ∈ cs.getLast?, isBlank c = false

theorem solid_of_forall {cs : List Char} (h : ∀ c ∈ cs, isBlank c = false) : Solid cs :=
  ⟨fun c hc => h c (List.mem_of_mem_head? hc), fun c hc => h c (List.mem_of_getLast? hc)⟩

def trimChars (cs : List Char) : List Char := trimEndChars (trimStartChars cs)

theorem trim_eq (s : String) : trim s = String.ofList (trimChars s.toList) := rfl

theorem dropWhile_of_head {cs : List Char} (h : ∀ c ∈ cs.head?, isBlank c = false) :
    cs.dropWhile isBlank = cs := by
  cases cs with
  | nil => rfl
  | cons c cs => simp [h c rfl]

theorem trimChars_of_solid {before cs after : List Char} (hb : Blank before) (hc : Solid cs)
    (ha : Blank after) : trimChars (before ++ cs ++ after) = cs := by
  have start : trimStartChars (before ++ cs ++ after) = (cs ++ after).dropWhile isBlank := by
    rw [trimStartChars, List.append_assoc, List.dropWhile_append_of_pos hb]
  rw [trimChars, start]
  cases cs with
  | nil =>
    have gone : after.dropWhile isBlank = [] := List.dropWhile_eq_nil_iff.mpr ha
    simp [gone, trimEndChars]
  | cons c cs =>
    have kept : (c :: cs ++ after).dropWhile isBlank = c :: cs ++ after :=
      dropWhile_of_head (by simpa using hc.head)
    have blank : ∀ c ∈ after.reverse, isBlank c = true := fun c hc => ha c (List.mem_reverse.mp hc)
    have last : ((c :: cs).reverse).dropWhile isBlank = (c :: cs).reverse := by
      apply dropWhile_of_head
      rw [List.head?_reverse]
      exact hc.last
    rw [kept, trimEndChars, List.reverse_append, List.dropWhile_append_of_pos blank, last,
      List.reverse_reverse]

theorem solid_trimChars (cs : List Char) : Solid (trimChars cs) := by
  constructor
  · intro c hc
    obtain ⟨after, whole⟩ : trimChars cs <+: trimStartChars cs := List.rdropWhile_prefix isBlank _
    have first : (trimStartChars cs).head? = some c := by
      rw [← whole, List.head?_append, hc, Option.some_or]
    have known := List.head?_dropWhile_not isBlank cs
    rw [← trimStartChars, first] at known
    exact known
  · intro c hc
    have known := List.head?_dropWhile_not isBlank (trimStartChars cs).reverse
    have last : ((trimStartChars cs).reverse.dropWhile isBlank).head? = some c := by
      simpa [trimChars, trimEndChars] using hc
    rw [last] at known
    exact known

theorem trimChars_spec (cs : List Char) :
    ∃ before after, Blank before ∧ Blank after ∧ cs = before ++ trimChars cs ++ after := by
  have inner := List.takeWhile_append_dropWhile (p := isBlank) (l := (trimStartChars cs).reverse)
  refine ⟨cs.takeWhile isBlank, ((trimStartChars cs).reverse.takeWhile isBlank).reverse, ?_, ?_, ?_⟩
  · intro c hc
    exact List.mem_takeWhile_imp hc
  · intro c hc
    exact List.mem_takeWhile_imp (List.mem_reverse.mp hc)
  · have outer : cs = cs.takeWhile isBlank ++ trimStartChars cs :=
      List.takeWhile_append_dropWhile.symm
    have reversed := congrArg List.reverse inner
    rw [List.reverse_append, List.reverse_reverse] at reversed
    rw [List.append_assoc, trimChars, trimEndChars, reversed]
    exact outer

theorem solid_trim (s : String) : Solid (trim s).toList := by
  rw [trim_eq, String.toList_ofList]
  exact solid_trimChars s.toList

theorem trim_between {before s after : String} (hb : Blank before.toList) (hs : Solid s.toList)
    (ha : Blank after.toList) : trim (before ++ s ++ after) = s := by
  rw [trim_eq, String.toList_append, String.toList_append, trimChars_of_solid hb hs ha,
    String.ofList_toList]

/-- Blanks around a text do not change its trimmed form. -/
theorem trim_surrounded {before after : String} (hb : Blank before.toList)
    (ha : Blank after.toList) (s : String) : trim (before ++ s ++ after) = trim s := by
  obtain ⟨left, right, hl, hr, whole⟩ := trimChars_spec s.toList
  have around : (before ++ s ++ after).toList =
      (before.toList ++ left) ++ trimChars s.toList ++ (right ++ after.toList) := by
    rw [String.toList_append, String.toList_append]
    conv_lhs => rw [whole]
    simp
  rw [trim_eq, around, trimChars_of_solid _ (solid_trimChars _) _, trim_eq]
  · exact List.forall_mem_append.mpr ⟨hb, hl⟩
  · exact List.forall_mem_append.mpr ⟨hr, ha⟩

theorem trim_of_solid {s : String} (h : Solid s.toList) : trim s = s := by
  have same : trim ("" ++ s ++ "") = s := trim_between nofun h nofun
  rwa [String.empty_append, String.append_empty] at same

theorem trim_trim (s : String) : trim (trim s) = trim s := trim_of_solid (solid_trim s)

theorem Solid.append {cs ds : List Char} (hc : cs ≠ []) (head : ∀ c ∈ cs.head?, isBlank c = false)
    (hd : ds ≠ []) (last : ∀ c ∈ ds.getLast?, isBlank c = false) : Solid (cs ++ ds) := by
  constructor
  · rwa [List.head?_append_of_ne_nil cs hc]
  · rwa [List.getLast?_append_of_ne_nil cs hd]

theorem mem_of_mem_trim {c : Char} {s : String} (h : c ∈ (trim s).toList) : c ∈ s.toList := by
  obtain ⟨before, after, -, -, whole⟩ := trimChars_spec s.toList
  rw [trim_eq, String.toList_ofList] at h
  rw [whole]
  simp [h]

theorem length_trim_le (s : String) : (trim s).length ≤ s.length := by
  obtain ⟨before, after, -, -, whole⟩ := trimChars_spec s.toList
  have sum := congrArg List.length whole
  rw [List.length_append, List.length_append, String.length_toList] at sum
  rw [trim_eq, String.length_ofList]
  omega

theorem trimEnd_eq_self_iff {s : String} :
    trimEnd s = s ↔ ∀ c ∈ s.toList.getLast?, isBlank c = false := by
  rw [trimEnd, ← String.toList_inj, String.toList_ofList]
  constructor
  · intro same c hc
    have known := List.head?_dropWhile_not isBlank s.toList.reverse
    rw [← same, trimEndChars, List.getLast?_reverse] at hc
    rw [hc] at known
    simpa using known
  · intro last
    rw [trimEndChars, dropWhile_of_head, List.reverse_reverse]
    rwa [List.head?_reverse]

theorem exists_blank_end (s : String) :
    ∃ kept after : String, s = kept ++ after ∧ Blank after.toList ∧
      ∀ c ∈ kept.toList.getLast?, isBlank c = false := by
  have chars (cs : List Char) : ∃ kept after, cs = kept ++ after ∧ Blank after ∧
      ∀ c ∈ kept.getLast?, isBlank c = false := by
    induction cs using List.reverseRecOn with
    | nil => exact ⟨[], [], rfl, nofun, nofun⟩
    | append_singleton cs c ih =>
      by_cases blank : isBlank c = true
      · obtain ⟨kept, after, rfl, trailing, last⟩ := ih
        refine ⟨kept, after ++ [c], List.append_assoc kept after [c], ?_, last⟩
        intro d hd
        rcases List.mem_append.mp hd with hd | hd
        · exact trailing d hd
        · rwa [List.mem_singleton.mp hd]
      · exact ⟨cs ++ [c], [], (List.append_nil _).symm, nofun, by simpa using blank⟩
  obtain ⟨kept, after, whole, trailing, last⟩ := chars s.toList
  refine ⟨.ofList kept, .ofList after, ?_, by simpa using trailing, by simpa using last⟩
  rw [← String.ofList_append, ← whole, String.ofList_toList]

theorem getLast?_cutAtBlank {s : String} (last : ∀ c ∈ s.toList.getLast?, isBlank c = false) :
    ∀ c ∈ (cutAtBlank s).2.toList.getLast?, isBlank c = false := by
  intro c hc
  apply last c
  have suffix : (cutAtBlank s).2.toList <:+ s.toList := by
    rw [cutAtBlank, String.toList_ofList]
    exact (List.drop_suffix _ _).trans (List.dropWhile_suffix _)
  obtain ⟨before, whole⟩ := suffix
  rw [← whole, List.getLast?_append, hc]
  rfl

/-- A word as splitting at blanks gives it. -/
def IsWord (s : String) : Prop := s ≠ "" ∧ ∀ c ∈ s.toList, isBlank c = false

instance (s : String) : Decidable (IsWord s) :=
  decidable_of_iff (s ≠ "" ∧ (s.toList.all fun c => !isBlank c) = true) (by simp [IsWord])

theorem wordChars_of_blank {c : Char} (h : isBlank c = true) (cs : List Char) :
    wordChars (c :: cs) = wordChars cs := by
  conv_lhs => unfold wordChars
  exact if_pos h

theorem wordChars_singleton {c : Char} (h : isBlank c = false) : wordChars [c] = [[c]] := by
  unfold wordChars
  exact if_neg (by simp [h])

theorem wordChars_of_solid {c d : Char} (hc : isBlank c = false) (cs : List Char) :
    wordChars (c :: d :: cs) =
      if isBlank d = true then [c] :: wordChars (d :: cs)
      else
        match wordChars (d :: cs) with
        | [] => [[c]]
        | w :: ws => (c :: w) :: ws := by
  conv_lhs => unfold wordChars
  exact if_neg (by simp [hc])

theorem wordChars_append {word rest : List Char} (named : word ≠ [])
    (solid : ∀ c ∈ word, isBlank c = false) (ends : ∀ c ∈ rest.head?, isBlank c = true) :
    wordChars (word ++ rest) = word :: wordChars rest := by
  induction word with
  | nil => exact absurd rfl named
  | cons c cs ih =>
    obtain ⟨here, later⟩ := List.forall_mem_cons.mp solid
    cases cs with
    | nil =>
      cases rest with
      | nil => exact wordChars_singleton here
      | cons d ds =>
        rw [List.singleton_append, wordChars_of_solid here, if_pos (ends d rfl)]
    | cons d ds =>
      have next : ¬ isBlank d = true := by simp [later d List.mem_cons_self]
      have more := ih (List.cons_ne_nil d ds) later
      simp only [List.cons_append] at more ⊢
      rw [wordChars_of_solid here, if_neg next, more]

theorem wordChars_of_all_blank {cs : List Char} (h : Blank cs) : wordChars cs = [] := by
  induction cs with
  | nil => rfl
  | cons c cs ih =>
    obtain ⟨here, later⟩ := List.forall_mem_cons.mp h
    rw [wordChars_of_blank here, ih later]

theorem wordChars_blank_append {before : List Char} (h : Blank before) (cs : List Char) :
    wordChars (before ++ cs) = wordChars cs := by
  induction before with
  | nil => rfl
  | cons c rest ih =>
    obtain ⟨here, later⟩ := List.forall_mem_cons.mp h
    rw [List.cons_append, wordChars_of_blank here, ih later]

theorem wordChars_append_blank (cs : List Char) {after : List Char} (h : Blank after) :
    wordChars (cs ++ after) = wordChars cs := by
  induction cs with
  | nil => exact wordChars_of_all_blank h
  | cons c cs ih =>
    cases blank : isBlank c with
    | true => rw [List.cons_append, wordChars_of_blank blank, wordChars_of_blank blank, ih]
    | false =>
      cases cs with
      | nil =>
        have alone : ∀ d ∈ [c], isBlank d = false := by simpa using blank
        have ends : ∀ d ∈ after.head?, isBlank d = true :=
          fun d hd => h d (List.mem_of_mem_head? hd)
        rw [wordChars_append (List.cons_ne_nil c []) alone ends, wordChars_of_all_blank h,
          wordChars_singleton blank]
      | cons d ds =>
        rw [List.cons_append] at ih
        rw [List.cons_append, List.cons_append, wordChars_of_solid blank, ih,
          wordChars_of_solid blank]

theorem flatten_wordChars (cs : List Char) :
    (wordChars cs).flatten = cs.filter fun c => !isBlank c := by
  fun_induction wordChars cs <;> simp_all

theorem mem_of_mem_wordChars {cs word : List Char} (h : word ∈ wordChars cs) {c : Char}
    (hc : c ∈ word) : c ∈ cs ∧ isBlank c = false := by
  have inside : c ∈ (wordChars cs).flatten := List.mem_flatten.mpr ⟨word, h, hc⟩
  rw [flatten_wordChars, List.mem_filter] at inside
  simpa using inside

theorem ne_nil_of_mem_wordChars {cs word : List Char} (h : word ∈ wordChars cs) : word ≠ [] := by
  fun_induction wordChars cs with
  | case1 => cases h
  | case2 c cs blank ih => exact ih h
  | case3 c solid =>
    rw [List.mem_singleton.mp h]
    exact List.cons_ne_nil c []
  | case4 c solid d ds blank ih =>
    rcases List.mem_cons.mp h with rfl | h
    · exact List.cons_ne_nil c []
    · exact ih h
  | case5 c solid d ds next pieces ih =>
    rw [pieces] at h
    rw [List.mem_singleton.mp h]
    exact List.cons_ne_nil c []
  | case6 c solid d ds next first more pieces ih =>
    rw [pieces] at h ih
    rcases List.mem_cons.mp h with rfl | h
    · exact List.cons_ne_nil c first
    · exact ih (List.mem_cons_of_mem first h)

theorem wordChars_joinChars {ws : List (List Char)}
    (h : ∀ w ∈ ws, w ≠ [] ∧ ∀ c ∈ w, isBlank c = false) : wordChars (joinChars ' ' ws) = ws := by
  induction ws with
  | nil => rfl
  | cons w rest ih =>
    obtain ⟨⟨named, solid⟩, later⟩ := List.forall_mem_cons.mp h
    cases rest with
    | nil =>
      have alone := @wordChars_append w [] named solid nofun
      rwa [List.append_nil] at alone
    | cons v more =>
      have space : isBlank ' ' = true := by decide
      have ends : ∀ c ∈ (' ' :: joinChars ' ' (v :: more)).head?, isBlank c = true := by
        simp [space]
      rw [joinChars, wordChars_append named solid ends, wordChars_of_blank space, ih later]

theorem words_blank_append {before : String} (h : Blank before.toList) (s : String) :
    words (before ++ s) = words s := by
  rw [words, String.toList_append, wordChars_blank_append h, words]

theorem words_trim (s : String) : words (trim s) = words s := by
  obtain ⟨before, after, hb, ha, whole⟩ := trimChars_spec s.toList
  have same : wordChars s.toList = wordChars (trimChars s.toList) := by
    conv_lhs => rw [whole]
    rw [wordChars_append_blank _ ha, wordChars_blank_append hb]
  rw [words, words, trim_eq, String.toList_ofList, same]

/-- The first word of a nonblank text is the part before the first blank, if it does not begin with
one. -/
theorem words_eq_cutAtBlank {s : String} (named : s ≠ "")
    (head : ∀ c ∈ s.toList.head?, isBlank c = false) :
    words s = (cutAtBlank s).1 :: words (cutAtBlank s).2 := by
  have whole := List.takeWhile_append_dropWhile (p := fun c => !isBlank c) (l := s.toList)
  generalize hw : s.toList.takeWhile (fun c => !isBlank c) = word at whole
  generalize hr : s.toList.dropWhile (fun c => !isBlank c) = rest at whole
  have solid : ∀ c ∈ word, isBlank c = false := by
    intro c hc
    rw [← hw] at hc
    simpa using List.mem_takeWhile_imp hc
  have ends : ∀ c ∈ rest.head?, isBlank c = true := by
    intro c hc
    have known := List.head?_dropWhile_not (fun c => !isBlank c) s.toList
    rw [hr, hc] at known
    simpa using known
  have filled : word ≠ [] := by
    rintro rfl
    cases hs : s.toList with
    | nil => exact named (by simpa using hs)
    | cons c cs =>
      have first := head c (by rw [hs]; rfl)
      rw [hs] at hw
      simp [first] at hw
  have later : wordChars rest = wordChars (rest.drop 1) := by
    cases rest with
    | nil => rfl
    | cons c cs => exact wordChars_of_blank (ends c rfl) cs
  have cut : cutAtBlank s = (String.ofList word, String.ofList (rest.drop 1)) := by
    rw [cutAtBlank, hw, hr]
  rw [cut, words, words, String.toList_ofList, ← later, ← whole,
    wordChars_append filled solid ends, List.map_cons]

theorem isWord_of_mem_words {word s : String} (h : word ∈ words s) : IsWord word := by
  obtain ⟨cs, hcs, rfl⟩ := List.mem_map.mp h
  refine ⟨by simpa using ne_nil_of_mem_wordChars hcs, fun c hc => ?_⟩
  rw [String.toList_ofList] at hc
  exact (mem_of_mem_wordChars hcs hc).2

theorem words_join {ws : List String} (h : ∀ word ∈ ws, IsWord word) :
    words (join ' ' ws) = ws := by
  have chars : ∀ cs ∈ ws.map String.toList, cs ≠ [] ∧ ∀ c ∈ cs, isBlank c = false := by
    intro cs hcs
    obtain ⟨word, hw, rfl⟩ := List.mem_map.mp hcs
    exact ⟨by simpa using (h word hw).1, (h word hw).2⟩
  rw [words, join, String.toList_ofList, wordChars_joinChars chars]
  simp [Function.comp_def]

def spaced (s : String) : String := join ' ' (words s)

theorem spaced_eq (s : String) : spaced s = String.ofList (joinChars ' ' (wordChars s.toList)) := by
  simp [spaced, join, words, Function.comp_def]

theorem IsWord.spaced {word : String} (h : IsWord word) : spaced word = word := by
  have alone : join ' ' [word] = word := by simp [join, joinChars]
  have words := @words_join [word] (by simpa using h)
  rw [alone] at words
  rw [Text.spaced, words, alone]

theorem mem_joinChars {c sep : Char} {ps : List (List Char)} (h : c ∈ joinChars sep ps) :
    c = sep ∨ ∃ p ∈ ps, c ∈ p := by
  fun_induction joinChars sep ps with
  | case1 => cases h
  | case2 p => exact .inr ⟨p, List.mem_singleton_self p, h⟩
  | case3 p q ps ih =>
    rcases List.mem_append.mp h with h | h
    · exact .inr ⟨p, List.mem_cons_self, h⟩
    · rcases List.mem_cons.mp h with rfl | h
      · exact .inl rfl
      · refine (ih h).imp_right ?_
        rintro ⟨r, hr, hc⟩
        exact ⟨r, List.mem_cons_of_mem p hr, hc⟩

theorem mem_of_mem_spaced {c : Char} {s : String} (h : c ∈ (spaced s).toList) :
    c = ' ' ∨ c ∈ s.toList := by
  rw [spaced_eq, String.toList_ofList] at h
  rcases mem_joinChars h with rfl | ⟨word, hw, hc⟩
  · exact .inl rfl
  · exact .inr (mem_of_mem_wordChars hw hc).1

end VirtualTerminal.Text
