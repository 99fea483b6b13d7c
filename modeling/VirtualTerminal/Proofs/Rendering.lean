import Mathlib.Data.List.Basic
import VirtualTerminal.View

/-! # Rendering

The shown parts of a session can be read back from the HTML. Texts contain no raw angle brackets, so
each ends where the next tag begins; without its tags a row reads as its plain text. Only an empty
text and one space have the same HTML. -/
namespace VirtualTerminal

namespace Html

/-- The content of a text node: one space for an empty text. -/
def filled (s : String) : String := if s = "" then " " else s

mutual

/-- The HTML with all its tags deleted. -/
def withoutTags : List Char → List Char
  | [] => []
  | c :: cs => if c = '<' then afterTag cs else c :: withoutTags cs

def afterTag : List Char → List Char
  | [] => []
  | c :: cs => if c = '>' then withoutTags cs else afterTag cs

end

/-- The text with its entities replaced. -/
def unescape : List Char → List Char
  | '&' :: 'a' :: 'm' :: 'p' :: ';' :: cs => '&' :: unescape cs
  | '&' :: 'l' :: 't' :: ';' :: cs => '<' :: unescape cs
  | '&' :: 'g' :: 't' :: ';' :: cs => '>' :: unescape cs
  | c :: cs => c :: unescape cs
  | [] => []

theorem filled_filled (s : String) : filled (filled s) = filled s := by
  by_cases empty : s = ""
  · rw [empty]
    rfl
  · simp only [filled, if_neg empty]

theorem text_eq (s : String) : text s = (filled s).toList.flatMap escapedChar := by
  unfold text filled
  split <;> rfl

theorem text_filled (s : String) : text (filled s) = text s := by
  rw [text_eq, filled_filled, ← text_eq]

theorem unescape_escapedChar (c : Char) (cs : List Char) :
    unescape (escapedChar c ++ cs) = c :: unescape cs := by
  unfold escapedChar
  split
  · next amp => rw [amp]; rfl
  · next notAmp =>
    split
    · next less => rw [less]; rfl
    · split
      · next greater => rw [greater]; rfl
      · simp [unescape, notAmp]

theorem unescape_flatMap (cs : List Char) : unescape (cs.flatMap escapedChar) = cs := by
  induction cs with
  | nil => rfl
  | cons c cs ih => rw [List.flatMap_cons, unescape_escapedChar, ih]

theorem text_eq_iff {s t : String} : text s = text t ↔ filled s = filled t := by
  constructor
  · intro same
    rw [text_eq, text_eq] at same
    have chars := congrArg unescape same
    rw [unescape_flatMap, unescape_flatMap] at chars
    exact String.toList_inj.mp chars
  · intro same
    rw [← text_filled s, same, text_filled]

theorem not_mem_escapedChar {mark : Char} (h : mark = '<' ∨ mark = '>') (c : Char) :
    mark ∉ escapedChar c := by
  unfold escapedChar
  split_ifs <;> rcases h with rfl | rfl <;> simp <;> grind

theorem not_mem_text {mark : Char} (h : mark = '<' ∨ mark = '>') (s : String) :
    mark ∉ text s := by
  rw [text_eq, List.mem_flatMap]
  rintro ⟨c, -, held⟩
  exact not_mem_escapedChar h c held

theorem text_ne_nil (s : String) : text s ≠ [] := by
  intro none
  have shown := congrArg unescape none
  rw [text_eq, unescape_flatMap] at shown
  unfold filled at shown
  split at shown
  · cases shown
  · next written => exact written (String.toList_eq_nil_iff.mp shown)

def closing (tag : String) : List Char := '<' :: '/' :: tag.toList ++ ['>']

def opening (tag : String) (attributes : List (String × String)) : List Char :=
  tag.toList ++ attributes.flatMap fun a => assignment a.1 a.2

theorem element_append (tag : String) (attributes : List (String × String))
    (inner rest : List Char) :
    element tag attributes inner ++ rest =
      '<' :: (opening tag attributes ++ '>' :: (inner ++ (closing tag ++ rest))) := by
  simp [element, opening, closing]

/-- Two texts that end at the same mark, which neither contains, are equal. -/
theorem append_mark_inj {mark : Char} {cs ds rest rest' : List Char} (hc : mark ∉ cs)
    (hd : mark ∉ ds) (h : cs ++ mark :: rest = ds ++ mark :: rest') : cs = ds ∧ rest = rest' := by
  have stop {es : List Char} (he : mark ∉ es) (last : List Char) :
      (es ++ mark :: last).takeWhile (· ≠ mark) = es := by
    rw [List.takeWhile_append_of_pos fun c hc => by simp [ne_of_mem_of_not_mem hc he]]
    simp
  have same : cs = ds := by rw [← stop hc rest, h, stop hd]
  subst same
  exact ⟨rfl, (List.cons.inj (List.append_cancel_left h)).2⟩

theorem element_inj {tag : String} {attributes : List (String × String)}
    {inner inner' rest rest' : List Char}
    (h : element tag attributes inner ++ rest = element tag attributes inner' ++ rest') :
    inner ++ (closing tag ++ rest) = inner' ++ (closing tag ++ rest') := by
  rw [element_append, element_append, List.cons.injEq, List.append_cancel_left_eq,
    List.cons.injEq] at h
  exact h.2.2

theorem element_value_inj {tag name value value' : String} (attributes : List (String × String))
    {inner inner' rest rest' : List Char} (hv : '"' ∉ value.toList) (hv' : '"' ∉ value'.toList)
    (h : element tag (attributes ++ [(name, value)]) inner ++ rest =
      element tag (attributes ++ [(name, value')]) inner' ++ rest') :
    value = value' ∧ inner ++ (closing tag ++ rest) = inner' ++ (closing tag ++ rest') := by
  have values : value.toList ++ '"' :: '>' :: (inner ++ (closing tag ++ rest)) =
      value'.toList ++ '"' :: '>' :: (inner' ++ (closing tag ++ rest')) := by
    simpa [element_append, opening, assignment] using h
  obtain ⟨same, same'⟩ := append_mark_inj hv hv' values
  exact ⟨String.toList_inj.mp same, (List.cons.inj same').2⟩

theorem text_closing_inj {s t tag : String} {rest rest' : List Char}
    (h : text s ++ (closing tag ++ rest) = text t ++ (closing tag ++ rest')) :
    filled s = filled t ∧ rest = rest' := by
  have closed (last : List Char) :
      closing tag ++ last = '<' :: ('/' :: tag.toList ++ '>' :: last) := by
    simp [closing]
  rw [closed, closed] at h
  obtain ⟨same, same'⟩ := append_mark_inj (not_mem_text (.inl rfl) s) (not_mem_text (.inl rfl) t) h
  exact ⟨text_eq_iff.mp same, by simpa using same'⟩

theorem text_append_ne_element (s tag : String) (attributes : List (String × String))
    (inner rest rest' : List Char) : text s ++ rest ≠ element tag attributes inner ++ rest' := by
  intro same
  rw [element_append] at same
  cases written : text s with
  | nil => exact text_ne_nil s written
  | cons c cs =>
    rw [written] at same
    have tag : '<' ∉ text s := not_mem_text (.inl rfl) s
    rw [written, (List.cons.inj same).1] at tag
    exact tag List.mem_cons_self

theorem withoutTags_text (s : String) (rest : List Char) :
    withoutTags (text s ++ rest) = text s ++ withoutTags rest := by
  have free : '<' ∉ text s := not_mem_text (.inl rfl) s
  generalize text s = cs at free
  induction cs with
  | nil => rfl
  | cons c cs ih =>
    have here : c ≠ '<' := fun tag => free (tag ▸ List.mem_cons_self)
    rw [List.cons_append, withoutTags, if_neg here, ih fun tag => free (List.mem_cons_of_mem c tag),
      List.cons_append]

theorem withoutTags_tag {inside : List Char} (h : '>' ∉ inside) (rest : List Char) :
    withoutTags ('<' :: (inside ++ '>' :: rest)) = withoutTags rest := by
  rw [withoutTags, if_pos rfl]
  induction inside with
  | nil => rw [List.nil_append, afterTag, if_pos rfl]
  | cons c inside ih =>
    have here : c ≠ '>' := fun tag => h (tag ▸ List.mem_cons_self)
    rw [List.cons_append, afterTag, if_neg here, ih fun tag => h (List.mem_cons_of_mem c tag)]

theorem withoutTags_element {tag : String} {attributes : List (String × String)}
    (ha : '>' ∉ opening tag attributes) (inner rest : List Char) :
    withoutTags (element tag attributes inner ++ rest) =
      withoutTags (inner ++ (closing tag ++ rest)) := by
  rw [element_append, withoutTags_tag ha]

theorem withoutTags_closing {tag : String} (ht : '>' ∉ tag.toList) (rest : List Char) :
    withoutTags (closing tag ++ rest) = withoutTags rest := by
  have inside : '>' ∉ '/' :: tag.toList := by simp [ht]
  have whole : closing tag ++ rest = '<' :: ('/' :: tag.toList ++ '>' :: rest) := by simp [closing]
  rw [whole, withoutTags_tag inside]

end Html

namespace Row
open Html

def filled : Row → Row
  | .message tone s => .message tone (Html.filled s)
  | .command prompt input => .command (Html.filled prompt) (Html.filled input)
  | .entry name kind => .entry (Html.filled name) kind

end Row

namespace View
open Html

/-- A row as one element with a text, or as one with two elements that contain a text each. -/
inductive Layout
  | single (look text : String)
  | double (look first second : String)

def layout : Row → Layout
  | .message tone s => .single (toneClass tone) s
  | .command prompt input => .double "prompt" prompt input
  | .entry name kind => .double "textDim" (Row.kindTag kind) name

namespace Layout

def render : Layout → List Char
  | .single look s => element "div" [("class", look)] (text s)
  | .double look s t =>
    element "div" [("class", "line")]
      (element "span" [("class", look)] (text s) ++ element "span" [] (text t))

def filled : Layout → Layout
  | .single look s => .single look (Html.filled s)
  | .double look s t => .double look (Html.filled s) (Html.filled t)

def plainText : Layout → String
  | .single _ s => s
  | .double _ s t => s ++ t

def look : Layout → String
  | .single look _ | .double look _ _ => look

theorem render_filled (l : Layout) : l.filled.render = l.render := by
  cases l <;> simp only [filled, render, text_filled]

theorem render_append_inj {l l' : Layout} (hl : '"' ∉ l.look.toList) (hl' : '"' ∉ l'.look.toList)
    {rest rest' : List Char} (h : l.render ++ rest = l'.render ++ rest') :
    l.filled = l'.filled ∧ rest = rest' := by
  have line : '"' ∉ "line".toList := by decide
  cases l with
  | single look s =>
    cases l' with
    | single look' s' =>
      obtain ⟨sameLook, inner⟩ := element_value_inj [] hl hl' h
      obtain ⟨same, rfl⟩ := text_closing_inj inner
      exact ⟨congrArg₂ single sameLook same, rfl⟩
    | double look' s' t' =>
      obtain ⟨-, inner⟩ := element_value_inj [] hl line h
      rw [List.append_assoc] at inner
      exact absurd inner (text_append_ne_element _ _ _ _ _ _)
  | double look s t =>
    cases l' with
    | single look' s' =>
      obtain ⟨-, inner⟩ := element_value_inj [] hl' line h.symm
      rw [List.append_assoc] at inner
      exact absurd inner (text_append_ne_element _ _ _ _ _ _)
    | double look' s' t' =>
      have inner := element_inj h
      rw [List.append_assoc, List.append_assoc] at inner
      obtain ⟨sameLook, first⟩ := element_value_inj [] hl hl' inner
      obtain ⟨same, second⟩ := text_closing_inj first
      obtain ⟨same', last⟩ := text_closing_inj (element_inj second)
      refine ⟨?_, List.append_cancel_left last⟩
      rw [filled, filled, same, same', show look = look' from sameLook]

/-- Without its tags, a row consists of its texts. -/
theorem unescape_render (l : Layout) (h : '>' ∉ l.look.toList) :
    unescape (withoutTags l.render) = l.filled.plainText.toList := by
  have div : '>' ∉ "div".toList := by decide
  have span : '>' ∉ "span".toList := by decide
  cases l with
  | single look s =>
    have looking : '>' ∉ opening "div" [("class", look)] := by
      simpa [opening, assignment, Layout.look] using h
    rw [render, ← List.append_nil (element "div" _ _), withoutTags_element looking,
      withoutTags_text, withoutTags_closing div, withoutTags, List.append_nil, text_eq,
      unescape_flatMap]
    rfl
  | double look s t =>
    have looking : '>' ∉ opening "span" [("class", look)] := by
      simpa [opening, assignment, Layout.look] using h
    have line : '>' ∉ opening "div" [("class", "line")] := by decide
    have bare : '>' ∉ opening "span" [] := by decide
    rw [render, ← List.append_nil (element "div" _ _), withoutTags_element line, List.append_assoc,
      withoutTags_element looking, withoutTags_text, withoutTags_closing span,
      withoutTags_element bare, withoutTags_text, withoutTags_closing span, withoutTags_closing div,
      withoutTags, List.append_nil, text_eq, text_eq, ← List.flatMap_append, unescape_flatMap,
      ← String.toList_append]
    rfl

end Layout

theorem render_layout (r : Row) : (layout r).render = row r := by cases r <;> rfl

theorem plainText_layout (r : Row) : (layout r).plainText = r.plainText := by cases r <;> rfl

theorem layout_filled (r : Row) : layout r.filled = (layout r).filled := by
  cases r with
  | message tone s => rfl
  | command prompt input => rfl
  | entry name kind => cases kind <;> rfl

theorem row_filled (r : Row) : row r.filled = row r := by
  rw [← render_layout, layout_filled, Layout.render_filled, render_layout]

theorem look_layout (r : Row) :
    '"' ∉ (layout r).look.toList ∧ '>' ∉ (layout r).look.toList := by
  cases r with
  | message tone s =>
    simp only [layout, Layout.look]
    cases tone <;> decide
  | command prompt input =>
    simp only [layout, Layout.look]
    decide
  | entry name kind =>
    simp only [layout, Layout.look]
    decide

theorem toneClass_injective : Function.Injective toneClass := by
  intro tone tone' same
  cases tone <;> cases tone' <;> first | rfl | exact absurd same (by decide)

theorem layout_injective : Function.Injective layout := by
  intro r r' same
  cases r with
  | message tone s =>
    cases r' with
    | message tone' s' =>
      simp only [layout, Layout.single.injEq] at same
      rw [toneClass_injective same.1, same.2]
    | command prompt' input' => cases same
    | entry name' kind' => cases same
  | command prompt input =>
    cases r' with
    | message tone' s' => cases same
    | command prompt' input' =>
      cases same
      rfl
    | entry name' kind' => simp [layout] at same
  | entry name kind =>
    cases r' with
    | message tone' s' => cases same
    | command prompt' input' => simp [layout] at same
    | entry name' kind' =>
      simp only [layout, Layout.double.injEq] at same
      obtain ⟨-, tags, rfl⟩ := same
      cases kind <;> cases kind' <;> first | rfl | exact absurd tags (by decide)

theorem row_append_inj {r r' : Row} {rest rest' : List Char} (h : row r ++ rest = row r' ++ rest') :
    r.filled = r'.filled ∧ rest = rest' := by
  rw [← render_layout, ← render_layout] at h
  obtain ⟨same, same'⟩ :=
    Layout.render_append_inj (look_layout r).1 (look_layout r').1 h
  rw [← layout_filled, ← layout_filled] at same
  exact ⟨layout_injective same, same'⟩

theorem row_eq_iff {r r' : Row} : row r = row r' ↔ r.filled = r'.filled := by
  constructor
  · intro same
    exact (row_append_inj (congrArg (· ++ []) same)).1
  · intro same
    rw [← row_filled r, same, row_filled]

theorem unescape_row (r : Row) : unescape (withoutTags (row r)) = r.filled.plainText.toList := by
  rw [← render_layout, Layout.unescape_render _ (look_layout r).2, ← layout_filled,
    plainText_layout]

theorem row_append_ne_closing (r : Row) (rest rest' : List Char) :
    row r ++ rest ≠ closing "div" ++ rest' := by
  intro same
  cases r <;> simp [row, element, closing] at same

theorem rows_append_inj {rows rows' : List Row} {rest rest' : List Char}
    (h : rows.flatMap row ++ (closing "div" ++ rest) =
      rows'.flatMap row ++ (closing "div" ++ rest')) :
    rows.map Row.filled = rows'.map Row.filled ∧ rest = rest' := by
  induction rows generalizing rows' with
  | nil =>
    cases rows' with
    | nil => exact ⟨rfl, List.append_cancel_left h⟩
    | cons r' rows' =>
      rw [List.flatMap_cons, List.append_assoc] at h
      exact absurd h.symm (row_append_ne_closing r' _ _)
  | cons r rows ih =>
    rw [List.flatMap_cons, List.append_assoc] at h
    cases rows' with
    | nil => exact absurd h (row_append_ne_closing r _ _)
    | cons r' rows' =>
      rw [List.flatMap_cons, List.append_assoc] at h
      obtain ⟨first, more⟩ := row_append_inj h
      obtain ⟨others, last⟩ := ih more
      exact ⟨congrArg₂ List.cons first others, last⟩

theorem flatMap_row_filled (rows : List Row) :
    (rows.map Row.filled).flatMap row = rows.flatMap row := by
  simp [List.flatMap_map, row_filled]

theorem not_mem_textColor (s : Session) : '"' ∉ s.textColor.toList := by
  unfold Session.textColor
  cases s.color with
  | none => decide
  | some cycle =>
    intro quote
    have digit : '"' ∈ Nat.toDigits 10 cycle.hue := by simpa [ColorCycle.css] using quote
    exact absurd (Nat.isDigit_of_mem_toDigits (by decide) (by decide) digit) (by decide)

theorem inputLine_append_inj {s s' : Session} {rest rest' : List Char}
    (h : inputLine s ++ rest = inputLine s' ++ rest') :
    Html.filled s.prompt = Html.filled s'.prompt ∧ Html.filled s.input = Html.filled s'.input := by
  have inner := element_inj h
  simp only [List.append_assoc] at inner
  obtain ⟨prompt, next⟩ := text_closing_inj (element_inj inner)
  exact ⟨prompt, (text_closing_inj (element_inj next)).1⟩

/-- The same rendered parts of a session: the rows, the color and, unless it is halted, the input
line with its prompt. -/
def SameShown (s s' : Session) : Prop :=
  s.log.rows.map Row.filled = s'.log.rows.map Row.filled ∧ s.textColor = s'.textColor ∧
    (s.halted = true ∧ s'.halted = true ∨
      s.halted = false ∧ s'.halted = false ∧ Html.filled s.prompt = Html.filled s'.prompt ∧
        Html.filled s.input = Html.filled s'.input)

theorem terminal_eq_of_same {s s' : Session} (h : SameShown s s') : terminal s = terminal s' := by
  obtain ⟨rows, color, line⟩ := h
  have shown : s.log.rows.flatMap row = s'.log.rows.flatMap row := by
    rw [← flatMap_row_filled, rows, flatMap_row_filled]
  rcases line with ⟨halted, halted'⟩ | ⟨live, live', prompt, input⟩
  · simp only [terminal, shown, color, halted, halted', if_true]
  · simp only [terminal, shown, color, live, live', inputLine, text_eq_iff.mpr prompt,
      text_eq_iff.mpr input, Bool.false_eq_true, if_false]

theorem same_of_terminal_eq {s s' : Session} (h : terminal s = terminal s') : SameShown s s' := by
  have styled (s : Session) : '"' ∉ ("color:" ++ s.textColor ++ ";").toList := by
    simp [not_mem_textColor]
  obtain ⟨style, inner⟩ := element_value_inj [("class", "container")] (styled s) (styled s')
    (congrArg (· ++ []) h)
  have color : s.textColor = s'.textColor := by
    rwa [String.append_left_inj, String.append_right_inj] at style
  rw [List.append_assoc, List.append_assoc] at inner
  obtain ⟨rows, tail⟩ := rows_append_inj (element_inj inner)
  refine ⟨rows, color, ?_⟩
  cases halted : s.halted with
  | true =>
    cases halted' : s'.halted with
    | true => exact .inl ⟨rfl, rfl⟩
    | false =>
      simp [halted, halted', noInputLine, inputLine, element] at tail
  | false =>
    cases halted' : s'.halted with
    | true =>
      simp [halted, halted', noInputLine, inputLine, element] at tail
    | false =>
      simp only [halted, halted', Bool.false_eq_true, if_false] at tail
      exact .inr ⟨rfl, rfl, inputLine_append_inj tail⟩

/-- Two rows have the same HTML only if they are equal up to empty texts, and without tags and
entities the HTML of a row reads as the row, for any content. Two sessions render to the same page
only if their rendered parts agree up to empty texts. -/
theorem rendering_reads_back :
    (∀ r r' : Row, row r = row r' ↔ r.filled = r'.filled) ∧
      (∀ r : Row, unescape (withoutTags (row r)) = r.filled.plainText.toList) ∧
      ∀ s s' : Session, terminal s = terminal s' ↔ SameShown s s' :=
  ⟨fun _ _ => row_eq_iff, unescape_row, fun _ _ => ⟨same_of_terminal_eq, terminal_eq_of_same⟩⟩

/-- A row that resembles markup stays text. -/
example : row (.error "<b>&amp;</b>") =
    "<div class=\"line textRed\">&lt;b&gt;&amp;amp;&lt;/b&gt;</div>".toList := by decide

end View
end VirtualTerminal
