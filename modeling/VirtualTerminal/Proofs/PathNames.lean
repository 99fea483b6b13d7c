import VirtualTerminal.Path
import VirtualTerminal.Proofs.TextLaws

/-! # Names in paths

Every written path resolves to a path of plain names, and a plain name resolves to the entry of that
name in the working folder. The text of a path of plain names resolves to that path. -/
namespace VirtualTerminal.Path

def Plain (p : Path) : Prop := ∀ name ∈ p.segments, PlainName name

theorem plain_root : root.Plain := nofun

theorem Plain.parent {p : Path} (h : p.Plain) : p.parent.Plain := by
  intro name hn
  exact h name (List.dropLast_subset p.segments hn)

theorem Plain.child {p : Path} {name : String} (h : p.Plain) (hn : PlainName name) :
    (p.child name).Plain := by
  intro other ho
  rcases List.mem_append.mp ho with ho | ho
  · exact h other ho
  · rw [List.mem_singleton.mp ho]
    exact hn

theorem Plain.walk {p : Path} {part : String} (h : p.Plain) (hp : '/' ∉ part.toList) :
    (p.walk part).Plain := by
  unfold Path.walk
  split
  · exact h
  · next named =>
    split
    · exact h.parent
    · next dots =>
      simp only [not_or] at named dots
      exact h.child ⟨named.1, hp, named.2, dots⟩

theorem plain_resolve {cwd : Path} (h : cwd.Plain) (written : String) :
    (cwd.resolve written).Plain := by
  have start : (if written.toList.head? = some '/' then root else cwd).Plain := by
    split
    · exact plain_root
    · exact h
  have parts : ∀ part ∈ Text.split '/' written, '/' ∉ part.toList :=
    fun part => Text.not_mem_of_mem_split
  unfold resolve
  generalize (if written.toList.head? = some '/' then root else cwd) = p at start ⊢
  generalize Text.split '/' written = rest at parts ⊢
  induction rest generalizing p with
  | nil => exact start
  | cons part rest ih =>
    rw [List.foldl_cons]
    apply ih
    · exact start.walk (parts part List.mem_cons_self)
    · exact fun other ho => parts other (List.mem_cons_of_mem _ ho)

theorem walk_plain {name : String} (h : PlainName name) (p : Path) :
    p.walk name = p.child name := by
  obtain ⟨named, -, one, two, three⟩ := h
  simp [walk, named, one, two, three]

theorem walk_cases (p : Path) (part : String) :
    p.walk part = p ∨ p.walk part = p.parent ∨ p.walk part = p.child part := by
  unfold walk
  split
  · exact .inl rfl
  · split
    · exact .inr (.inl rfl)
    · exact .inr (.inr rfl)

theorem eq_of_walk_eq_child {p : Path} {part name : String} (h : p.walk part = p.child name) :
    part = name := by
  have longer : (p.walk part).segments.length = p.segments.length + 1 := by simp [h, child]
  rcases p.walk_cases part with stays | up | down
  · rw [stays] at longer
    omega
  · rw [up, parent, List.length_dropLast] at longer
    omega
  · rw [down] at h
    simpa [child] using h

/-- A written path without a slash is one step from the working folder. -/
theorem resolve_of_not_mem {written : String} (free : '/' ∉ written.toList) (cwd : Path) :
    cwd.resolve written = cwd.walk written := by
  have relative : written.toList.head? ≠ some '/' := fun first => free (List.mem_of_mem_head? first)
  rw [resolve, if_neg relative, Text.split_of_not_mem free, List.foldl_cons, List.foldl_nil]

theorem resolve_plain {name : String} (h : PlainName name) (cwd : Path) :
    cwd.resolve name = cwd.child name := by
  rw [resolve_of_not_mem h.2.1, walk_plain h]

theorem foldl_walk_plain {names : List String} (h : ∀ name ∈ names, PlainName name) (p : Path) :
    names.foldl walk p = ⟨p.segments ++ names⟩ := by
  induction names generalizing p with
  | nil => simp
  | cons name rest ih =>
    rw [List.foldl_cons, walk_plain (h name List.mem_cons_self),
      ih fun other ho => h other (List.mem_cons_of_mem _ ho)]
    simp [child]

theorem resolve_toText {p : Path} (h : p.Plain) (cwd : Path) : cwd.resolve p.toText = p := by
  have parts : Text.split '/' p.toText = "" :: Text.split '/' (Text.join '/' p.segments) :=
    Text.split_singleton_append '/' _
  have absolute : p.toText.toList.head? = some '/' := by simp [toText]
  have stays : root.walk "" = root := rfl
  rw [resolve, if_pos absolute, parts, List.foldl_cons, stays]
  by_cases top : p.segments = []
  · obtain ⟨segments⟩ := p
    cases top
    rfl
  · have free : ∀ name ∈ p.segments, '/' ∉ name.toList := fun name hn => (h name hn).2.1
    rw [Text.split_join top free, foldl_walk_plain h]
    rfl

theorem resolve_empty (cwd : Path) : cwd.resolve "" = cwd := rfl

theorem parent_child (p : Path) (name : String) : (p.child name).parent = p := by
  simp [child, parent]

theorem name?_child (p : Path) (name : String) : (p.child name).name? = some name := by
  simp [child, name?]

end VirtualTerminal.Path
