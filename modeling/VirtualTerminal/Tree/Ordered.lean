import VirtualTerminal.Tree

/-! # Order of names

Writes keep every folder of a tree in strictly increasing order of names. -/
namespace VirtualTerminal.Entries

theorem ordered_nil : Entries.nil.Ordered := by simp [Entries.Ordered]

theorem mem_names_set {key name : String} {value : Option Node} {entries : Entries}
    (h : key ∈ (entries.set name value).names) : key = name ∨ key ∈ entries.names := by
  induction entries using Entries.rec (motive_1 := fun _ => True) with
  | file => trivial
  | folder => trivial
  | nil => cases value <;> simp_all [set, names]
  | cons head node rest _ ih =>
    unfold set at h
    split at h
    · cases value <;> simp_all [names]
    · split at h
      · cases value <;> simp_all [names]
      · simp only [names, List.mem_cons] at h ⊢
        rcases h with h | h
        · exact Or.inr (Or.inl h)
        · rcases ih h with h | h
          · exact Or.inl h
          · exact Or.inr (Or.inr h)

theorem Ordered.set {entries : Entries} (h : entries.Ordered) (name : String) {value : Option Node}
    (hv : ∀ node, value = some node → node.Ordered) : (entries.set name value).Ordered := by
  induction entries using Entries.rec (motive_1 := fun _ => True) with
  | file => trivial
  | folder => trivial
  | nil => cases value <;> simp_all [Entries.set, Entries.Ordered, names]
  | cons head node rest _ ih =>
    obtain ⟨low, hn, hr⟩ := h
    unfold Entries.set
    split
    · next less =>
      cases value with
      | none => exact ⟨low, hn, hr⟩
      | some node' =>
        refine ⟨fun key hk => ?_, hv _ rfl, low, hn, hr⟩
        simp only [names, List.mem_cons] at hk
        rcases hk with rfl | hk
        · exact less
        · exact String.lt_trans less (low key hk)
    · next notLess =>
      split
      · next same =>
        subst same
        cases value with
        | none => exact hr
        | some node' => exact ⟨low, hv _ rfl, hr⟩
      · next differ =>
        refine ⟨fun key hk => ?_, hn, ih hr⟩
        rcases mem_names_set hk with rfl | hk
        · exact Std.lt_of_le_of_ne (String.not_lt.mp notLess) fun e => differ e.symm
        · exact low key hk

theorem Ordered.find? {entries : Entries} (h : entries.Ordered) {name : String} {node : Node}
    (hf : entries.find? name = some node) : node.Ordered := by
  induction entries using Entries.rec (motive_1 := fun _ => True) with
  | file => trivial
  | folder => trivial
  | nil => simp [Entries.find?] at hf
  | cons head first rest _ ih =>
    obtain ⟨_, hn, hr⟩ := h
    unfold Entries.find? at hf
    split at hf
    · simp only [Option.some.injEq] at hf
      exact hf ▸ hn
    · exact ih hr hf

theorem Ordered.write {entries : Entries} (h : entries.Ordered) (path : List String)
    {value : Option Node} (hv : ∀ node, value = some node → node.Ordered) :
    (entries.write value path).Ordered := by
  fun_induction Entries.write value path entries with
  | case1 => exact h
  | case2 name entries => exact h.set name hv
  | case3 name names entries _ inner hf ih =>
    refine h.set name fun node hn => ?_
    cases hn
    exact ih (by simpa [Node.Ordered] using h.find? hf)
  | case4 => exact h

theorem Ordered.plant {entries : Entries} (h : entries.Ordered) (path : List String) {node : Node}
    (hn : node.Ordered) : (entries.plant node path).Ordered := by
  fun_induction Entries.plant node path entries with
  | case1 => exact h
  | case2 name entries hf => exact h.set name fun _ e => by cases e; exact hn
  | case3 => exact h
  | case4 name names entries _ hf ih =>
    refine h.set name fun _ e => ?_
    cases e
    exact ih ordered_nil
  | case5 name names entries _ inner hf ih =>
    refine h.set name fun _ e => ?_
    cases e
    exact ih (by simpa [Node.Ordered] using h.find? hf)
  | case6 => exact h

end VirtualTerminal.Entries
