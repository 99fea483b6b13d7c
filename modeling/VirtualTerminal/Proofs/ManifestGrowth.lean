import VirtualTerminal.Proofs.PlantedTrees

/-! # Growing manifests

One more entry of a manifest adds its whole path or nothing at all. It adds nothing when its path
exists or a file lies above it, which remains so after further entries. Hence planting entries again
changes nothing. -/
namespace VirtualTerminal.FileSystem

variable {fs fs' : FileSystem} {entry : ManifestEntry}

/-- The entry adds nothing: it names the root or an existing node, or a file lies above it. -/
def Refuses (fs : FileSystem) (entry : ManifestEntry) : Prop :=
  let path := Path.root.resolve entry.path
  path = .root ∨ (∃ item, fs.flat.at? path = some item) ∨
    ∃ above text, above.isAtOrAbove path ∧ above ≠ path ∧ fs.flat.at? above = some (.file text)

theorem blocked_iff {path : Path} :
    fs.entries.Blocked path.segments ↔ ∃ above text, above.isAtOrAbove path ∧ above ≠ path ∧
      fs.flat.at? above = some (.file text) := by
  constructor
  · rintro ⟨above, text, onWay, differ, file⟩
    refine ⟨⟨above⟩, text, List.isPrefixOf_iff_prefix.mpr onWay, ?_, ?_⟩
    · exact fun same => differ (congrArg Path.segments same)
    · exact (fs.lookup_flat above).trans file
  · rintro ⟨above, text, onWay, differ, file⟩
    refine ⟨above.segments, text, List.isPrefixOf_iff_prefix.mp onWay, ?_, ?_⟩
    · exact fun same => differ (congrArg Path.mk same)
    · exact (fs.lookup_flat above.segments).symm.trans file

/-- The root needs no case of its own, since it always exists. -/
theorem refuses_iff :
    fs.Refuses entry ↔ (∃ item, fs.flat.at? (Path.root.resolve entry.path) = some item) ∨
      fs.entries.Blocked (Path.root.resolve entry.path).segments := by
  rw [blocked_iff]
  constructor
  · rintro (root | known)
    · refine .inl ⟨.folder, ?_⟩
      rw [root]
      exact fs.lookup_flat []
    · exact known
  · exact .inr

theorem at?_above {path above : Path} {item : Item} (here : fs.flat.at? path = some item)
    (onWay : above.isAtOrAbove path) : ∃ upper, fs.flat.at? above = some upper := by
  by_cases same : above = path
  · exact ⟨item, same ▸ here⟩
  · refine ⟨.folder, (fs.lookup_flat above.segments).trans ?_⟩
    have shown : fs.entries.item? path.segments = some item := (fs.lookup_flat _).symm.trans here
    refine Entries.item?_above shown (List.isPrefixOf_iff_prefix.mp onWay) ?_
    exact fun segments => same (congrArg Path.mk segments)

/-- Planting an admitted entry adds every free path at or above its own. -/
def Gains (fs : FileSystem) (entry : ManifestEntry) (path : Path) : Prop :=
  fs.flat.at? path = none ∧ ¬ fs.Refuses entry ∧ path.isAtOrAbove (Path.root.resolve entry.path)

theorem gains_iff {path : Path} :
    fs.Gains entry path ↔ fs.entries.item? path.segments = none ∧
      ¬ fs.entries.Blocked (Path.root.resolve entry.path).segments ∧
        path.segments <+: (Path.root.resolve entry.path).segments := by
  rw [Gains, FlatMap.at?, lookup_flat, Path.isAtOrAbove, List.isPrefixOf_iff_prefix]
  constructor
  · rintro ⟨free, open', onWay⟩
    exact ⟨free, fun blocked => open' (refuses_iff.mpr (.inr blocked)), onWay⟩
  · rintro ⟨free, clear, onWay⟩
    refine ⟨free, fun refused => ?_, onWay⟩
    rcases refuses_iff.mp refused with ⟨item, here⟩ | blocked
    · obtain ⟨upper, there⟩ := at?_above here (List.isPrefixOf_iff_prefix.mpr onWay)
      rw [FlatMap.at?, lookup_flat, free] at there
      cases there
    · exact clear blocked

open scoped Classical in
theorem at?_plantEntry (fs : FileSystem) (entry : ManifestEntry) (path : Path) :
    (fs.plantEntry entry).flat.at? path =
      if fs.Gains entry path then
        some (if path = Path.root.resolve entry.path then entry.item else .folder)
      else fs.flat.at? path := by
  have planted := Entries.item?_plant fs.ordered entry.kind entry.content
    (Path.root.resolve entry.path).segments path.segments
  have same : path = Path.root.resolve entry.path ↔
      path.segments = (Path.root.resolve entry.path).segments :=
    ⟨congrArg Path.segments, congrArg Path.mk⟩
  rw [entry.item_bare] at planted
  simp only [gains_iff, same, FlatMap.at?, lookup_flat]
  exact planted

theorem plantEntry_of_refuses (refused : fs.Refuses entry) : fs.plantEntry entry = fs := by
  refine flat_injective (Finmap.ext_lookup fun names => ?_)
  have stays := at?_plantEntry fs entry ⟨names⟩
  rwa [if_neg fun gains => gains.2.1 refused] at stays

theorem at?_plantEntry_self (admitted : ¬ fs.Refuses entry) :
    (fs.plantEntry entry).flat.at? (Path.root.resolve entry.path) = some entry.item := by
  have free : fs.flat.at? (Path.root.resolve entry.path) = none :=
    Option.eq_none_iff_forall_ne_some.mpr fun item here => admitted (.inr (.inl ⟨item, here⟩))
  have onWay : (Path.root.resolve entry.path).isAtOrAbove (Path.root.resolve entry.path) :=
    List.isPrefixOf_iff_prefix.mpr List.prefix_rfl
  rw [at?_plantEntry, if_pos ⟨free, admitted, onWay⟩, if_pos rfl]

theorem plantEntry_eq_iff : fs.plantEntry entry = fs ↔ fs.Refuses entry := by
  refine ⟨fun same => ?_, plantEntry_of_refuses⟩
  by_contra admitted
  have here := at?_plantEntry_self admitted
  rw [same] at here
  exact admitted (.inr (.inl ⟨_, here⟩))

theorem Refuses.mono (refused : fs.Refuses entry) (within : fs.Within fs') :
    fs'.Refuses entry := by
  have kept (path : Path) (item : Item) (here : fs.flat.at? path = some item) :
      fs'.flat.at? path = some item := by
    rw [FlatMap.at?, lookup_flat] at here ⊢
    exact within _ _ here
  rcases refused with root | ⟨item, here⟩ | ⟨above, text, onWay, differ, file⟩
  · exact .inl root
  · exact .inr (.inl ⟨item, kept _ _ here⟩)
  · exact .inr (.inr ⟨above, text, onWay, differ, kept _ _ file⟩)

theorem refuses_plantEntry (fs : FileSystem) (entry : ManifestEntry) :
    (fs.plantEntry entry).Refuses entry := by
  by_cases refused : fs.Refuses entry
  · rwa [plantEntry_of_refuses refused]
  · exact .inr (.inl ⟨_, at?_plantEntry_self refused⟩)

theorem refuses_foldl (fs : FileSystem) {entries : List ManifestEntry} :
    ∀ entry ∈ entries, (entries.foldl plantEntry fs).Refuses entry := by
  induction entries generalizing fs with
  | nil => exact nofun
  | cons first rest ih =>
    refine List.forall_mem_cons.mpr ⟨?_, ih (fs.plantEntry first)⟩
    exact (fs.refuses_plantEntry first).mono (within_foldl _ rest)

theorem foldl_of_refuses {entries : List ManifestEntry}
    (refused : ∀ entry ∈ entries, fs.Refuses entry) : entries.foldl plantEntry fs = fs := by
  induction entries with
  | nil => rfl
  | cons first rest ih =>
    obtain ⟨here, later⟩ := List.forall_mem_cons.mp refused
    rw [List.foldl_cons, plantEntry_of_refuses here, ih later]

/-- One more entry keeps every node of the tree. It changes nothing exactly when it names the root
or an existing node, or a file lies above it; otherwise it adds its own node and the missing folders
above it, and nothing else. Planting any of the entries again, in any order, changes nothing. -/
theorem entries_only_add (entries : List ManifestEntry) (entry : ManifestEntry) :
    let fs := ofManifest entries
    let fs' := ofManifest (entries ++ [entry])
    let target := Path.root.resolve entry.path
    (∀ path item, fs.flat.at? path = some item → fs'.flat.at? path = some item) ∧
      (fs' = fs ↔ target = .root ∨ (∃ item, fs.flat.at? target = some item) ∨
        ∃ above text, above.isAtOrAbove target ∧ above ≠ target ∧
          fs.flat.at? above = some (.file text)) ∧
      (fs' ≠ fs → ∀ path, fs'.flat.at? path =
        if path = target then some entry.item
        else if path.isAtOrAbove target ∧ fs.flat.at? path = none then some .folder
        else fs.flat.at? path) ∧
      ∀ again ⊆ entries, ofManifest (entries ++ again) = fs := by
  intro fs fs' target
  have grown : fs' = fs.plantEntry entry := by
    simp only [fs', fs, ofManifest, List.foldl_append, List.foldl_cons, List.foldl_nil]
  refine ⟨fun path item here => ?_, ?_, fun differ path => ?_, fun again part => ?_⟩
  · rw [grown, FlatMap.at?, lookup_flat]
    exact within_plantEntry fs entry _ _ ((fs.lookup_flat _).symm.trans here)
  · rw [grown]
    exact plantEntry_eq_iff
  · rw [grown] at differ ⊢
    have admitted : ¬ fs.Refuses entry := fun refused => differ (plantEntry_of_refuses refused)
    by_cases same : path = target
    · rw [if_pos same, same, at?_plantEntry_self admitted]
    · rw [at?_plantEntry, if_neg same, if_neg same]
      split
      · next gains => rw [if_pos ⟨gains.2.2, gains.1⟩]
      · next stays => rw [if_neg fun missing => stays ⟨missing.2, admitted, missing.1⟩]
  · have refused : ∀ entry ∈ again, fs.Refuses entry :=
      fun entry he => refuses_foldl empty entry (part he)
    rw [ofManifest, List.foldl_append]
    exact foldl_of_refuses refused

/-- A new file is added with its content and a missing folder, and a file above an entry blocks its
folders too. -/
theorem entries_only_add_file :
    let entries : List ManifestEntry := [⟨"/a/t", .file, "old"⟩, ⟨"b", .folder, ""⟩]
    let grown := ofManifest (entries ++ [⟨"b/../a/./n/t", .file, "new\n"⟩])
    grown.flat.at? ⟨["a", "n", "t"]⟩ = some (.file "new\n") ∧
      grown.flat.at? ⟨["a", "n"]⟩ = some .folder ∧
      grown.flat.at? ⟨["a", "t"]⟩ = some (.file "old") ∧
      grown.flat.at? ⟨["a", "n", "u"]⟩ = none ∧
      ofManifest (entries ++ [⟨"a/t/n/t", .file, "new\n"⟩]) = ofManifest entries ∧
      ofManifest (entries ++ [⟨"b", .folder, ""⟩, ⟨"/a/t", .file, "old"⟩]) =
        ofManifest entries := by
  intro entries grown
  obtain ⟨kept, -, added, again⟩ := entries_only_add entries ⟨"b/../a/./n/t", .file, "new\n"⟩
  obtain ⟨-, unchanged, -, -⟩ := entries_only_add entries ⟨"a/t/n/t", .file, "new\n"⟩
  have old : (ofManifest entries).flat.at? ⟨["a", "t"]⟩ = some (.file "old") := by
    rw [at?_flat]
    decide +kernel
  have shown := added (by decide +kernel)
  refine ⟨(shown _).trans (if_pos (by decide +kernel)), ?_, kept _ _ old, ?_,
    unchanged.mpr (.inr (.inr ⟨⟨["a", "t"]⟩, "old", by decide +kernel, by decide +kernel, old⟩)),
    again _ (by decide +kernel)⟩
  · rw [shown, if_neg (by decide +kernel), if_pos]
    rw [at?_flat]
    decide +kernel
  · rw [shown, if_neg (by decide +kernel), if_neg (by decide +kernel), at?_flat]
    decide +kernel

end VirtualTerminal.FileSystem
