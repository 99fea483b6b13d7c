import VirtualTerminal.Manifest
import VirtualTerminal.Proofs.FileWrites
import VirtualTerminal.Proofs.PathNames

/-! # Names of entries

Every operation that adds an entry gives it a plain name. Hence the written path of every entry
resolves to that entry from every folder. -/
namespace VirtualTerminal

mutual

/-- Every entry of the node, at any depth, has a plain name. -/
def Node.Named : Node → Prop
  | .file _ => True
  | .folder entries => entries.Named

def Entries.Named : Entries → Prop
  | .nil => True
  | .cons name node rest => PlainName name ∧ node.Named ∧ rest.Named

end

theorem Node.bare_named (kind : Kind) (text : String) : (Node.bare kind text).Named := by
  cases kind <;> trivial

namespace Entries

theorem Named.find? {entries : Entries} (h : entries.Named) {name : String} {node : Node}
    (hf : entries.find? name = some node) : PlainName name ∧ node.Named := by
  induction entries using Entries.rec (motive_1 := fun _ => True) with
  | file => trivial
  | folder => trivial
  | nil => cases hf
  | cons head first rest _ ih =>
    obtain ⟨plain, named, hr⟩ := h
    rw [Entries.find?] at hf
    split at hf
    · next same =>
      cases hf
      exact ⟨same ▸ plain, named⟩
    · exact ih hr hf

theorem Named.lookup {entries : Entries} (h : entries.Named) {names : List String} {node : Node}
    (hl : entries.lookup names = some node) : ∀ name ∈ names, PlainName name := by
  induction names generalizing entries with
  | nil => exact nofun
  | cons name rest ih =>
    rw [lookup_cons] at hl
    obtain ⟨first, hf, hl⟩ := Option.bind_eq_some_iff.mp hl
    obtain ⟨plain, named⟩ := h.find? hf
    refine List.forall_mem_cons.mpr ⟨plain, ?_⟩
    cases first with
    | folder inner => exact ih named hl
    | file text =>
      rw [Node.lookup] at hl
      split at hl
      · next last =>
        rw [last]
        exact nofun
      · cases hl

theorem Named.set {entries : Entries} (h : entries.Named) {name : String} {value : Option Node}
    (hv : ∀ node ∈ value, PlainName name ∧ node.Named) : (entries.set name value).Named := by
  induction entries using Entries.rec (motive_1 := fun _ => True) with
  | file => trivial
  | folder => trivial
  | nil =>
    cases value with
    | none => trivial
    | some node => exact ⟨(hv node rfl).1, (hv node rfl).2, trivial⟩
  | cons head first rest _ ih =>
    obtain ⟨plain, named, hr⟩ := h
    unfold Entries.set
    split
    · cases value with
      | none => exact ⟨plain, named, hr⟩
      | some node => exact ⟨(hv node rfl).1, (hv node rfl).2, plain, named, hr⟩
    · split
      · cases value with
        | none => exact hr
        | some node => exact ⟨(hv node rfl).1, (hv node rfl).2, hr⟩
      · exact ⟨plain, named, ih hr⟩

theorem Named.set_some {entries : Entries} (h : entries.Named) {name : String} {node : Node}
    (plain : PlainName name) (named : node.Named) : (entries.set name (some node)).Named := by
  refine h.set fun _ hn => ?_
  cases hn
  exact ⟨plain, named⟩

theorem Named.write {entries : Entries} (h : entries.Named) {path : List String}
    {value : Option Node} (hv : ∀ node ∈ value, (∀ name ∈ path, PlainName name) ∧ node.Named) :
    (entries.write value path).Named := by
  fun_induction Entries.write value path entries with
  | case1 => exact h
  | case2 name entries =>
    exact h.set fun node hn => ⟨(hv node hn).1 name List.mem_cons_self, (hv node hn).2⟩
  | case3 name names entries _ inner hf ih =>
    obtain ⟨plain, named⟩ := h.find? hf
    refine h.set_some plain (ih named fun node hn => ?_)
    exact ⟨(List.forall_mem_cons.mp (hv node hn).1).2, (hv node hn).2⟩
  | case4 => exact h

theorem Named.plant {entries : Entries} (h : entries.Named) {path : List String}
    (hp : ∀ name ∈ path, PlainName name) {node : Node} (hn : node.Named) :
    (entries.plant node path).Named := by
  fun_induction Entries.plant node path entries with
  | case1 | case3 | case6 => exact h
  | case2 name entries hf => exact h.set_some (hp name List.mem_cons_self) hn
  | case4 name names entries _ hf ih =>
    obtain ⟨plain, rest⟩ := List.forall_mem_cons.mp hp
    exact h.set_some plain (ih trivial rest)
  | case5 name names entries _ inner hf ih =>
    obtain ⟨plain, rest⟩ := List.forall_mem_cons.mp hp
    exact h.set_some plain (ih (h.find? hf).2 rest)

end Entries

namespace Path

/-- The paths available to a caller: the root, and the result of resolving a written path from
another. -/
inductive Resolved : Path → Prop
  | root : Resolved root
  | resolve {cwd : Path} (h : Resolved cwd) (written : String) : Resolved (cwd.resolve written)

theorem Resolved.plain {p : Path} (h : p.Resolved) : p.Plain := by
  induction h with
  | root => exact plain_root
  | resolve _ written ih => exact plain_resolve ih written

end Path

theorem Document.Toml.readLines?_join {rows : List String} (hn : rows ≠ [])
    (unbroken : ∀ row ∈ rows, '\n' ∉ row.toList)
    (unmarked : (Text.join '\n' rows).toList.head? ≠ some '\uFEFF') :
    readLines? (Text.join '\n' rows) = (lines rows).mapM line? := by
  rw [readLines?, if_neg unmarked, String.ofList_toList, Text.split_join hn unbroken]

def Operation.cwd? : Operation → Option Path
  | .list cwd _ | .changeFolder cwd _ | .read cwd _ | .makeFolder cwd _ | .makeFile cwd _
  | .createFile cwd _ _ | .remove cwd _ | .beginEdit cwd _ => some cwd
  | .lookup _ | .appendLine _ _ => none

namespace FileSystem

inductive Call
  | operation (op : Operation)
  | saveScript (cwd : Path) (name : String) (lines : List String)

def Call.cwd? : Call → Option Path
  | .operation op => op.cwd?
  | .saveScript cwd _ _ => some cwd

def call (fs : FileSystem) : Call → FileSystem
  | .operation op => (fs.perform op).2
  | .saveScript cwd name lines => (Script.trySave fs cwd name lines).2

def callAll (fs : FileSystem) (calls : List Call) : FileSystem := calls.foldl call fs

def Named (fs : FileSystem) : Prop := fs.entries.Named

theorem Named.plain {fs : FileSystem} (h : fs.Named) {path : Path} {node : Node}
    (hl : fs.lookup path = some node) : path.Plain := Entries.Named.lookup h hl

theorem Named.put {fs : FileSystem} (h : fs.Named) {path : Path} (hp : path.Plain) (kind : Kind)
    (text : String) : (fs.put path kind text).Named :=
  Entries.Named.write h fun _ hn => by cases hn; exact ⟨hp, Node.bare_named kind text⟩

theorem Named.erase {fs : FileSystem} (h : fs.Named) (path : Path) : (fs.erase path).Named :=
  Entries.Named.write h nofun

theorem Named.insert {fs fs' : FileSystem} (h : fs.Named) {cwd : Path} (hc : cwd.Plain)
    {name : String} {kind : Kind} {text what leaf : String}
    (done : fs.insert cwd name kind text what = .ok (fs', leaf)) : fs'.Named := by
  rw [(eq_put_of_insert done).2]
  exact h.put (Path.plain_resolve hc name) kind text

theorem Named.remove {fs fs' : FileSystem} (h : fs.Named) {cwd : Path} {name leaf : String}
    (done : fs.remove cwd name = .ok (fs', leaf)) : fs'.Named := by
  rw [eq_erase_of_remove done]
  exact h.erase (cwd.resolve name)

/-- A line is appended only to an existing file, whose path already consists of plain names. -/
theorem Named.appendLine {fs fs' : FileSystem} (h : fs.Named) {handle : EditHandle} {line : String}
    (done : fs.appendLine handle line = .ok fs') : fs'.Named := by
  obtain ⟨text, here, rfl⟩ := eq_put_of_appendLine done
  exact h.put (h.plain here) .file (text ++ line ++ "\n")

theorem Named.writing {fs : FileSystem} (h : fs.Named)
    {result : Except FileError (FileSystem × String)}
    (hr : ∀ {fs' leaf}, result = .ok (fs', leaf) → fs'.Named) : (fs.writing result).2.Named := by
  cases result with
  | error e => exact h
  | ok saved => exact hr rfl

theorem Named.perform {fs : FileSystem} (h : fs.Named) {op : Operation}
    (hc : ∀ cwd ∈ op.cwd?, cwd.Plain) : (fs.perform op).2.Named := by
  cases op with
  | lookup | list | changeFolder | read | beginEdit => exact h
  | makeFolder cwd name =>
    rw [perform_makeFolder]
    exact h.writing (h.insert (hc cwd rfl))
  | makeFile cwd name =>
    rw [perform_makeFile]
    exact h.writing (h.insert (hc cwd rfl))
  | createFile cwd name text =>
    rw [perform_createFile]
    exact h.writing (h.insert (hc cwd rfl))
  | remove cwd name =>
    rw [perform_remove]
    exact h.writing h.remove
  | appendLine handle line =>
    rw [perform_appendLine]
    split
    · next done => exact h.appendLine done
    · exact h

theorem Named.call {fs : FileSystem} (h : fs.Named) {c : Call} (hc : ∀ cwd ∈ c.cwd?, cwd.Plain) :
    (fs.call c).Named := by
  cases c with
  | operation op => exact h.perform hc
  | saveScript cwd name lines =>
    rw [FileSystem.call, Script.trySave_eq]
    cases done : Script.save fs cwd name lines with
    | error e => exact h
    | ok saved => exact h.insert (hc cwd rfl) (Script.createFile_of_save done)

theorem Named.callAll {fs : FileSystem} (h : fs.Named) {calls : List Call}
    (hc : ∀ c ∈ calls, ∀ cwd ∈ c.cwd?, cwd.Plain) : (fs.callAll calls).Named := by
  induction calls generalizing fs with
  | nil => exact h
  | cons c rest ih =>
    obtain ⟨first, others⟩ := List.forall_mem_cons.mp hc
    exact ih (h.call first) others

inductive Initial : FileSystem → Prop
  | empty : Initial empty
  | manifest (entries : List ManifestEntry) : Initial (ofManifest entries)
  | seeded : Initial seeded
  | defaultTree : Initial defaultTree

theorem Named.plantEntry {fs : FileSystem} (h : fs.Named) (entry : ManifestEntry) :
    (fs.plantEntry entry).Named :=
  Entries.Named.plant h (Path.plain_resolve Path.plain_root entry.path)
    (Node.bare_named entry.kind entry.content)

theorem named_ofManifest (entries : List ManifestEntry) : (ofManifest entries).Named := by
  have planted (fs : FileSystem) (h : fs.Named) : (entries.foldl plantEntry fs).Named := by
    induction entries generalizing fs with
    | nil => exact h
    | cons entry rest ih => exact ih _ (h.plantEntry entry)
  exact planted empty trivial

theorem ofToml?_seedText : ManifestEntry.ofToml? seedText = some [
    ⟨"readme.txt", .file, "Welcome to ARM-23 virtual terminal!"⟩, ⟨"docs", .folder, ""⟩] := by
  have unmarked : seedText.toList.head? ≠ some '\uFEFF' := by
    unfold seedText
    rw [Text.join, String.toList_ofList]
    decide +kernel
  unfold seedText at unmarked ⊢
  rw [ManifestEntry.ofToml?, Document.Toml.parse?,
    Document.Toml.readLines?_join (by decide) (by decide +kernel) unmarked]
  decide +kernel

theorem seeded_of_read {entries : List ManifestEntry}
    (read : ManifestEntry.ofToml? seedText = some entries) : seeded = ofManifest entries := by
  rw [seeded, read]

theorem defaultTree_eq_seeded : defaultTree = seeded := by
  rw [seeded_of_read ofToml?_seedText]
  decide

theorem named_seeded : seeded.Named := by
  rw [seeded_of_read ofToml?_seedText]
  exact named_ofManifest _

theorem Initial.named {fs : FileSystem} (h : fs.Initial) : fs.Named := by
  cases h with
  | empty => exact trivial
  | manifest entries => exact named_ofManifest entries
  | seeded => exact named_seeded
  | defaultTree => exact defaultTree_eq_seeded ▸ named_seeded

def nodes (fs : FileSystem) : List (Path × Node) := (Path.root, .folder fs.entries) :: fs.contents

theorem mem_nodes {fs : FileSystem} {path : Path} {node : Node} :
    (path, node) ∈ fs.nodes ↔ fs.lookup path = some node := by
  rw [nodes, List.mem_cons, contents, List.mem_map]
  obtain ⟨segments⟩ := path
  constructor
  · rintro (root | ⟨⟨names, below⟩, listed, same⟩)
    · cases root
      rfl
    · cases same
      obtain ⟨name, rest, whole, found⟩ := (Entries.mem_descendants fs.ordered).mp listed
      rw [List.nil_append] at whole
      rw [lookup, whole, found]
  · intro found
    cases segments with
    | nil =>
      cases found
      exact .inl rfl
    | cons name rest =>
      have listed : (name :: rest, node) ∈ fs.entries.descendants [] :=
        (Entries.mem_descendants fs.ordered).mpr ⟨name, rest, rfl, found⟩
      exact .inr ⟨_, listed, rfl⟩

/-- After any calls on the file system of any manifest, every entry has a plain name, and every node
is reached by its written path from every folder. -/
theorem calls_keep_nodes_addressable {start : FileSystem} (initial : start.Initial)
    {calls : List Call} (resolved : ∀ c ∈ calls, ∀ cwd ∈ c.cwd?, cwd.Resolved) :
    let fs := start.callAll calls
    fs.entries.Named ∧
      ∀ path node, (path, node) ∈ fs.nodes → ∀ cwd : Path,
        cwd.resolve path.toText = path ∧ fs.lookup (cwd.resolve path.toText) = some node := by
  intro fs
  have named : fs.Named :=
    initial.named.callAll fun c hc cwd h => (resolved c hc cwd h).plain
  refine ⟨named, fun path node hn cwd => ?_⟩
  have found : fs.lookup path = some node := mem_nodes.mp hn
  have written : cwd.resolve path.toText = path := Path.resolve_toText (named.plain found) cwd
  exact ⟨written, written.symm ▸ found⟩

/-- Parents of a manifest's entry made on the way, an entry blocked by a file, names with dots and
slashes, and scripts named well and badly. -/
theorem calls_keep_nodes_addressable_nested :
    let start := ofManifest
      [⟨"a/./b//c.txt", .file, "x"⟩, ⟨"a/b/c.txt/d", .folder, ""⟩, ⟨"../docs", .folder, ""⟩]
    let cwd := Path.root.resolve "docs"
    let calls : List Call :=
      [.operation (.makeFolder cwd "../docs/new/"), .operation (.makeFile cwd "..."),
        .operation (.createFile (cwd.resolve "new") "./e" "y"), .saveScript cwd "my script" ["ls"],
        .saveScript cwd "a/b" ["ls"], .operation (.remove cwd "/docs/new/e")]
    let fs := start.callAll calls
    start.Initial ∧ (∀ c ∈ calls, ∀ cwd ∈ c.cwd?, cwd.Resolved) ∧
      (fs.nodes.map fun entry => entry.1.toText) =
        ["/", "/a", "/a/b", "/a/b/c.txt", "/docs", "/docs/my script", "/docs/new"] ∧
      fs.entries.Named ∧
      ∀ path node, (path, node) ∈ fs.nodes → ∀ cwd : Path,
        cwd.resolve path.toText = path ∧ fs.lookup (cwd.resolve path.toText) = some node := by
  intro start cwd calls fs
  have initial : start.Initial := .manifest _
  have docs : cwd.Resolved := .resolve .root "docs"
  have resolved : ∀ c ∈ calls, ∀ cwd ∈ c.cwd?, cwd.Resolved := by
    simp [calls, Call.cwd?, Operation.cwd?, docs, docs.resolve]
  exact ⟨initial, resolved, by decide +kernel, calls_keep_nodes_addressable initial resolved⟩

end FileSystem
end VirtualTerminal
