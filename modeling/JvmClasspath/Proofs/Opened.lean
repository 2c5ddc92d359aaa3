import JvmClasspath.Proofs.ArchiveTree
import JvmClasspath.Proofs.Listing
import JvmClasspath.Proofs.Scan

/-!
# Packages over files that were opened

A file comes from the file system, from opening an archive, or from listing a directory. Whatever
its kind, its children then have different simple names, so a package over a directory never shows
two packages of one name.

A package over directories, or over other such packages as one, is called built. What stands below
a built package is built again, and has a name of its own: the whole class path, which has none,
stands only at the top.
-/

namespace JvmClasspath

/-! ## Files -/

/-- The files there can be: those of the file system, opened archives, and children of such. -/
inductive File.Opened : File → Prop where
  | plain (path : Path) : Opened (.plain path)
  | archive {archive : Archive} (members : List Member)
      (indexed : archive.children = Archive.index members) : Opened (.archive archive)
  | child {files : FileSystem} {file child : File} {children : List File} (opened : file.Opened)
      (listed : file.children files = .ok children) (mem : child ∈ children) : Opened child

namespace File

/-- Whether the trees that a file shows are sound, and its member path is one of a directory. -/
def Sound : File → Prop
  | plain _ => True
  | archive a => (Archive.Tree.directory a.children).Sound
  | folder _ member children =>
    (∃ front, member = front ++ "/") ∧ (Archive.Tree.directory children).Sound
  | entry .. => True

/-- The children of a directory inside an archive are sound and have the names they stand under. -/
theorem ofTree_sound {a : Archive} {above : String}
    (opened : above = "" ∨ ∃ front, above = front ++ "/") {children : Archive.Children}
    (sound : (Archive.Tree.directory children).Sound)
    {child : String × Archive.Tree} (mem : child ∈ children) :
    (ofTree a above child).Sound ∧ (ofTree a above child).name = child.1 := by
  cases sound with
  | directory _ component simple below =>
    rcases child with ⟨name, tree⟩
    cases tree with
    | file member => exact ⟨trivial, simple _ mem member rfl⟩
    | directory inner =>
      exact ⟨⟨⟨above ++ name, rfl⟩, below _ mem⟩,
        Archive.memberName_folder (component _ mem) opened⟩

/-- The children of a plain file are its listed names, and none if it is no directory or cannot be
listed. -/
theorem children_plain_eq_ok {files : FileSystem} {path : Path} {children : List File}
    (listed : (plain path).children files = .ok children) :
    children = [] ∨
      ∃ names, files.list path = .ok names ∧
        children = names.map fun name => plain (path.child name) := by
  rw [File.children] at listed
  cases answer : files.isDirectory path with
  | error failure =>
    rw [answer] at listed
    cases listed
  | ok isDirectory =>
    rw [answer] at listed
    cases isDirectory with
    | false =>
      cases listed
      exact .inl rfl
    | true =>
      cases names : files.list path with
      | error failure =>
        simp only [names] at listed
        cases listed
        exact .inl rfl
      | ok names =>
        simp only [names] at listed
        cases listed
        exact .inr ⟨_, rfl, rfl⟩

/-- The children of a sound file are sound, and no two have one name. -/
theorem Sound.children {files : FileSystem} {file : File} {children : List File}
    (sound : file.Sound) (listed : file.children files = .ok children) :
    (∀ child ∈ children, child.Sound) ∧ (children.map File.name).Nodup := by
  have inArchive : ∀ {a : Archive} {above : String} {trees : Archive.Children},
      (above = "" ∨ ∃ front, above = front ++ "/") → (Archive.Tree.directory trees).Sound →
      (∀ child ∈ trees.map (ofTree a above), child.Sound) ∧
        ((trees.map (ofTree a above)).map File.name).Nodup := by
    intro a above trees opened sound
    have each : ∀ tree ∈ trees, (ofTree a above tree).Sound ∧ (ofTree a above tree).name = tree.1 :=
      fun tree mem => ofTree_sound opened sound mem
    constructor
    · intro child mem
      rcases List.mem_map.1 mem with ⟨tree, inTrees, rfl⟩
      exact (each tree inTrees).1
    · have names : (trees.map (ofTree a above)).map File.name = trees.map Prod.fst := by
        rw [List.map_map]
        exact List.map_congr_left fun tree mem => (each tree mem).2
      rw [names]
      exact sound.ascending.imp Std.ne_of_lt
  cases file with
  | plain path =>
    rcases children_plain_eq_ok listed with rfl | ⟨names, answer, rfl⟩
    · simp
    · rcases FileSystem.list_eq_ok answer with ⟨place, -, rfl⟩
      have different : (files.namesIn place).Nodup :=
        (files.ascending_namesIn place).imp Std.ne_of_lt
      refine ⟨by simp [Sound], ?_⟩
      simpa [Function.comp_def, File.name, Path.name, Path.child] using different
  | archive a =>
    cases listed
    exact inArchive (.inl rfl) sound
  | folder a member trees =>
    cases listed
    exact inArchive (.inr sound.1) sound.2
  | entry a member =>
    cases listed
    simp

/-- Whether a property of files is handed on to what they hold. -/
def Inherited (P : File → Prop) : Prop :=
  ∀ {files : FileSystem} {file : File} {children : List File}, P file →
    file.children files = .ok children → ∀ child ∈ children, P child

theorem inherited_opened : Inherited Opened :=
  fun opened listed _ mem => opened.child listed mem

theorem Opened.sound {file : File} (opened : file.Opened) : file.Sound := by
  induction opened with
  | plain path => trivial
  | archive members indexed =>
    rw [Sound, indexed]
    exact Archive.sound_index members
  | child opened listed mem ih => exact (ih.children listed).1 _ mem

end File

/-! ## Packages -/

namespace Package

/-- Packages over files that were opened, and merges of such packages, the whole class path among
them. -/
inductive Built : Package → Prop where
  | directory (built : Nat) (role : Role) {file : File} (policy : Policy) (opened : file.Opened) :
      Built (.directory built role file policy)
  | merged (built : Nat) (view : View) {entries : List Package} (policy : Policy)
      (each : ∀ entry ∈ entries, Built entry) : Built (.merged built view entries policy)

/-- Built packages that have a name of their own, as all that stand below others have. -/
inductive Inner : Package → Prop where
  | directory (built : Nat) (role : Role) {file : File} (policy : Policy) (opened : file.Opened) :
      Inner (.directory built role file policy)
  | merged (built : Nat) {first : Package} {rest : List Package} (policy : Policy)
      (each : ∀ entry ∈ first :: rest, Inner entry) :
      Inner (.merged built .part (first :: rest) policy)

theorem Inner.isBuilt {package : Package} (inner : package.Inner) : package.Built := by
  induction inner with
  | directory built role policy opened => exact .directory built role policy opened
  | merged built policy each ih => exact .merged built .part policy ih

/-- Packages over files with a property `P` and merges of such packages, all of policies with a
property `Q`. -/
inductive Over (P : File → Prop) (Q : Policy → Prop) : Package → Prop where
  | directory (built : Nat) (role : Role) {file : File} {policy : Policy} (fits : P file)
      (governed : Q policy) : Over P Q (.directory built role file policy)
  | merged (built : Nat) (view : View) {entries : List Package} {policy : Policy}
      (governed : Q policy) (each : ∀ entry ∈ entries, Over P Q entry) :
      Over P Q (.merged built view entries policy)

theorem Over.isBuilt {Q : Policy → Prop} {package : Package} (lies : package.Over File.Opened Q) :
    package.Built := by
  induction lies with
  | directory built role opened governed => exact .directory built role _ opened
  | merged built view governed each ih => exact .merged built view _ ih

theorem Over.imp {P : File → Prop} {Q Q' : Policy → Prop} {package : Package}
    (lies : package.Over P Q) (weaker : ∀ policy, Q policy → Q' policy) : package.Over P Q' := by
  induction lies with
  | directory built role fits governed => exact .directory built role fits (weaker _ governed)
  | merged built view governed each ih => exact .merged built view (weaker _ governed) ih

theorem Over.policy {P : File → Prop} {Q : Policy → Prop} {package : Package}
    (lies : package.Over P Q) : Q package.policy := by
  cases lies with
  | directory built role fits governed => exact governed
  | merged built view governed each => exact governed

end Package

end JvmClasspath
