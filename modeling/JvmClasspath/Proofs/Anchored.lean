import JvmClasspath.Proofs.Moments
import Mathlib.Data.List.Sort

/-!
# The current directory does not matter

A path that starts at the root leads to the same place from every current directory. Files at such
paths, archives that are read from them, archives in memory, and all that lies inside, are called
anchored, and so are packages over them. Anchored files look the same in all file systems that
differ in the current directory alone, so anchored packages hold the same.
-/

namespace JvmClasspath

variable {files files' : FileSystem}

/-! ## File systems -/

namespace FileSystem

/-- Whether two file systems differ in the current directory at most: the same stands at every
place, the same places are forbidden, and the same directories are sealed. -/
structure SameTree (files files' : FileSystem) : Prop where
  entryAt? : ∀ place, files.entryAt? place = files'.entryAt? place
  forbidden : ∀ place, place ∈ files.forbidden ↔ place ∈ files'.forbidden
  sealed : ∀ place, place ∈ files.sealed ↔ place ∈ files'.sealed

namespace SameTree

theorem namesIn_eq (same : files.SameTree files') (place : List String) :
    files.namesIn place = files'.namesIn place := by
  apply (files.ascending_namesIn place).eq_of_mem_iff (files'.ascending_namesIn place)
  intro name
  rw [mem_namesIn, mem_namesIn, same.entryAt?]

theorem walk_eq (same : files.SameTree files') (place names : List String) :
    files.walk place names = files'.walk place names := by
  induction names generalizing place with
  | nil => rfl
  | cons name rest ih =>
    rw [walk, walk, same.entryAt?, ih, ih]
    simp only [same.sealed]

variable (same : files.SameTree files') {path : Path} (absolute : path.isAbsolute = true)

include same absolute

theorem resolve_eq : files.resolve path = files'.resolve path := by
  rw [resolve, resolve, start, start, if_pos absolute, if_pos absolute, same.walk_eq]
  simp only [same.entryAt?, same.sealed]

theorem lookUp_eq : files.lookUp path = files'.lookUp path := by
  rw [lookUp, lookUp, same.resolve_eq absolute]

theorem isDirectory_eq : files.isDirectory path = files'.isDirectory path := by
  rw [isDirectory, isDirectory, same.lookUp_eq absolute]

theorem isFile_eq : files.isFile path = files'.isFile path := by
  rw [isFile, isFile, same.lookUp_eq absolute]

theorem list_eq : files.list path = files'.list path := by
  rw [list, list, same.resolve_eq absolute]
  simp only [same.forbidden, same.namesIn_eq]

theorem read_eq : files.read path = files'.read path := by
  rw [read, read, same.resolve_eq absolute]
  simp only [same.forbidden]

end SameTree

theorem sameTree_changeDirectory (files : FileSystem) (place : List String) :
    files.SameTree (files.changeDirectory place) :=
  ⟨fun _ => rfl, fun _ => Iff.rfl, fun _ => Iff.rfl⟩

end FileSystem

open FileSystem (SameTree)

/-! ## Files -/

/-- Whether an archive is read from memory or from a path that starts at the root. -/
def Archive.Source.Anchored : Archive.Source → Prop
  | .path location => location.isAbsolute = true
  | .memory _ => True

/-- Whether a file has a path that starts at the root, or is of an archive that is read so. -/
def File.Anchored : File → Prop
  | .plain path => path.isAbsolute = true
  | .archive a => a.source.Anchored
  | .folder a _ _ => a.source.Anchored
  | .entry a _ => a.source.Anchored

theorem Archive.Source.Anchored.members_eq (same : files.SameTree files') {source : Archive.Source}
    (anchored : source.Anchored) : source.members files = source.members files' := by
  cases source with
  | path path => rw [members, members, same.read_eq anchored]
  | memory members => rfl

namespace File

theorem Anchored.isDirectory_eq (same : files.SameTree files') {file : File}
    (anchored : file.Anchored) : file.isDirectory files = file.isDirectory files' := by
  cases file with
  | plain path => exact same.isDirectory_eq anchored
  | archive archive => rfl
  | folder archive member children => rfl
  | entry archive member => rfl

theorem Anchored.children_eq (same : files.SameTree files') {file : File}
    (anchored : file.Anchored) : file.children files = file.children files' := by
  cases file with
  | plain path =>
    rw [children, children, same.isDirectory_eq anchored, same.list_eq anchored]
  | archive archive => rfl
  | folder archive member children => rfl
  | entry archive member => rfl

theorem Anchored.read_eq (same : files.SameTree files') {file : File} (anchored : file.Anchored) :
    file.read files = file.read files' := by
  cases file with
  | plain path => rw [read, read, same.read_eq anchored]
  | archive archive => rfl
  | folder archive member children => rfl
  | entry archive member =>
    rw [read, read, Archive.readMember, Archive.readMember,
      Archive.Source.Anchored.members_eq same anchored]

theorem anchored_ofTree {archive : Archive} (anchored : archive.source.Anchored) (above : String)
    (child : String × Archive.Tree) : (ofTree archive above child).Anchored := by
  rcases child with ⟨name, member | children⟩
  · exact anchored
  · exact anchored

theorem inherited_anchored : Inherited Anchored := by
  intro files file children anchored listed child mem
  cases file with
  | plain path =>
    rcases children_plain_eq_ok listed with rfl | ⟨names, -, rfl⟩
    · cases mem
    · rcases List.mem_map.1 mem with ⟨name, -, rfl⟩
      exact anchored
  | archive archive =>
    cases listed
    rcases List.mem_map.1 mem with ⟨tree, -, rfl⟩
    exact anchored_ofTree anchored _ tree
  | folder archive member children =>
    cases listed
    rcases List.mem_map.1 mem with ⟨tree, -, rfl⟩
    exact anchored_ofTree anchored _ tree
  | entry archive member =>
    cases listed
    cases mem

end File

/-! ## Classes and packages -/

/-- Whether the files of a class are anchored. -/
structure ClassRep.Anchored (rep : ClassRep) : Prop where
  binary : ∀ file ∈ rep.binary, file.Anchored
  source : ∀ file ∈ rep.source, file.Anchored

theorem ClassRep.Anchored.complete {a b : ClassRep} (anchored_a : a.Anchored)
    (anchored_b : b.Anchored) : (a.complete b).Anchored := by
  constructor
  · intro file given
    rcases Option.or_eq_some_iff.1 given with here | ⟨-, there⟩
    · exact anchored_a.binary file here
    · exact anchored_b.binary file there
  · intro file given
    rcases Option.or_eq_some_iff.1 given with here | ⟨-, there⟩
    · exact anchored_a.source file here
    · exact anchored_b.source file there

theorem ClassRep.anchored_of_represent {role : Role} {file : File} {rep : ClassRep}
    (anchored : file.Anchored) (represented : Package.represent role file = .ok rep) :
    rep.Anchored := by
  cases role with
  | binaries =>
    rcases ofFiles_eq_ok represented with ⟨binary, source⟩
    exact ⟨by simpa [binary] using anchored, by simp [source]⟩
  | sources =>
    rcases ofFiles_eq_ok represented with ⟨binary, source⟩
    exact ⟨by simp [binary], by simpa [source] using anchored⟩

namespace Package

open Query

/-- Whether a package is over anchored files. -/
def Anchored (package : Package) : Prop := package.Over File.Anchored fun _ => True

theorem Anchored.mayHold {package : Package} (anchored : package.Anchored)
    {packages : List Package} (held : package.MayHold packages) :
    ∀ inner ∈ packages, inner.Anchored :=
  Over.mayHold File.inherited_anchored anchored held

theorem Anchored.mayReach {top node : Package} (anchored : top.Anchored)
    (reached : top.MayReach node) : node.Anchored :=
  Over.mayReach File.inherited_anchored anchored reached

theorem Anchored.mayShow {package : Package} (anchored : package.Anchored) {reps : List ClassRep}
    (shown : package.MayShow reps) : ∀ rep ∈ reps, rep.Anchored :=
  Over.mayShow File.inherited_anchored
    (fun anchored _ _ represented => ClassRep.anchored_of_represent anchored represented)
    (fun anchored_a anchored_b _ => anchored_a.complete anchored_b) anchored shown

theorem Anchored.sourcePaths {package : Package} (anchored : package.Anchored) :
    ∀ file ∈ package.sourcePaths, file.Anchored := by
  unfold Anchored at anchored
  induction anchored with
  | directory built role anchored governed =>
    cases role with
    | binaries => simp [Package.sourcePaths]
    | sources => simpa [Package.sourcePaths] using anchored
  | merged built view governed each ih =>
    intro file mem
    rw [Package.sourcePaths, sourcePathsOf_eq] at mem
    rcases List.mem_flatMap.1 mem with ⟨entry, inEntries, mem⟩
    exact ih entry inEntries file mem

/-! ### What anchored packages hold -/

/-- Which children are kept for their kind and name. -/
theorem filterM_anchored (same : files.SameTree files') {children : List File}
    (anchored : ∀ child ∈ children, child.Anchored) (kinds : Bool → Bool) (test : String → Bool) :
    (children.filterM fun child => do
      return kinds (← child.isDirectory files) && test child.name) =
    children.filterM fun child => do
      return kinds (← child.isDirectory files') && test child.name := by
  apply Collecting.filterM_congr
  intro child mem
  rw [(anchored child mem).isDirectory_eq same]

theorem classesIn_eq (same : files.SameTree files') {role : Role} {file : File} {policy : Policy}
    (anchored : file.Anchored) :
    classesIn files role file policy = classesIn files' role file policy := by
  rw [classesIn, classesIn, anchored.children_eq same]
  apply Collecting.bind_congr_of_ok
  intro children listed
  rw [filterM_anchored same (File.inherited_anchored anchored listed) not]

theorem packagesIn_eq (same : files.SameTree files') {built : Nat} {role : Role} {file : File}
    {policy : Policy} (anchored : file.Anchored) :
    packagesIn files built role file policy = packagesIn files' built role file policy := by
  rw [packagesIn, packagesIn, anchored.children_eq same]
  apply Collecting.bind_congr_of_ok
  intro children listed
  rw [filterM_anchored same (File.inherited_anchored anchored listed) fun kind => kind]

theorem classesOfAll_congr {entries : List Package}
    (each : ∀ entry ∈ entries, entry.classes files = entry.classes files') :
    classesOfAll files entries = classesOfAll files' entries := by
  induction entries with
  | nil => simp only [classesOfAll]
  | cons entry rest ih =>
    rw [List.forall_mem_cons] at each
    rw [classesOfAll, classesOfAll, each.1, ih each.2]

theorem packagesOfAll_congr {entries : List Package}
    (each : ∀ entry ∈ entries, entry.packages files = entry.packages files') :
    packagesOfAll files entries = packagesOfAll files' entries := by
  induction entries with
  | nil => simp only [packagesOfAll]
  | cons entry rest ih =>
    rw [List.forall_mem_cons] at each
    rw [packagesOfAll, packagesOfAll, each.1, ih each.2]

theorem Anchored.classes_eq (same : files.SameTree files') {package : Package}
    (anchored : package.Anchored) : package.classes files = package.classes files' := by
  unfold Anchored at anchored
  induction anchored with
  | directory built role anchored governed =>
    rw [classes, classes, classesIn_eq same anchored]
  | merged built view governed each ih =>
    rw [classes, classes, classesOfAll_congr ih]

theorem Anchored.packages_eq (same : files.SameTree files') {package : Package}
    (anchored : package.Anchored) : package.packages files = package.packages files' := by
  unfold Anchored at anchored
  induction anchored with
  | directory built role anchored governed =>
    rw [packages, packages, packagesIn_eq same anchored]
  | merged built view governed each ih =>
    rw [packages, packages, packagesOfAll_congr ih]

/-! ### What they are asked -/

theorem Anchored.descend_alike (same : files.SameTree files') {package : Package}
    (anchored : package.Anchored) (names : List String) :
    (descend files package names).Alike (descend files' package names) := by
  induction names generalizing package with
  | nil => exact .of_eq rfl
  | cons first rest ih =>
    rw [descend, descend, anchored.packages_eq same]
    apply Alike.bind (packages_gives files' package) (.of_eq rfl)
    intro packages held
    cases found : packages.find? (·.name = first) with
    | none => exact .of_eq rfl
    | some child => exact ih (anchored.mayHold held child (List.mem_of_find?_eq_some found))

theorem Anchored.findAlong_alike (same : files.SameTree files') {package : Package}
    (anchored : package.Anchored) (names : List String) :
    (findAlong files package names).Alike (findAlong files' package names) := by
  induction names generalizing package with
  | nil =>
    rw [findAlong, findAlong]
    exact .of_eq rfl
  | cons first rest ih =>
    cases rest with
    | nil =>
      rw [findAlong, findAlong, anchored.classes_eq same]
      exact .of_eq rfl
    | cons second rest =>
      have more : second :: rest ≠ [] := List.cons_ne_nil second rest
      rw [findAlong_cons _ _ _ more, findAlong_cons _ _ _ more, anchored.packages_eq same]
      apply Alike.bind (packages_gives files' package) (.of_eq rfl)
      intro packages held
      cases found : packages.find? (·.name = first) with
      | none => exact .of_eq rfl
      | some child =>
        have below := ih (anchored.mayHold held child (List.mem_of_find?_eq_some found))
        cases stray : child.strayAnswer? with
        | some answer =>
          simp only [stray]
          exact .of_eq rfl
        | none =>
          simp only [stray]
          exact below

/-- An anchored package is asked alike in file systems of the same tree. -/
theorem Anchored.ask_alike (same : files.SameTree files') {package : Package}
    (anchored : package.Anchored) (question : Question) :
    (package.ask files question).Alike (package.ask files' question) := by
  have found : ∀ name, (package.findClass files name).Alike (package.findClass files' name) :=
    fun name => anchored.findAlong_alike same _
  cases question with
  | classes =>
    rw [ask, ask, anchored.classes_eq same]
    exact .of_eq rfl
  | packages =>
    rw [ask, ask, anchored.packages_eq same]
    exact .of_eq rfl
  | sourcePaths => exact .of_eq rfl
  | findClass name =>
    exact Alike.bind (findAlong_gives files package _) (found name) fun _ _ => .of_eq rfl
  | findSourceFile name =>
    rw [ask, ask, findSourceFile, findSourceFile]
    simp only [bind_assoc, pure_bind]
    exact Alike.bind (findAlong_gives files package _) (found name) fun _ _ => .of_eq rfl
  | findPackage name =>
    exact Alike.bind (descend_gives files package _) (anchored.descend_alike same _)
      fun _ _ => .of_eq rfl

end Package

/-- Whether all that an answer tells of is anchored. -/
def Answer.Anchored : Answer → Prop
  | .classes reps => ∀ rep ∈ reps, rep.Anchored
  | .packages inside => ∀ package ∈ inside, package.Anchored
  | .sourcePaths files => ∀ file ∈ files, file.Anchored
  | .foundClass found => ∀ rep ∈ found, rep.Anchored
  | .foundSourceFile found => ∀ file ∈ found, file.Anchored
  | .foundPackage found => ∀ package ∈ found, package.Anchored

/-- What an anchored package may answer is anchored. -/
theorem Package.Anchored.mayAnswer {package : Package} (anchored : package.Anchored)
    {answer : Answer} (given : package.MayAnswer answer) : answer.Anchored := by
  have found : ∀ {rep : ClassRep}, package.MayFind rep → rep.Anchored := by
    rintro rep ⟨holder, reps, reached, shown, mem⟩
    exact (anchored.mayReach reached).mayShow shown rep mem
  cases answer with
  | classes reps => exact anchored.mayShow given
  | packages packages => exact anchored.mayHold given
  | sourcePaths files => exact fun file mem => anchored.sourcePaths file (given ▸ mem)
  | foundClass rep => exact fun rep mem => found (given rep mem)
  | foundSourceFile file =>
    intro file mem
    rcases given file mem with ⟨rep, leads, source⟩
    exact (found leads).source file source
  | foundPackage node => exact fun node mem => anchored.mayReach (given node mem)

end JvmClasspath
