import JvmClasspath.Proofs.Collecting
import JvmClasspath.Proofs.Holding
import JvmClasspath.Proofs.Keyed

/-!
# Merged classes and packages

Classes are merged by their simple names, where one completes another, and packages by theirs, where
one joins the entries of another. Completing is associative; a package's entries are kept in the
order in which they joined.

Every scan of a built package finds packages of different names, whether they lie in one directory
or were merged.
-/

namespace JvmClasspath

open Keyed

/-! ## Classes -/

namespace ClassRep

/-- Completing fills each of the two files from the left. -/
instance : Std.Associative ClassRep.complete where
  assoc _ _ _ := ClassRep.ext (Option.or_assoc ..) (Option.or_assoc ..)

theorem name_complete {a b : ClassRep} (same : a.name = b.name) : (a.complete b).name = a.name := by
  simp [complete, same]

end ClassRep

namespace Package

theorem classLaws : Laws ClassRep.name ClassRep.complete (fun _ => True) where
  closed _ _ _ := trivial
  key_join _ _ same := ClassRep.name_complete same

theorem addClass_eq (rep : ClassRep) (reps : List ClassRep) :
    addClass rep reps = add ClassRep.name ClassRep.complete rep reps := by
  induction reps with
  | nil => rfl
  | cons first rest ih => rw [addClass, add, ih]

theorem mergeClasses_eq (reps : List ClassRep) :
    mergeClasses reps = merge ClassRep.name ClassRep.complete reps := by
  simp only [mergeClasses, addClass_eq, merge]

/-- A merged class is what comes of completing the first class of its name by all later ones. -/
theorem find?_mergeClasses (reps : List ClassRep) (name : String) :
    (mergeClasses reps).find? (·.name = name) =
      joinAll ClassRep.complete (reps.filter (·.name = name)) := by
  rw [mergeClasses_eq]
  exact find?_merge classLaws (by simp) name

/-- Merged classes have different names. -/
theorem nodup_mergeClasses (reps : List ClassRep) :
    ((mergeClasses reps).map ClassRep.name).Nodup := by
  rw [mergeClasses_eq]
  exact nodup_merge classLaws (by simp)

/-! ## Packages -/

/-- A package that another one has joined. -/
def join (built : Nat) (policy : Policy) (first package : Package) : Package :=
  merged built .part (first.parts ++ [package]) policy

theorem addPackage_eq (built : Nat) (policy : Policy) (package : Package)
    (packages : List Package) :
    addPackage built policy package packages = add name (join built policy) package packages := by
  induction packages with
  | nil => rfl
  | cons first rest ih => rw [addPackage, add, ih, join]

theorem mergePackages_eq (built : Nat) (policy : Policy) (packages : List Package) :
    mergePackages built policy packages = merge name (join built policy) packages := by
  simp only [mergePackages, addPackage_eq, merge]

/-- A package with a name of its own has parts, each with a name of its own, and is named as the
first of them. -/
theorem Inner.parts {package : Package} (inner : package.Inner) :
    ∃ first rest, package.parts = first :: rest ∧ first.name = package.name ∧
      ∀ part ∈ first :: rest, part.Inner := by
  cases inner with
  | directory built role policy opened =>
    exact ⟨_, [], rfl, rfl, by simpa using .directory built role policy opened⟩
  | merged built policy each => exact ⟨_, _, rfl, rfl, each⟩

theorem Inner.join {a b : Package} (inner_a : a.Inner) (inner_b : b.Inner) (built : Nat)
    (policy : Policy) : (join built policy a b).Inner := by
  rcases inner_a.parts with ⟨first, rest, parts, -, each⟩
  rw [Package.join, parts, List.cons_append]
  apply Inner.merged
  intro entry mem
  rcases List.mem_append.1 (List.cons_append ▸ mem) with old | new
  · exact each entry old
  · exact List.mem_singleton.1 new ▸ inner_b

theorem packageLaws (built : Nat) (policy : Policy) : Laws name (join built policy) Inner where
  closed inner_a inner_b _ := inner_a.join inner_b built policy
  key_join := by
    intro a b inner_a _ _
    rcases inner_a.parts with ⟨first, rest, parts, named, -⟩
    rw [join, parts, List.cons_append, name, named]

/-- A merged package is what comes of joining all packages of its name in their order. -/
theorem find?_mergePackages (built : Nat) (policy : Policy) {packages : List Package}
    (inner : ∀ package ∈ packages, package.Inner) (simple : String) :
    (mergePackages built policy packages).find? (·.name = simple) =
      joinAll (join built policy) (packages.filter (·.name = simple)) := by
  rw [mergePackages_eq]
  exact find?_merge (packageLaws built policy) inner simple

theorem sourcePathsOf_eq (entries : List Package) :
    sourcePathsOf entries = entries.flatMap sourcePaths := by
  induction entries with
  | nil => rfl
  | cons entry rest ih => rw [sourcePathsOf, ih, List.flatMap_cons]

/-! ## What scans find -/

variable {files : FileSystem}

theorem scanPackagesOfAll_eq (entries : List Package) :
    scanPackagesOfAll files entries = Collecting.gather (scanPackages files) entries := by
  induction entries with
  | nil => rw [scanPackagesOfAll]; rfl
  | cons package rest ih => rw [scanPackagesOfAll, Collecting.gather_cons, ih]

theorem scanClassesOfAll_eq (entries : List Package) :
    scanClassesOfAll files entries = Collecting.gather (scanClasses files) entries := by
  induction entries with
  | nil => rw [scanClassesOfAll]; rfl
  | cons package rest ih => rw [scanClassesOfAll, Collecting.gather_cons, ih]

/-- What a built package may hold has a name that packages have, and all these names are
different. -/
theorem Built.mayHold {package : Package} (built : package.Built) {packages : List Package}
    (held : package.MayHold packages) :
    (∀ inner ∈ packages, inner.Inner ∧ Naming.isPackage inner.name = true) ∧
      (packages.map name).Nodup := by
  induction built generalizing packages with
  | directory built role policy opened =>
    cases held with
    | directory files found =>
      rcases packagesIn_eq_ok found with ⟨children, shown, listed, sublist, named, rfl⟩
      constructor
      · intro inner mem
        rcases List.mem_map.1 mem with ⟨child, inShown, rfl⟩
        exact ⟨.directory built role policy (opened.child listed (sublist.subset inShown)),
          named child inShown⟩
      · have different := ((opened.sound.children listed).2).sublist (sublist.map File.name)
        simpa [Function.comp_def, name] using different
  | merged built view policy each ih =>
    cases held with
    | merged heldEach =>
      rename_i lists
      have inside : ∀ inner ∈ lists.flatten, inner.Inner ∧ Naming.isPackage inner.name = true := by
        intro inner mem
        rcases Collecting.exists_of_mem_flatten heldEach mem with
          ⟨entry, inEntries, list, held, mem⟩
        exact (ih entry inEntries held).1 inner mem
      rw [mergePackages_eq]
      constructor
      · apply forall_merge _ inside
        intro a b inner_a inner_b same
        refine ⟨inner_a.1.join inner_b.1 built policy, ?_⟩
        rw [(packageLaws built policy).key_join inner_a.1 inner_b.1 same]
        exact inner_a.2
      · exact nodup_merge (packageLaws built policy) fun inner mem => (inside inner mem).1

/-- What a built package may lead to was built. -/
theorem Built.mayReach {top node : Package} (built : top.Built) (reached : top.MayReach node) :
    node.Built := by
  induction reached with
  | top => exact built
  | inside reached held mem ih => exact ((ih.mayHold held).1 _ mem).1.isBuilt

/-- What stands below a built package has a name of its own, and all these names are different. -/
theorem Built.scanPackages {package : Package} (built : package.Built) {packages : List Package}
    (found : package.scanPackages files = .ok packages) :
    (∀ inner ∈ packages, inner.Inner) ∧ (packages.map name).Nodup := by
  rcases built.mayHold (mayHold_of_scanPackages found) with ⟨inside, different⟩
  exact ⟨fun inner mem => (inside inner mem).1, different⟩

theorem inner_scanPackagesOfAll {entries : List Package} (each : ∀ entry ∈ entries, entry.Built)
    {packages : List Package} (found : scanPackagesOfAll files entries = .ok packages) :
    ∀ package ∈ packages, package.Inner := by
  rw [scanPackagesOfAll_eq] at found
  exact Collecting.forall_of_gather (fun entry mem _ here => ((each entry mem).scanPackages here).1)
    found

/-- Below a built package no stray answer is met, so a lookup goes on in the first package of its
first name. -/
theorem Built.classAt_cons_cons {package : Package} (built : package.Built) (first second : String)
    (rest : List String) :
    package.classAt files (first :: second :: rest) =
      package.scanPackages files >>= fun packages =>
        (packages.find? (·.name = first)).elim (.ok none) (classAt files · (second :: rest)) := by
  rw [classAt]
  cases scanned : package.scanPackages files with
  | error failure => rfl
  | ok packages =>
    simp only [bind, Except.bind]
    cases followed : packages.find? (·.name = first) with
    | none => rfl
    | some child =>
      have inner := (built.scanPackages scanned).1 child (List.mem_of_find?_eq_some followed)
      have regular : child.strayAnswer? = none := by
        cases inner <;> rfl
      simp only [regular, Option.elim_some]

/-! ## What is handed on -/

section

variable {P : File → Prop} {Q : Policy → Prop}

theorem Over.join {a b : Package} (lies_a : a.Over P Q) (lies_b : b.Over P Q) (built : Nat)
    {policy : Policy} (governed : Q policy) : (join built policy a b).Over P Q := by
  have parts : ∀ part ∈ a.parts, part.Over P Q := by
    cases lies_a with
    | directory built role fits governed =>
      intro part mem
      exact List.mem_singleton.1 mem ▸ .directory built role fits governed
    | merged built view governed each => exact each
  apply Over.merged built .part governed
  intro entry mem
  rcases List.mem_append.1 mem with old | new
  · exact parts entry old
  · exact List.mem_singleton.1 new ▸ lies_b

/-- What a package may hold is over files and of policies as the package itself is. -/
theorem Over.mayHold (inherited : File.Inherited P) {package : Package}
    (lies : package.Over P Q) {packages : List Package} (held : package.MayHold packages) :
    ∀ inner ∈ packages, inner.Over P Q := by
  induction lies generalizing packages with
  | directory built role fits governed =>
    cases held with
    | directory files found =>
      rcases packagesIn_eq_ok found with ⟨children, shown, listed, sublist, -, rfl⟩
      intro inner mem
      rcases List.mem_map.1 mem with ⟨child, inShown, rfl⟩
      exact .directory built role (inherited fits listed child (sublist.subset inShown)) governed
  | merged built view governed each ih =>
    cases held with
    | merged heldEach =>
      rw [mergePackages_eq]
      apply forall_merge (P := Over P Q)
      · intro a b lies_a lies_b _
        exact lies_a.join lies_b built governed
      · intro inner mem
        rcases Collecting.exists_of_mem_flatten heldEach mem with
          ⟨entry, inEntries, list, held, mem⟩
        exact ih entry inEntries held inner mem

theorem Over.mayReach (inherited : File.Inherited P) {top node : Package} (lies : top.Over P Q)
    (reached : top.MayReach node) : node.Over P Q := by
  induction reached with
  | top => exact lies
  | inside reached held mem ih => exact ih.mayHold inherited held _ mem

/-- The classes that a package may show have what its files give them and completing keeps. -/
theorem Over.mayShow {R : ClassRep → Prop} (inherited : File.Inherited P)
    (given : ∀ {role : Role} {policy : Policy} {file : File} {rep : ClassRep}, P file → Q policy →
      shows role policy file.name = true → represent role file = .ok rep → R rep)
    (kept : ∀ {a b : ClassRep}, R a → R b → a.name = b.name → R (a.complete b))
    {package : Package} (lies : package.Over P Q) {reps : List ClassRep}
    (shown : package.MayShow reps) : ∀ rep ∈ reps, R rep := by
  induction lies generalizing reps with
  | directory built role fits governed =>
    cases shown with
    | directory files found =>
      rcases classesIn_eq_ok found with ⟨children, shown, listed, sublist, named, represented⟩
      intro rep mem
      rcases Collecting.exists_of_mem_answers represented mem with ⟨child, inShown, represented⟩
      exact given (inherited fits listed child (sublist.subset inShown)) governed
        (named child inShown) represented
  | merged built view governed each ih =>
    cases shown with
    | merged shownEach =>
      rw [mergeClasses_eq]
      apply forall_merge (P := R) kept
      intro rep mem
      rcases Collecting.exists_of_mem_flatten shownEach mem with
        ⟨entry, inEntries, list, shown, mem⟩
      exact ih entry inEntries shown rep mem

end

end Package

end JvmClasspath
