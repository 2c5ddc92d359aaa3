import JvmClasspath.Proofs.Together

/-!
# The shape of merged packages

Where directories are merged, the package at a path is as plain as it can be: the very package of
the one directory that has it, or one merge of all of them, flat and in the order of the
directories. It is built step by step, one package joining those that are there, on every level
anew.
-/

namespace JvmClasspath.Package

open Keyed

variable {files : FileSystem}

/-- Packages over one directory. -/
inductive Leaf : Package → Prop where
  | directory (built : Nat) (role : Role) {file : File} (policy : Policy) (opened : file.Opened) :
      Leaf (.directory built role file policy)

theorem Leaf.inner {package : Package} (leaf : package.Leaf) : package.Inner := by
  cases leaf with
  | directory built role policy opened => exact .directory built role policy opened

theorem Leaf.scanPackages {package : Package} (leaf : package.Leaf) {packages : List Package}
    (found : package.scanPackages files = .ok packages) : ∀ inside ∈ packages, inside.Leaf := by
  cases leaf with
  | directory built role policy opened =>
    rw [Package.scanPackages] at found
    rcases packagesIn_eq_ok found with ⟨children, shown, listed, sublist, -, rfl⟩
    intro inside mem
    rcases List.mem_map.1 mem with ⟨child, inShown, rfl⟩
    exact .directory built role policy (opened.child listed (sublist.subset inShown))

theorem leaf_scanPackagesOfAll {entries : List Package} (leaves : ∀ entry ∈ entries, entry.Leaf)
    {packages : List Package} (found : scanPackagesOfAll files entries = .ok packages) :
    ∀ package ∈ packages, package.Leaf := by
  rw [scanPackagesOfAll_eq] at found
  exact Collecting.forall_of_gather (fun entry mem _ here => (leaves entry mem).scanPackages here)
    found

/-! ## As one -/

/-- Several packages as one: the package itself where there is only one, and else their merge. -/
def asOne (built : Nat) (policy : Policy) : List Package → Option Package
  | [] => none
  | [package] => some package
  | first :: second :: rest => some (merged built .part (first :: second :: rest) policy)

@[simp] theorem asOne_toList (built : Nat) (policy : Policy) (package : Option Package) :
    asOne built policy package.toList = package := by
  cases package <;> rfl

/-- What joins a merged package comes behind its entries. -/
theorem foldl_join_merged (built : Nat) (policy : Policy) (entries others : List Package) :
    others.foldl (join built policy) (merged built .part entries policy) =
      merged built .part (entries ++ others) policy := by
  induction others generalizing entries with
  | nil => simp
  | cons package rest ih =>
    have joined : join built policy (merged built .part entries policy) package =
        merged built .part (entries ++ [package]) policy := rfl
    rw [List.foldl_cons, joined, ih, List.append_assoc, List.singleton_append]

/-- Packages over directories come to one as they are, flat and in order. -/
theorem joinAll_eq_asOne (built : Nat) (policy : Policy) {packages : List Package}
    (leaves : ∀ package ∈ packages, package.Leaf) :
    joinAll (join built policy) packages = asOne built policy packages := by
  match packages, leaves with
  | [], _ => rfl
  | [package], _ => rfl
  | first :: second :: rest, leaves =>
    have single : first.parts = [first] := by
      cases leaves first List.mem_cons_self
      rfl
    have joined : join built policy first second =
        merged built .part [first, second] policy := by
      rw [join, single, List.singleton_append]
    rw [joinAll, List.foldl_cons, joined, foldl_join_merged]
    rfl

theorem sourcePaths_asOne {built : Nat} {policy : Policy} {packages : List Package}
    {package : Package} (found : asOne built policy packages = some package) :
    package.sourcePaths = packages.flatMap sourcePaths := by
  cases packages with
  | nil => cases found
  | cons first rest =>
    cases rest with
    | nil =>
      cases found
      simp
    | cons second rest =>
      cases found
      rw [sourcePaths, sourcePathsOf_eq]

/-! ## Packages below a merge -/

theorem together_here {packages found : List Package} :
    Together (packageAt files · []) packages found ↔ found = packages := by
  induction packages generalizing found with
  | nil => exact together_nil
  | cons package rest ih =>
    rw [together_cons]
    constructor
    · intro given
      rcases given with ⟨_, others, ⟨⟩, asked, rfl⟩
      rw [ih.1 asked]
      rfl
    · intro same
      subst same
      exact ⟨some package, rest, rfl, ih.2 rfl, rfl⟩

/-- Whether a merge of directories has at this path what they have there, as one. -/
def HasAsOne (files : FileSystem) (names : List String) : Prop :=
  ∀ (built : Nat) (view : View) (entries : List Package) (policy : Policy),
    (∀ entry ∈ entries, entry.Leaf) → ∀ found,
      (merged built view entries policy).packageAt files names = .ok found ↔
        ∃ packages, Together (packageAt files · names) entries packages ∧
          asOne built policy packages = found

/-- What several directories come to has at a path what they have there. -/
theorem foundIn_asOne {names : List String} (below : names ≠ [] → HasAsOne files names)
    (built : Nat) (policy : Policy) {packages : List Package}
    (leaves : ∀ package ∈ packages, package.Leaf) (found : Option Package) :
    FoundIn (packageAt files · names) (asOne built policy packages) found ↔
      ∃ inside, Together (packageAt files · names) packages inside ∧
        asOne built policy inside = found := by
  match packages, leaves with
  | [], _ => simp [asOne, FoundIn, eq_comm]
  | [package], _ =>
    simp only [together_singleton]
    constructor
    · intro answered
      exact ⟨_, ⟨found, answered, rfl⟩, asOne_toList built policy found⟩
    · intro given
      rcases given with ⟨_, ⟨here, answered, rfl⟩, rfl⟩
      rw [asOne_toList]
      exact answered
  | first :: second :: rest, leaves =>
    by_cases last : names = []
    · subst last
      simp only [together_here, exists_eq_left]
      exact ⟨fun same => Except.ok.inj same, fun same => congrArg Except.ok same⟩
    · exact below last built .part _ policy leaves found

/-- A merge of directories has at every path what they have there, as one. -/
theorem hasAsOne {names : List String} (named : names ≠ []) : HasAsOne files names := by
  induction names with
  | nil => exact absurd rfl named
  | cons first rest ih =>
    intro built view entries policy leaves found
    have each : ∀ entry ∈ entries, entry.Built := fun entry mem => (leaves entry mem).inner.isBuilt
    have whole : (merged built view entries policy).Built := .merged built view policy each
    have follows : Follows files first _ _ := follows_packageAt first rest
    -- The first name leads to the directories of that name as one, which the rest is asked of.
    have below : ∀ {all}, scanPackagesOfAll files entries = .ok all →
        (FoundIn (packageAt files · rest)
            ((mergePackages built policy all).find? (·.name = first)) found ↔
          ∃ inside, Together (packageAt files · rest) (all.filter (·.name = first)) inside ∧
            asOne built policy inside = found) := by
      intro all scanned
      have inside := leaf_scanPackagesOfAll leaves scanned
      have named : ∀ package ∈ all.filter (·.name = first), package.Leaf :=
        fun package mem => inside package (List.mem_filter.1 mem).1
      rw [find?_mergePackages built policy fun package mem => (inside package mem).inner,
        joinAll_eq_asOne built policy named, foundIn_asOne ih built policy named]
    rw [follows _ whole]
    simp only [scanPackages_merged, follows.together each]
    constructor
    · intro given
      rcases given with ⟨_, ⟨all, scanned, rfl⟩, followed⟩
      rcases (below scanned).1 followed with ⟨inside, asked, one⟩
      exact ⟨inside, ⟨all, scanned, asked⟩, one⟩
    · intro given
      rcases given with ⟨inside, ⟨all, scanned, asked⟩, one⟩
      exact ⟨_, ⟨all, scanned, rfl⟩, (below scanned).2 ⟨inside, asked, one⟩⟩

/-- Below a merge of directories, a package name that is not empty leads to nothing if no directory
has a package there, to the very package if one has, and else to one merge of their packages, flat
and in the order of the directories. Its source directories are those of these packages in order.
The search fails exactly if it fails in a directory. -/
theorem findPackage_merged (files : FileSystem) (built : Nat) (view : View)
    {entries : List Package} (policy : Policy) (leaves : ∀ entry ∈ entries, entry.Leaf)
    (name : String) (named : ∃ segment ∈ Text.split '.' name, segment ≠ "") :
    ((∃ failure, ((merged built view entries policy).findPackage files name).Answers files
        (.error failure)) ↔
      ∃ entry ∈ entries, ∃ failure,
        (entry.findPackage files name).Answers files (.error failure)) ∧
    ∀ answers, List.Forall₂
        (fun entry answer => (entry.findPackage files name).Answers files (.ok answer))
        entries answers →
      ((merged built view entries policy).findPackage files name).Answers files
        (.ok (match answers.reduceOption with
          | [] => none
          | [package] => some package
          | packages => some (merged built .part packages policy))) ∧
      ∀ package, ((merged built view entries policy).findPackage files name).Answers files
          (.ok (some package)) →
        package.sourcePaths = answers.reduceOption.flatMap sourcePaths := by
  have nonempty : (Text.split '.' name).filter (· ≠ "") ≠ [] := by
    rcases named with ⟨segment, mem, differs⟩
    exact List.ne_nil_of_mem (List.mem_filter.2 ⟨mem, by simpa using differs⟩)
  have together := (hasAsOne nonempty : HasAsOne files _) built view entries policy leaves
  simp only [findPackage_answers_iff]
  refine ⟨fails_iff_of_together together, ?_⟩
  intro answers asked
  have answered := (together _).2 ⟨_, ⟨answers, asked, rfl⟩, rfl⟩
  have spelled : asOne built policy answers.reduceOption =
      match answers.reduceOption with
      | [] => none
      | [package] => some package
      | packages => some (merged built .part packages policy) := by
    match answers.reduceOption with
    | [] => rfl
    | [package] => rfl
    | first :: second :: rest => rfl
  refine ⟨spelled ▸ answered, ?_⟩
  intro package found
  rw [answered] at found
  exact sourcePaths_asOne (Except.ok.inj found)

/-- Three directories that overlap in one package, of which the second has nothing in it. -/
def overlapping : FileSystem := FileSystem.ofEntries
  [(["c"], .directory), (["c", "p"], .directory), (["c", "p", "q"], .directory),
    (["d"], .directory), (["d", "p"], .directory),
    (["s"], .directory), (["s", "p"], .directory), (["s", "p", "q"], .directory)]

theorem findPackage_merged_overlapping :
    ((merged 3 (.wholeClassPath [])
        [.directory 0 .binaries (.plain ⟨.root, ["c"]⟩) .showAll,
          .directory 1 .sources (.plain ⟨.root, ["d"]⟩) .showAll,
          .directory 2 .sources (.plain ⟨.root, ["s"]⟩) .showAll] .showAll).findPackage
        overlapping "p..q").Answers overlapping
      (.ok (some (merged 3 .part
        [.directory 0 .binaries (.plain ⟨.root, ["c", "p", "q"]⟩) .showAll,
          .directory 2 .sources (.plain ⟨.root, ["s", "p", "q"]⟩) .showAll] .showAll))) := by
  have leaves : ∀ entry ∈ [directory 0 .binaries (.plain ⟨.root, ["c"]⟩) .showAll,
      .directory 1 .sources (.plain ⟨.root, ["d"]⟩) .showAll,
      .directory 2 .sources (.plain ⟨.root, ["s"]⟩) .showAll], entry.Leaf := by
    intro entry mem
    simp only [List.mem_cons, List.not_mem_nil, or_false] at mem
    rcases mem with rfl | rfl | rfl
    · exact .directory _ _ _ (.plain _)
    · exact .directory _ _ _ (.plain _)
    · exact .directory _ _ _ (.plain _)
  have named : ∃ segment ∈ Text.split '.' "p..q", segment ≠ "" :=
    ⟨"p", by decide +kernel, by decide⟩
  exact ((findPackage_merged overlapping 3 (.wholeClassPath []) .showAll leaves "p..q" named).2
    [some (.directory 0 .binaries (.plain ⟨.root, ["c", "p", "q"]⟩) .showAll), none,
      some (.directory 2 .sources (.plain ⟨.root, ["s", "p", "q"]⟩) .showAll)]
    (.cons (findPackage_answers_iff.2 (by decide +kernel))
      (.cons (findPackage_answers_iff.2 (by decide +kernel))
        (.cons (findPackage_answers_iff.2 (by decide +kernel)) .nil)))).1

end JvmClasspath.Package
