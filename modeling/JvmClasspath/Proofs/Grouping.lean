import JvmClasspath.Proofs.Merging

/-!
# Grouping

A merge of packages may have merges among its entries, and the packages below a merge are merges
themselves, grouped as they happened to join. Nothing of that grouping can be observed: a package
shows what one flat merge of its directories shows, at every depth, and it fails where that fails.

The flat merge serves as a normal form. Scanning takes packages with one normal form to packages
with one normal form, one by one, so two such packages are alike however far they are explored.
-/

namespace JvmClasspath.Package

open Keyed

/-! ## Flat packages -/

mutual

/-- The packages that a package is a merge of in the end, in their order. A package that is no merge
is its only leaf. -/
def leaves : Package → List Package
  | directory built role file policy => [directory built role file policy]
  | merged _ _ entries _ => leavesOfAll entries
  | listed built listing packages => [listed built listing packages]

def leavesOfAll : List Package → List Package
  | [] => []
  | package :: rest => package.leaves ++ leavesOfAll rest

end

theorem leavesOfAll_append (entries others : List Package) :
    leavesOfAll (entries ++ others) = leavesOfAll entries ++ leavesOfAll others := by
  induction entries with
  | nil => rfl
  | cons entry rest ih => rw [List.cons_append, leavesOfAll, leavesOfAll, ih, List.append_assoc]

mutual

theorem leavesOfAll_leaves : (package : Package) → leavesOfAll package.leaves = package.leaves
  | directory .. => rfl
  | merged _ _ entries _ => leavesOfAll_leavesOfAll entries
  | listed .. => rfl

theorem leavesOfAll_leavesOfAll :
    (entries : List Package) → leavesOfAll (leavesOfAll entries) = leavesOfAll entries
  | [] => rfl
  | package :: rest => by
    rw [leavesOfAll, leavesOfAll_append, leavesOfAll_leaves package, leavesOfAll_leavesOfAll rest]

end

/-- The flat merge of these leaves. -/
def flatMerge (leaves : List Package) : Package := merged 0 .part leaves .showAll

/-- The package without its grouping: a flat merge of its leaves, if it is a merge at all. -/
def flat (package : Package) : Package :=
  match package with
  | merged _ _ entries _ => flatMerge (leavesOfAll entries)
  | single => single

theorem leaves_flat (package : Package) : package.flat.leaves = package.leaves := by
  cases package with
  | merged built view entries policy => exact leavesOfAll_leavesOfAll entries
  | directory built role file policy => rfl
  | listed built listing packages => rfl

/-- The name of the first leaf. -/
def leafName (package : Package) : String := (package.leaves.head?.map name).getD ""

theorem leafName_flat (package : Package) : package.flat.leafName = package.leafName := by
  rw [leafName, leafName, leaves_flat]

/-- A package that has a name has it from its first leaf. -/
theorem Inner.leafName {package : Package} (inner : package.Inner) :
    package.leafName = package.name ∧ package.leaves ≠ [] := by
  induction inner with
  | directory built role policy opened => exact ⟨rfl, by simp [leaves]⟩
  | merged built policy each ih =>
    rcases ih _ List.mem_cons_self with ⟨named, nonempty⟩
    rcases List.exists_cons_of_ne_nil nonempty with ⟨leaf, others, first⟩
    rw [Package.leafName, first] at named
    rw [Package.leafName, leaves, leavesOfAll, first]
    exact ⟨named, by simp⟩

theorem Inner.name_flat {package : Package} (inner : package.Inner) :
    package.flat.name = package.name := by
  rw [← inner.leafName.1]
  cases inner with
  | directory built role policy opened => rfl
  | merged built policy each =>
    rw [Package.leafName, leaves, flat]
    cases leavesOfAll _ <;> rfl

theorem Built.leaves {package : Package} (built : package.Built) :
    ∀ leaf ∈ package.leaves, leaf.Built := by
  induction built with
  | directory built role policy opened =>
    intro leaf mem
    rw [List.mem_singleton.1 mem]
    exact .directory built role policy opened
  | merged built view policy each ih =>
    -- The entries are gone through one by one, each with what the outer induction says of it.
    rename_i entries
    clear each
    rw [Package.leaves]
    induction entries with
    | nil => simp [leavesOfAll]
    | cons entry rest below =>
      intro leaf mem
      rcases List.mem_append.1 mem with here | later
      · exact ih entry List.mem_cons_self leaf here
      · exact below (fun other mem => ih other (List.mem_cons_of_mem entry mem)) leaf later

/-! ## Joining flat packages -/

/-- The flat merge that two packages come to. -/
def joinFlat (first second : Package) : Package := flatMerge (first.leaves ++ second.leaves)

theorem leaves_joinFlat (first second : Package) :
    (joinFlat first second).leaves = first.leaves ++ second.leaves := by
  rw [joinFlat, flatMerge, leaves, leavesOfAll_append, leavesOfAll_leaves, leavesOfAll_leaves]

theorem joinFlat_assoc (a b c : Package) :
    joinFlat (joinFlat a b) c = joinFlat a (joinFlat b c) := by
  rw [joinFlat, leaves_joinFlat, joinFlat, leaves_joinFlat, List.append_assoc]

theorem flatLaws : Laws leafName joinFlat (fun _ => True) where
  closed _ _ _ := trivial
  key_join := by
    intro a b _ _ same
    rw [leafName, leaves_joinFlat]
    cases first : a.leaves with
    | nil => rw [List.nil_append, ← leafName, same]
    | cons leaf others => rw [leafName, first, List.cons_append, List.head?_cons, List.head?_cons]

theorem flat_join (built : Nat) (policy : Policy) (first second : Package) :
    (join built policy first second).flat = joinFlat first.flat second.flat := by
  have parts : leavesOfAll first.parts = first.leaves := by
    cases first with
    | merged built view entries policy => rfl
    | directory built role file policy => rfl
    | listed built listing packages => rfl
  rw [join, flat, joinFlat, leavesOfAll_append, parts, leaves_flat, leaves_flat, leavesOfAll,
    leavesOfAll, List.append_nil]

/-- What packages merge to, without any grouping. -/
def mergeFlat (packages : List Package) : List Package :=
  merge leafName joinFlat (packages.map flat)

/-- Merging packages and then forgetting their grouping. -/
theorem map_flat_mergePackages (built : Nat) (policy : Policy) {packages : List Package}
    (inner : ∀ package ∈ packages, package.Inner) :
    (mergePackages built policy packages).map flat = mergeFlat packages := by
  rw [mergePackages_eq]
  apply map_merge (packageLaws built policy) flat _ _ inner
  · intro package inner
    rw [leafName_flat, inner.leafName.1]
  · intro first second _ _ _
    exact flat_join built policy first second

theorem mergeFlat_mergePackages (built : Nat) (policy : Policy) {packages : List Package}
    (inner : ∀ package ∈ packages, package.Inner) :
    mergeFlat (mergePackages built policy packages) = mergeFlat packages := by
  rw [mergeFlat, map_flat_mergePackages built policy inner]
  exact merge_of_nodup (nodup_merge flatLaws (by simp))

theorem mergeFlat_append {xs xs' ys ys' : List Package} (left : mergeFlat xs = mergeFlat xs')
    (right : mergeFlat ys = mergeFlat ys') : mergeFlat (xs ++ ys) = mergeFlat (xs' ++ ys') := by
  rw [mergeFlat, mergeFlat, List.map_append, List.map_append]
  exact merge_append_congr flatLaws (fun _ _ _ _ _ => joinFlat_assoc _ _ _) (by simp) (by simp)
    (by simp) (by simp) left right

/-! ## Scanning leaves -/

section

variable {α β : Type} {ask : Package → Except Failure (List α)} {shown : List α → β}
  (shown_append : ∀ {xs xs' ys ys' : List α}, shown xs = shown xs' → shown ys = shown ys' →
    shown (xs ++ ys) = shown (xs' ++ ys'))
include shown_append

/-- Lists that show the same, one by one, show the same together, and fail alike. -/
theorem map_append_congr {here here' there there' : Except Failure (List α)}
    (left : here.map shown = here'.map shown)
    (right : there.map shown = there'.map shown) :
    (do return (← here) ++ (← there) : Except Failure (List α)).map shown =
      (do return (← here') ++ (← there') : Except Failure (List α)).map shown := by
  rcases Collecting.map_eq_map_iff.1 left with ⟨failure, rfl, rfl⟩ | ⟨xs, xs', rfl, rfl, same⟩
  · rfl
  · rcases Collecting.map_eq_map_iff.1 right with ⟨failure, rfl, rfl⟩ | ⟨ys, ys', rfl, rfl, same'⟩
    · rfl
    · exact congrArg Except.ok (shown_append same same')

/-- If each package shows what its leaves show, several packages show what all their leaves show. -/
theorem gather_leavesOfAll {entries : List Package}
    (each : ∀ entry ∈ entries,
      (ask entry).map shown = (Collecting.gather ask entry.leaves).map shown) :
    (Collecting.gather ask entries).map shown =
      (Collecting.gather ask (leavesOfAll entries)).map shown := by
  induction entries with
  | nil => rfl
  | cons entry rest ih =>
    rw [Collecting.gather_cons, leavesOfAll, Collecting.gather_append]
    exact map_append_congr shown_append (each entry List.mem_cons_self)
      (ih fun other mem => each other (List.mem_cons_of_mem entry mem))

/-- If every merge shows what its entries show, every package shows what its leaves show. -/
theorem Built.gather_leaves
    (ask_merged : ∀ (built : Nat) (view : View) (entries : List Package) (policy : Policy),
      (∀ entry ∈ entries, entry.Built) →
        (ask (Package.merged built view entries policy)).map shown =
          (Collecting.gather ask entries).map shown)
    {package : Package} (built : package.Built) :
    (ask package).map shown = (Collecting.gather ask package.leaves).map shown := by
  induction built with
  | directory built role policy opened =>
    rw [Package.leaves, Collecting.gather_cons, Collecting.gather_nil]
    cases ask (Package.directory built role _ policy) with
    | error failure => rfl
    | ok here => exact congrArg (Except.ok ∘ shown) (List.append_nil here).symm
  | merged built view policy each ih =>
    rw [ask_merged _ _ _ _ each, Package.leaves]
    exact gather_leavesOfAll shown_append ih

end

section

variable {files : FileSystem}

theorem scanClasses_merged_eq (built : Nat) (view : View) (entries : List Package)
    (policy : Policy) :
    (merged built view entries policy).scanClasses files =
      (Collecting.gather (scanClasses files) entries).map mergeClasses := by
  rw [scanClasses, scanClassesOfAll_eq]
  cases Collecting.gather (scanClasses files) entries <;> rfl

/-- The classes of several packages come from their leaves. -/
theorem gather_scanClasses {entries : List Package} (each : ∀ entry ∈ entries, entry.Built) :
    (Collecting.gather (scanClasses files) entries).map mergeClasses =
      (Collecting.gather (scanClasses files) (leavesOfAll entries)).map mergeClasses := by
  have merge_append : ∀ {xs xs' ys ys' : List ClassRep}, mergeClasses xs = mergeClasses xs' →
      mergeClasses ys = mergeClasses ys' → mergeClasses (xs ++ ys) = mergeClasses (xs' ++ ys') := by
    intro xs xs' ys ys' left right
    rw [mergeClasses_eq, mergeClasses_eq] at *
    exact merge_append_congr classLaws (fun _ _ _ _ _ => Std.Associative.assoc _ _ _) (by simp)
      (by simp) (by simp) (by simp) left right
  apply gather_leavesOfAll merge_append
  intro entry mem
  apply (each entry mem).gather_leaves merge_append
  intro built view entries policy each
  rw [scanClasses_merged_eq]
  cases Collecting.gather (scanClasses files) entries with
  | error failure => rfl
  | ok reps =>
    have again : mergeClasses (mergeClasses reps) = mergeClasses reps := by
      rw [mergeClasses_eq (mergeClasses reps)]
      exact merge_of_nodup (nodup_mergeClasses reps)
    exact congrArg Except.ok again

/-- A package holds the classes that it holds without its grouping. -/
theorem Built.scanClasses_flat {package : Package} (built : package.Built) :
    package.flat.scanClasses files = package.scanClasses files := by
  cases built with
  | directory built role policy opened => rfl
  | merged built view policy each =>
    rw [Package.flat, flatMerge, scanClasses_merged_eq, scanClasses_merged_eq,
      gather_scanClasses each]

theorem scanPackages_merged_eq (built : Nat) (view : View) (entries : List Package)
    (policy : Policy) :
    (merged built view entries policy).scanPackages files =
      (Collecting.gather (scanPackages files) entries).map (mergePackages built policy) := by
  rw [scanPackages, scanPackagesOfAll_eq]
  cases Collecting.gather (scanPackages files) entries <;> rfl

/-- The packages in several packages come from their leaves, but for the grouping. -/
theorem gather_scanPackages {entries : List Package} (each : ∀ entry ∈ entries, entry.Built) :
    (Collecting.gather (scanPackages files) entries).map mergeFlat =
      (Collecting.gather (scanPackages files) (leavesOfAll entries)).map mergeFlat := by
  apply gather_leavesOfAll mergeFlat_append
  intro entry mem
  apply (each entry mem).gather_leaves mergeFlat_append
  intro built view entries policy each
  rw [scanPackages_merged_eq]
  cases gathered : Collecting.gather (scanPackages files) entries with
  | error failure => rfl
  | ok packages =>
    rw [← scanPackagesOfAll_eq] at gathered
    have inner := inner_scanPackagesOfAll each gathered
    exact congrArg Except.ok (mergeFlat_mergePackages built policy inner)

theorem map_flat_scanPackages_merged (built : Nat) (view : View) {entries : List Package}
    (policy : Policy) (each : ∀ entry ∈ entries, entry.Built) :
    ((merged built view entries policy).scanPackages files).map (List.map flat) =
      (Collecting.gather (scanPackages files) entries).map mergeFlat := by
  rw [scanPackages_merged_eq]
  cases gathered : Collecting.gather (scanPackages files) entries with
  | error failure => rfl
  | ok packages =>
    rw [← scanPackagesOfAll_eq] at gathered
    have inner := inner_scanPackagesOfAll each gathered
    exact congrArg Except.ok (map_flat_mergePackages built policy inner)

/-- A package holds the packages that it holds without its grouping, but for their grouping. -/
theorem Built.map_flat_scanPackages {package : Package} (built : package.Built) :
    (package.flat.scanPackages files).map (List.map Package.flat) =
      (package.scanPackages files).map (List.map Package.flat) := by
  cases built with
  | directory built role policy opened => rfl
  | merged built view policy each =>
    have leaves := (Built.merged built view policy each).leaves
    rw [Package.leaves] at leaves
    rw [Package.flat, flatMerge, map_flat_scanPackages_merged _ _ _ leaves,
      map_flat_scanPackages_merged _ _ _ each, gather_scanPackages each]

mutual

theorem sourcePathsOf_leaves :
    (package : Package) → sourcePathsOf package.leaves = package.sourcePaths
  | directory .. => by rw [leaves, sourcePathsOf, sourcePathsOf, List.append_nil]
  | merged _ _ entries _ => by rw [leaves, sourcePaths, sourcePathsOf_leavesOfAll entries]
  | listed .. => by rw [leaves, sourcePathsOf, sourcePathsOf, List.append_nil]

theorem sourcePathsOf_leavesOfAll :
    (entries : List Package) → sourcePathsOf (leavesOfAll entries) = sourcePathsOf entries
  | [] => rfl
  | package :: rest => by
    have split : ∀ some others : List Package,
        sourcePathsOf (some ++ others) = sourcePathsOf some ++ sourcePathsOf others := by
      intro some others
      induction some with
      | nil => rfl
      | cons entry some ih =>
        rw [List.cons_append, sourcePathsOf, ih, sourcePathsOf, List.append_assoc]
    rw [leavesOfAll, split, sourcePathsOf_leaves package, sourcePathsOf_leavesOfAll rest,
      sourcePathsOf]

end

theorem sourcePaths_flat (package : Package) : package.flat.sourcePaths = package.sourcePaths := by
  cases package with
  | merged built view entries policy => exact sourcePathsOf_leavesOfAll entries
  | directory built role file policy => rfl
  | listed built listing packages => rfl

/-! ## Packages that are alike -/

/-- Whether two packages show the same source directories, the same classes, and packages of the
same names in the same order, where packages of one place are related by `below`. Where one fails to
show something, the other fails likewise. -/
structure ShowAlike (files : FileSystem) (below : Package → Package → Prop) (p q : Package) :
    Prop where
  sourcePaths : p.sourcePaths = q.sourcePaths
  classes : ∃ answer, (p.classes files).Answers files answer ∧
    (q.classes files).Answers files answer
  packages :
    (∃ failure, (p.packages files).Answers files (.error failure) ∧
      (q.packages files).Answers files (.error failure)) ∨
    ∃ ps qs, (p.packages files).Answers files (.ok ps) ∧ (q.packages files).Answers files (.ok qs) ∧
      List.Forall₂ (fun a b => a.name = b.name ∧ below a b) ps qs

/-- Whether two packages show the same down to this depth. -/
def AlikeTo (files : FileSystem) : Nat → Package → Package → Prop
  | 0 => fun _ _ => True
  | depth + 1 => ShowAlike files (AlikeTo files depth)

/-- Whether two packages cannot be told apart, neither by exploring them nor by looking up. -/
structure Alike (files : FileSystem) (p q : Package) : Prop where
  explored : ∀ depth, AlikeTo files depth p q
  findClass : ∀ name, ∃ answer, (p.findClass files name).Answers files answer ∧
    (q.findClass files name).Answers files answer
  findSourceFile : ∀ name, ∃ answer, (p.findSourceFile files name).Answers files answer ∧
    (q.findSourceFile files name).Answers files answer

/-- Two packages that differ in their grouping hold the same classes, and packages that differ in
their grouping. -/
theorem scans_of_flat_eq (files : FileSystem) {p q : Package} (built_p : p.Built)
    (built_q : q.Built) (same : p.flat = q.flat) :
    p.scanClasses files = q.scanClasses files ∧
      (p.scanPackages files).map (List.map flat) = (q.scanPackages files).map (List.map flat) := by
  rw [← built_p.scanClasses_flat, ← built_q.scanClasses_flat, ← built_p.map_flat_scanPackages,
    ← built_q.map_flat_scanPackages, same]
  exact ⟨rfl, rfl⟩

theorem forall₂_of_map_flat_eq {related : Package → Package → Prop}
    (of_flat_eq : ∀ {a b : Package}, a.Inner → b.Inner → a.flat = b.flat → related a b)
    {ps qs : List Package} (inner_p : ∀ p ∈ ps, p.Inner) (inner_q : ∀ q ∈ qs, q.Inner)
    (same : ps.map flat = qs.map flat) : List.Forall₂ related ps qs := by
  induction ps generalizing qs with
  | nil =>
    rw [List.map_eq_nil_iff.1 same.symm]
    exact .nil
  | cons p ps ih =>
    cases qs with
    | nil => cases same
    | cons q qs =>
      rw [List.map_cons, List.map_cons] at same
      rcases List.cons.inj same with ⟨here, below⟩
      exact .cons (of_flat_eq (inner_p p List.mem_cons_self) (inner_q q List.mem_cons_self) here)
        (ih (fun p' mem => inner_p p' (List.mem_cons_of_mem p mem))
          (fun q' mem => inner_q q' (List.mem_cons_of_mem q mem)) below)

theorem alikeTo_of_flat_eq {p q : Package} (built_p : p.Built) (built_q : q.Built)
    (same : p.flat = q.flat) (depth : Nat) : AlikeTo files depth p q := by
  induction depth generalizing p q with
  | zero => trivial
  | succ depth ih =>
    rcases scans_of_flat_eq files built_p built_q same with ⟨classes, packages⟩
    have packages_p := packages_answers files p
    have packages_q := packages_answers files q
    refine ⟨?_, ⟨_, classes_answers files p, classes ▸ classes_answers files q⟩, ?_⟩
    · rw [← sourcePaths_flat p, ← sourcePaths_flat q, same]
    · rcases Collecting.map_eq_map_iff.1 packages with
        ⟨failure, fails_p, fails_q⟩ | ⟨ps, qs, found_p, found_q, same⟩
      · exact .inl ⟨failure, fails_p ▸ packages_p, fails_q ▸ packages_q⟩
      · refine .inr ⟨ps, qs, found_p ▸ packages_p, found_q ▸ packages_q, ?_⟩
        apply forall₂_of_map_flat_eq _ (built_p.scanPackages found_p).1
          (built_q.scanPackages found_q).1 same
        intro a b inner_a inner_b same
        refine ⟨?_, ih inner_a.isBuilt inner_b.isBuilt same⟩
        rw [← inner_a.name_flat, ← inner_b.name_flat, same]

/-- Under one name, packages that differ in their grouping hold packages that do. -/
theorem find?_map_flat {packages : List Package} (inner : ∀ package ∈ packages, package.Inner)
    (simple : String) :
    (packages.map flat).find? (·.name = simple) =
      (packages.find? (·.name = simple)).map flat := by
  induction packages with
  | nil => rfl
  | cons first rest ih =>
    have named := (inner first List.mem_cons_self).name_flat
    have below := ih fun package mem => inner package (List.mem_cons_of_mem first mem)
    rw [List.map_cons, List.find?_cons, List.find?_cons, named, below]
    by_cases hit : first.name = simple <;> simp [hit]

/-- Names lead to the same class in packages that differ in their grouping. -/
theorem classAt_of_flat_eq (files : FileSystem) {p q : Package} (built_p : p.Built)
    (built_q : q.Built) (same : p.flat = q.flat) (names : List String) :
    p.classAt files names = q.classAt files names := by
  induction names generalizing p q with
  | nil => rw [classAt, classAt]
  | cons first rest ih =>
    rcases scans_of_flat_eq files built_p built_q same with ⟨classes, packages⟩
    cases rest with
    | nil => rw [classAt, classAt, classes]
    | cons second rest =>
      rw [built_p.classAt_cons_cons, built_q.classAt_cons_cons]
      rcases Collecting.map_eq_map_iff.1 packages with
        ⟨failure, fails_p, fails_q⟩ | ⟨ps, qs, found_p, found_q, same⟩
      · rw [fails_p, fails_q]
      · have inner_p := (built_p.scanPackages found_p).1
        have inner_q := (built_q.scanPackages found_q).1
        -- Both lookups go on in packages of one flat form, or neither does.
        have found := find?_map_flat inner_p first
        rw [same, find?_map_flat inner_q first] at found
        rw [found_p, found_q]
        change (ps.find? (·.name = first)).elim _ _ = (qs.find? (·.name = first)).elim _ _
        cases child_p : ps.find? (·.name = first) with
        | none =>
          rw [child_p, Option.map_none, Option.map_eq_none_iff] at found
          rw [found]
        | some a =>
          rw [child_p, Option.map_some, Option.map_eq_some_iff] at found
          rcases found with ⟨b, child_q, same⟩
          have inner_a := inner_p a (List.mem_of_find?_eq_some child_p)
          have inner_b := inner_q b (List.mem_of_find?_eq_some child_q)
          rw [child_q]
          exact ih inner_a.isBuilt inner_b.isBuilt same.symm

end

/-- Grouping the entries of a merge changes nothing that can be observed. -/
theorem merged_append_merged (files : FileSystem) {xs ys zs : List Package}
    (each : ∀ entry ∈ xs ++ ys ++ zs, entry.Built) (built built' inner : Nat)
    (view view' inside : View) (policy policy' within : Policy) :
    Alike files (merged built view (xs ++ [merged inner inside ys within] ++ zs) policy)
      (merged built' view' (xs ++ ys ++ zs) policy') := by
  have ungrouped : (merged built' view' (xs ++ ys ++ zs) policy').Built := .merged _ _ _ each
  have grouped :
      (merged built view (xs ++ [merged inner inside ys within] ++ zs) policy).Built := by
    apply Built.merged
    simp only [List.mem_append, List.mem_singleton] at each ⊢
    intro entry either
    rcases either with (inXs | rfl) | inZs
    · exact each entry (.inl (.inl inXs))
    · exact .merged _ _ _ fun entry mem => each entry (.inl (.inr mem))
    · exact each entry (.inr inZs)
  have same : (merged built view (xs ++ [merged inner inside ys within] ++ zs) policy).flat =
      (merged built' view' (xs ++ ys ++ zs) policy').flat := by
    simp only [flat, leavesOfAll_append, leavesOfAll, leaves, List.append_nil]
  have classes := classAt_of_flat_eq files grouped ungrouped same
  refine ⟨alikeTo_of_flat_eq grouped ungrouped same, ?_, ?_⟩
  · intro name
    exact ⟨_, findClass_answers _ name, findClass_answers_iff.2 (classes _).symm⟩
  · intro name
    refine ⟨_, findSourceFile_answers _ name, ?_⟩
    rw [classes]
    exact findSourceFile_answers _ name

/-- A package in three directories, two of sources and one compiled between them. -/
def interleaved : FileSystem := FileSystem.ofEntries
  [(["s"], .directory), (["s", "p"], .directory), (["s", "p", "X.java"], .file (.bytes [])),
    (["c"], .directory), (["c", "p"], .directory), (["c", "p", "X.class"], .file (.bytes [1])),
    (["t"], .directory), (["t", "p"], .directory), (["t", "p", "X.scala"], .file (.bytes []))]

theorem merged_append_merged_interleaved :
    Alike interleaved
      (merged 4 (.wholeClassPath [])
        [.directory 0 .sources (.plain ⟨.root, ["s"]⟩) .showAll,
          .merged 3 .part
            [.directory 1 .binaries (.plain ⟨.root, ["c"]⟩) .showAll,
              .directory 2 .sources (.plain ⟨.root, ["t"]⟩) .showAll] .showAll] .showAll)
      (merged 5 .part
        [.directory 0 .sources (.plain ⟨.root, ["s"]⟩) .showAll,
          .directory 1 .binaries (.plain ⟨.root, ["c"]⟩) .showAll,
          .directory 2 .sources (.plain ⟨.root, ["t"]⟩) .showAll] .showAll) := by
  have each : ∀ entry ∈ [directory 0 .sources (.plain ⟨.root, ["s"]⟩) .showAll] ++
      [.directory 1 .binaries (.plain ⟨.root, ["c"]⟩) .showAll,
        .directory 2 .sources (.plain ⟨.root, ["t"]⟩) .showAll] ++ [], entry.Built := by
    intro entry mem
    simp only [List.cons_append, List.nil_append, List.append_nil, List.mem_cons,
      List.not_mem_nil, or_false] at mem
    rcases mem with rfl | rfl | rfl
    · exact .directory _ _ _ (.plain _)
    · exact .directory _ _ _ (.plain _)
    · exact .directory _ _ _ (.plain _)
  exact merged_append_merged interleaved each 4 5 3 (.wholeClassPath []) .part .part .showAll
    .showAll .showAll

end JvmClasspath.Package
