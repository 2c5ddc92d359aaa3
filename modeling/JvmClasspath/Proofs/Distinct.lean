import JvmClasspath.Proofs.Merging

/-!
# Different names

However deep one steps into a merged package, the packages that stand side by side have different
names, and so have the classes. Merging sees to that where packages meet; a package that only one
entry contributes is handed out as it is, and there the names differ because the files of one
directory do.

One case is left: a class of sources may be written in two files, `X.scala` and `X.java`. In a
directory of sources that is handed out as it is, both are shown.
-/

namespace JvmClasspath.Package

variable {files : FileSystem}

/-! ## Stepping into packages -/

/-- The packages that are reached from one by stepping into what it holds, again and again. -/
inductive Reaches (files : FileSystem) (top : Package) : Package → Prop where
  | top : Reaches files top top
  | inside {outer inner : Package} {packages : List Package} (reached : Reaches files top outer)
      (held : (outer.packages files).Answers files (.ok packages)) (mem : inner ∈ packages) :
      Reaches files top inner

/-- What is reached from a built package was built. -/
theorem Built.reaches {top node : Package} (built : top.Built) (reached : Reaches files top node) :
    node.Built := by
  induction reached with
  | top => exact built
  | inside reached held mem ih =>
    have scanned := (packages_answers files _).unique held
    exact ((ih.scanPackages scanned).1 _ mem).isBuilt

/-! ## Classes in one directory -/

/-- A directory of sources, which is not merged with anything. -/
def isSourceDirectory : Package → Bool
  | directory _ .sources _ _ => true
  | _ => false

/-- Whether two classes are written in two source files whose names differ in the ending alone. -/
def AreTwins (a b : ClassRep) : Prop :=
  a.name = b.name ∧ ∃ ending ∈ Naming.sourceEndings, ∃ other ∈ Naming.sourceEndings,
    ending ≠ other ∧ a.source.map File.name = some (a.name ++ ending) ∧
      b.source.map File.name = some (b.name ++ other)

/-- The files that a directory shows as classes have different names. -/
theorem shown_of_classesIn {role : Role} {file : File} {policy : Policy} (opened : file.Opened)
    {reps : List ClassRep} (found : classesIn files role file policy = .ok reps) :
    ∃ shown : List File, shown.Pairwise (fun x y => x.name ≠ y.name) ∧
      List.Forall₂ (fun child rep => represent role child = .ok rep) shown reps := by
  rcases classesIn_eq_ok found with ⟨children, shown, listed, sublist, -, represented⟩
  have different := (opened.sound.children listed).2.sublist (sublist.map File.name)
  exact ⟨shown, List.pairwise_map.1 different, represented⟩

/-- Compiled classes of one directory have different names. -/
theorem nodup_classesIn_binaries {file : File} {policy : Policy} (opened : file.Opened)
    {reps : List ClassRep} (found : classesIn files .binaries file policy = .ok reps) :
    (reps.map ClassRep.name).Nodup := by
  rcases shown_of_classesIn opened found with ⟨shown, different, represented⟩
  rw [List.Nodup, List.pairwise_map]
  refine Collecting.pairwise_answers ?_ represented different
  intro x y a b shown_a shown_b differ same
  rw [name_of_represent_binaries shown_a, name_of_represent_binaries shown_b, same] at differ
  exact differ rfl

/-- Sources of one name in one directory are written in different languages. -/
theorem twins_classesIn_sources {file : File} {policy : Policy} (opened : file.Opened)
    {reps : List ClassRep} (found : classesIn files .sources file policy = .ok reps) :
    reps.Pairwise fun a b => a.name = b.name → AreTwins a b := by
  rcases shown_of_classesIn opened found with ⟨shown, different, represented⟩
  refine Collecting.pairwise_answers ?_ represented different
  intro x y a b shown_a shown_b differ same
  rcases source_of_represent_sources shown_a with ⟨source_a, ending, known, spelled⟩
  rcases source_of_represent_sources shown_b with ⟨source_b, other, known', spelled'⟩
  refine ⟨same, ending, known, other, known', ?_, by simp [source_a, spelled],
    by simp [source_b, spelled']⟩
  intro one
  rw [spelled, spelled', same, one] at differ
  exact differ rfl

/-! ## At every depth -/

/-- Of all that is reached from a built package, the packages side by side have different names, and
so have the classes; only a directory of sources may show two classes of one name, one for each
language they are written in. -/
theorem distinct_names {top node : Package} (built : top.Built) (reached : Reaches files top node) :
    (∀ packages, (node.packages files).Answers files (.ok packages) →
      (packages.map name).Nodup) ∧
    ∀ reps, (node.classes files).Answers files (.ok reps) →
      (node.isSourceDirectory = false → (reps.map ClassRep.name).Nodup) ∧
        reps.Pairwise fun a b => a.name = b.name → AreTwins a b := by
  have node_built := built.reaches reached
  constructor
  · intro packages held
    exact (node_built.scanPackages ((packages_answers files node).unique held)).2
  · intro reps held
    have scanned := (classes_answers files node).unique held
    have apart : ∀ {reps : List ClassRep}, (reps.map ClassRep.name).Nodup →
        reps.Pairwise fun a b => a.name = b.name → AreTwins a b := by
      intro reps different
      exact (List.pairwise_map.1 different).imp fun differ same => absurd same differ
    cases node_built with
    | merged built view policy each =>
      rw [scanClasses] at scanned
      rcases Collecting.bind_eq_ok.1 scanned with ⟨all, -, scanned⟩
      cases scanned
      exact ⟨fun _ => nodup_mergeClasses all, apart (nodup_mergeClasses all)⟩
    | directory built role policy opened =>
      rw [scanClasses] at scanned
      cases role with
      | binaries =>
        have different := nodup_classesIn_binaries opened scanned
        exact ⟨fun _ => different, apart different⟩
      | sources => exact ⟨nofun, twins_classesIn_sources opened scanned⟩

/-- What a package holds directly is reached from it. -/
theorem reaches_of_scanPackages {top inner : Package} {packages : List Package}
    (scanned : top.scanPackages files = .ok packages) (mem : inner ∈ packages) :
    Reaches files top inner :=
  .inside .top ((packages_answers files top).iff.2 scanned) mem

/-- The names that a scan finds are those of some classes. -/
theorem exists_classes_of_names {package : Package} {names : List String}
    (scanned : (package.scanClasses files).map (List.map ClassRep.name) = .ok names) :
    ∃ reps, (package.classes files).Answers files (.ok reps) ∧ reps.map ClassRep.name = names := by
  cases found : package.scanClasses files with
  | error failure =>
    rw [found] at scanned
    cases scanned
  | ok reps =>
    rw [found] at scanned
    exact ⟨reps, (classes_answers files package).iff.2 found, Except.ok.inj scanned⟩

/-- An archive of sources, in which one class is written in both languages. -/
def bilingual : Archive :=
  let members : List Member := [⟨"p/X.java", []⟩, ⟨"p/X.scala", []⟩, ⟨"p/Y.java", []⟩]
  ⟨0, .memory members, "s.jar", "s.jar", Archive.index members⟩

/-- Its sources, and those in its one package. -/
def bilingualSources : Package := .directory 1 .sources (.archive bilingual) .showAll

def bilingualPackage : Package :=
  .directory 1 .sources (.folder bilingual "p/" [("X.java", .file "p/X.java"),
    ("X.scala", .file "p/X.scala"), ("Y.java", .file "p/Y.java")]) .showAll

theorem built_bilingualSources : bilingualSources.Built := .directory _ _ _ (.archive _ rfl)

/-- The first of these classes as it was compiled. -/
def compiledFiles : FileSystem := FileSystem.ofEntries
  [(["c"], .directory), (["c", "p"], .directory), (["c", "p", "X.class"], .file (.bytes []))]

def compiledAt (names : List String) : Package :=
  .directory 2 .binaries (.plain ⟨.root, names⟩) .showAll

/-- Merged with what is compiled, the two sources of one class count once. -/
theorem distinct_names_bilingual :
    ∃ node reps,
      Reaches compiledFiles (.merged 3 .part [compiledAt ["c"], bilingualSources] .showAll) node ∧
      (node.classes compiledFiles).Answers compiledFiles (.ok reps) ∧
      reps.map ClassRep.name = ["X", "Y"] ∧ (reps.map ClassRep.name).Nodup := by
  have built : (merged 3 .part [compiledAt ["c"], bilingualSources] .showAll).Built := by
    have compiled : (compiledAt ["c"]).Built := .directory _ _ _ (.plain _)
    exact .merged _ _ _ (by simp [compiled, built_bilingualSources])
  have scanned : (merged 3 .part [compiledAt ["c"], bilingualSources] .showAll).scanPackages
      compiledFiles = .ok [.merged 3 .part [compiledAt ["c", "p"], bilingualPackage] .showAll] := by
    decide +kernel
  have named : ((merged 3 .part [compiledAt ["c", "p"], bilingualPackage]
      .showAll).scanClasses compiledFiles).map (List.map ClassRep.name) = .ok ["X", "Y"] := by
    decide +kernel
  obtain ⟨reps, held, names⟩ := exists_classes_of_names named
  have reached := reaches_of_scanPackages scanned List.mem_cons_self
  exact ⟨_, reps, reached, held, names, ((distinct_names built reached).2 reps held).1 rfl⟩

/-- By themselves, the sources show that class twice below a merge. -/
theorem reaches_repeated_class :
    ∃ node reps, (merged 3 (.wholeClassPath []) [bilingualSources] .showAll).Built ∧
      Reaches .empty (.merged 3 (.wholeClassPath []) [bilingualSources] .showAll) node ∧
      (node.classes .empty).Answers .empty (.ok reps) ∧ ¬(reps.map ClassRep.name).Nodup := by
  have scanned : (merged 3 (.wholeClassPath []) [bilingualSources] .showAll).scanPackages .empty =
      .ok [bilingualPackage] := by
    decide +kernel
  have named : (bilingualPackage.scanClasses .empty).map (List.map ClassRep.name) =
      .ok ["X", "X", "Y"] := by
    decide +kernel
  obtain ⟨reps, held, names⟩ := exists_classes_of_names named
  refine ⟨_, reps, .merged _ _ _ (by simp [built_bilingualSources]),
    reaches_of_scanPackages scanned List.mem_cons_self, held, ?_⟩
  rw [names]
  decide

end JvmClasspath.Package
