import JvmClasspath.Package.Query
import JvmClasspath.Proofs.Collecting

/-!
# What queries answer

What a package holds is a function of the files alone: a scan of its directories, merged where it is
merged. Queries take a longer way. They look first at what is remembered, scan only what is not, and
remember what they found.

The two agree as long as what is remembered is what a scan finds. That is so when nothing is
remembered, and every query keeps it so, whether it gives an answer or fails. Whoever asks packages
about files that do not change can therefore reason about scans, in whatever order and however often
packages are asked.
-/

namespace JvmClasspath

variable {files : FileSystem} {α β : Type}

namespace Package

/-! ## Scans -/

mutual

/-- The classes that a scan of a package finds. -/
def scanClasses (files : FileSystem) : Package → Except Failure (List ClassRep)
  | directory _ role file policy => classesIn files role file policy
  | merged _ _ entries _ => return mergeClasses (← scanClassesOfAll files entries)
  | listed _ listing _ => return listing.classes

/-- The classes that scans of several packages find, one after the other. -/
def scanClassesOfAll (files : FileSystem) : List Package → Except Failure (List ClassRep)
  | [] => return []
  | package :: rest => do
    let here ← package.scanClasses files
    return here ++ (← scanClassesOfAll files rest)

end

mutual

/-- The packages that a scan of a package finds. -/
def scanPackages (files : FileSystem) : Package → Except Failure (List Package)
  | directory built role file policy => packagesIn files built role file policy
  | merged built _ entries policy =>
    return mergePackages built policy (← scanPackagesOfAll files entries)
  | listed _ _ packages => return packages

/-- The packages that scans of several packages find, one after the other. -/
def scanPackagesOfAll (files : FileSystem) : List Package → Except Failure (List Package)
  | [] => return []
  | package :: rest => do
    let here ← package.scanPackages files
    return here ++ (← scanPackagesOfAll files rest)

end

/-- The package that scans find at the end of these names. -/
def packageAt (files : FileSystem) : Package → List String → Except Failure (Option Package)
  | package, [] => return some package
  | package, first :: rest => do
    match (← package.scanPackages files).find? (·.name = first) with
    | none => return none
    | some child => packageAt files child rest

/-- The class that scans find at the end of these names. -/
def classAt (files : FileSystem) : Package → List String → Except Failure (Option ClassRep)
  | _, [] => return none
  | package, [simple] => return (← package.scanClasses files).find? (·.name = simple)
  | package, first :: second :: rest => do
    match (← package.scanPackages files).find? (·.name = first) with
    | none => return none
    | some child =>
      match child.strayAnswer? with
      | some answer => throw (.strayAnswer answer (Text.join '.' (first :: second :: rest)))
      | none => classAt files child (second :: rest)

end Package

/-! ## Agreement -/

/-- Whether what is remembered is what a scan finds. -/
structure Scans.Agree (files : FileSystem) (scans : Scans) : Prop where
  classes : ∀ entry ∈ scans.classes, entry.1.scanClasses files = .ok entry.2
  packages : ∀ entry ∈ scans.packages, entry.1.scanPackages files = .ok entry.2

theorem Scans.agree_empty (files : FileSystem) : Scans.empty.Agree files :=
  ⟨by simp [Scans.empty], by simp [Scans.empty]⟩

namespace Query

/-- Whether a query gives this answer whatever is remembered, as long as that agrees with the files,
and leaves behind what agrees with them. A failure is an answer too. -/
def Answers (files : FileSystem) (query : Query α) (answer : Except Failure α) : Prop :=
  ∀ scans : Scans, scans.Agree files →
    (query.run.run scans).1 = answer ∧ (query.run.run scans).2.Agree files

/-- A query has one answer. -/
theorem Answers.unique {query : Query α} {first second : Except Failure α}
    (left : query.Answers files first) (right : query.Answers files second) : first = second := by
  rw [← (left _ (Scans.agree_empty files)).1]
  exact (right _ (Scans.agree_empty files)).1

theorem Answers.iff {query : Query α} {first second : Except Failure α}
    (known : query.Answers files first) : query.Answers files second ↔ first = second := by
  constructor
  · exact known.unique
  · intro same
    subst same
    exact known

theorem answers_pure (value : α) : Answers files (pure value) (.ok value) :=
  fun _ agree => ⟨rfl, agree⟩

theorem answers_throw (failure : Failure) :
    Answers files (throw failure : Query α) (.error failure) :=
  fun _ agree => ⟨rfl, agree⟩

/-- What needs no packages answers for itself. -/
theorem answers_lift (answer : Except Failure α) :
    Answers files (liftM answer : Query α) answer := by
  intro scans agree
  cases answer with
  | error failure => exact ⟨rfl, agree⟩
  | ok value => exact ⟨rfl, agree⟩

theorem run_get (scans : Scans) : (get : Query Scans).run.run scans = (.ok scans, scans) := rfl

/-- One query after another answers what the second does to the answer of the first. -/
theorem Answers.bind {query : Query α} {answer : Except Failure α} {next : α → Query β}
    {rest : α → Except Failure β} (first : query.Answers files answer)
    (second : ∀ value, answer = .ok value → (next value).Answers files (rest value)) :
    (query >>= next).Answers files (answer >>= rest) := by
  intro scans agree
  rcases first scans agree with ⟨answered, kept⟩
  rw [Collecting.run_bind]
  cases outcome : query.run.run scans with
  | mk result later =>
    rw [outcome] at answered kept
    subst answered
    cases result with
    | ok value => exact second value rfl later kept
    | error failure => exact ⟨rfl, kept⟩

/-- What a query found may be remembered, in a way that keeps the agreement. -/
theorem Answers.remember {query : Query α} {answer : Except Failure α} {keep : α → Scans → Scans}
    (answered : query.Answers files answer)
    (agrees : ∀ value, answer = .ok value → ∀ scans : Scans, scans.Agree files →
      (keep value scans).Agree files) :
    (do
      let value ← query
      modify (keep value)
      return value : Query α).Answers files answer := by
  intro scans agree
  rcases answered scans agree with ⟨same, kept⟩
  rw [Collecting.run_bind]
  cases outcome : query.run.run scans with
  | mk result later =>
    rw [outcome] at same kept
    cases result with
    | error failure => exact ⟨same, kept⟩
    | ok value => exact ⟨same, agrees value same.symm later kept⟩

end Query

/-! ## Every query answers what a scan finds -/

namespace Package

open Query

/-- What is looked up among the remembered is among them. -/
theorem mem_of_lookup {entries : List (Package × α)} {package : Package} {value : α}
    (found : entries.lookup package = some value) : (package, value) ∈ entries := by
  rcases List.lookup_eq_some_iff.1 found with ⟨before, after, rfl, -⟩
  simp

theorem recallClasses_answers {package : Package} {scan : Query (List ClassRep)}
    (scanned : scan.Answers files (package.scanClasses files)) :
    (recallClasses package scan).Answers files (package.scanClasses files) := by
  intro scans agree
  rw [recallClasses, Collecting.run_bind, run_get]
  cases remembered : scans.classes.lookup package with
  | some classes =>
    simp only [remembered]
    exact ⟨(agree.classes _ (mem_of_lookup remembered)).symm, agree⟩
  | none =>
    simp only [remembered]
    refine scanned.remember ?_ scans agree
    intro classes found later kept
    refine ⟨?_, kept.packages⟩
    intro entry mem
    rcases List.mem_cons.1 mem with rfl | old
    · exact found
    · exact kept.classes entry old

theorem recallPackages_answers {package : Package} {scan : Query (List Package)}
    (scanned : scan.Answers files (package.scanPackages files)) :
    (recallPackages package scan).Answers files (package.scanPackages files) := by
  intro scans agree
  rw [recallPackages, Collecting.run_bind, run_get]
  cases remembered : scans.packages.lookup package with
  | some packages =>
    simp only [remembered]
    exact ⟨(agree.packages _ (mem_of_lookup remembered)).symm, agree⟩
  | none =>
    simp only [remembered]
    refine scanned.remember ?_ scans agree
    intro packages found later kept
    refine ⟨kept.classes, ?_⟩
    intro entry mem
    rcases List.mem_cons.1 mem with rfl | old
    · exact found
    · exact kept.packages entry old

mutual

theorem classes_answers (files : FileSystem) :
    (package : Package) → (package.classes files).Answers files (package.scanClasses files)
  | directory built role file policy => by
    rw [classes]
    exact recallClasses_answers (answers_lift _)
  | merged built view entries policy => by
    rw [classes]
    apply recallClasses_answers
    rw [scanClasses]
    exact (classesOfAll_answers files entries).bind fun classes _ => answers_pure _
  | listed built listing packages => by
    rw [classes, scanClasses]
    exact answers_pure _

theorem classesOfAll_answers (files : FileSystem) :
    (entries : List Package) →
      (classesOfAll files entries).Answers files (scanClassesOfAll files entries)
  | [] => by
    rw [classesOfAll, scanClassesOfAll]
    exact answers_pure _
  | package :: rest => by
    rw [classesOfAll, scanClassesOfAll]
    apply (classes_answers files package).bind
    intro here _
    exact (classesOfAll_answers files rest).bind fun others _ => answers_pure _

end

mutual

theorem packages_answers (files : FileSystem) :
    (package : Package) → (package.packages files).Answers files (package.scanPackages files)
  | directory built role file policy => by
    rw [packages]
    exact recallPackages_answers (answers_lift _)
  | merged built view entries policy => by
    rw [packages]
    apply recallPackages_answers
    rw [scanPackages]
    exact (packagesOfAll_answers files entries).bind fun packages _ => answers_pure _
  | listed built listing inner => by
    rw [packages, scanPackages]
    exact answers_pure _

theorem packagesOfAll_answers (files : FileSystem) :
    (entries : List Package) →
      (packagesOfAll files entries).Answers files (scanPackagesOfAll files entries)
  | [] => by
    rw [packagesOfAll, scanPackagesOfAll]
    exact answers_pure _
  | package :: rest => by
    rw [packagesOfAll, scanPackagesOfAll]
    apply (packages_answers files package).bind
    intro here _
    exact (packagesOfAll_answers files rest).bind fun others _ => answers_pure _

end

theorem descend_answers (package : Package) (names : List String) :
    (descend files package names).Answers files (package.packageAt files names) := by
  induction names generalizing package with
  | nil => exact answers_pure _
  | cons first rest ih =>
    rw [descend, packageAt]
    apply (packages_answers files package).bind
    intro packages _
    cases found : packages.find? (·.name = first) with
    | none => exact answers_pure _
    | some child => exact ih child

theorem findPackage_answers (package : Package) (name : String) :
    (package.findPackage files name).Answers files
      (package.packageAt files ((Text.split '.' name).filter (· ≠ ""))) :=
  descend_answers package _

theorem findPackage_answers_iff {package : Package} {name : String}
    {answer : Except Failure (Option Package)} :
    (package.findPackage files name).Answers files answer ↔
      package.packageAt files ((Text.split '.' name).filter (· ≠ "")) = answer :=
  (findPackage_answers package name).iff

theorem findAlong_answers (package : Package) (names : List String) :
    (findAlong files package names).Answers files (package.classAt files names) := by
  induction names generalizing package with
  | nil => exact answers_pure _
  | cons first rest ih =>
    cases rest with
    | nil =>
      rw [findAlong, classAt]
      exact (classes_answers files package).bind fun classes _ => answers_pure _
    | cons second rest =>
      rw [findAlong, classAt]
      apply (packages_answers files package).bind
      intro packages _
      cases found : packages.find? (·.name = first) with
      | none => exact answers_pure _
      | some child =>
        simp only
        cases stray : child.strayAnswer? with
        | some answer => exact answers_throw _
        | none => exact ih child

theorem findClass_answers (package : Package) (name : String) :
    (package.findClass files name).Answers files
      (package.classAt files (Text.split '.' name)) :=
  findAlong_answers package _

theorem findClass_answers_iff {package : Package} {name : String}
    {answer : Except Failure (Option ClassRep)} :
    (package.findClass files name).Answers files answer ↔
      package.classAt files (Text.split '.' name) = answer :=
  (findClass_answers package name).iff

theorem findSourceFile_answers (package : Package) (name : String) :
    (package.findSourceFile files name).Answers files
      ((package.classAt files (Text.split '.' name)).map (·.bind (·.source))) := by
  have mapped : (package.classAt files (Text.split '.' name)).map (·.bind (·.source)) =
      package.classAt files (Text.split '.' name) >>= fun found => .ok (found.bind (·.source)) := by
    cases package.classAt files (Text.split '.' name) <;> rfl
  rw [findSourceFile, mapped]
  exact (findClass_answers package name).bind fun found _ => answers_pure _

end Package

end JvmClasspath
