import JvmClasspath.Proofs.Lasting
import Mathlib.Data.List.Induction

/-!
# Packages do not disturb each other

Packages share their entries, with each other and with whoever built them, and what is remembered of
an entry is remembered for all of them. As long as the files stay as they are none of that can be
noticed: whatever was built and asked before, in whatever order, a package answers as it would
have if it were the first that is asked. So does a copy of it, of which nothing can be remembered.

A copy is built over the same opened files and differs in its numbers alone. No number has a part in
what is found, so what copies find are copies again.
-/

namespace JvmClasspath

variable {files : FileSystem}

namespace Package

/-! ## Copies -/

mutual

/-- What a package is made of, without the numbers that tell it and the packages in it from other
ones. -/
def unnumbered : Package → Package
  | directory _ role file policy => directory 0 role file policy
  | merged _ view entries policy => merged 0 view (unnumberedAll entries) policy
  | listed _ listing packages => listed 0 listing (unnumberedAll packages)

def unnumberedAll : List Package → List Package
  | [] => []
  | package :: rest => package.unnumbered :: unnumberedAll rest

end

/-- Whether a package is built of the same parts over the same files as another one. -/
def IsCopyOf (copy package : Package) : Prop := copy.unnumbered = package.unnumbered

instance (copy package : Package) : Decidable (copy.IsCopyOf package) :=
  inferInstanceAs (Decidable (_ = _))

theorem unnumberedAll_eq (packages : List Package) :
    unnumberedAll packages = packages.map unnumbered := by
  induction packages with
  | nil => rfl
  | cons package rest ih => rw [unnumberedAll, ih, List.map_cons]

@[simp] theorem name_unnumbered : (package : Package) → package.unnumbered.name = package.name
  | directory .. => rfl
  | merged _ (.wholeClassPath _) _ _ => rfl
  | merged _ .part [] _ => rfl
  | merged _ .part (first :: _) _ => name_unnumbered first
  | listed .. => rfl

@[simp] theorem strayAnswer?_unnumbered (package : Package) :
    package.unnumbered.strayAnswer? = package.strayAnswer? := by
  cases package <;> rfl

theorem parts_unnumbered (package : Package) :
    package.unnumbered.parts = package.parts.map unnumbered := by
  cases package with
  | merged built view entries policy => exact unnumberedAll_eq entries
  | directory built role file policy => rfl
  | listed built listing packages => rfl

mutual

theorem sourcePaths_unnumbered :
    (package : Package) → package.unnumbered.sourcePaths = package.sourcePaths
  | directory _ .binaries _ _ => rfl
  | directory _ .sources _ _ => rfl
  | merged _ _ entries _ => sourcePathsOf_unnumberedAll entries
  | listed .. => rfl

theorem sourcePathsOf_unnumberedAll :
    (packages : List Package) → sourcePathsOf (unnumberedAll packages) = sourcePathsOf packages
  | [] => rfl
  | package :: rest => by
    rw [unnumberedAll, sourcePathsOf, sourcePathsOf, sourcePaths_unnumbered package,
      sourcePathsOf_unnumberedAll rest]

end

/-- The first package of a name is found in its place. -/
theorem find?_map_unnumbered (packages : List Package) (simple : String) :
    (packages.map unnumbered).find? (·.name = simple) =
      (packages.find? (·.name = simple)).map unnumbered := by
  rw [List.find?_map]
  simp only [Function.comp_def, name_unnumbered]

/-! ## Merging copies -/

theorem map_unnumbered_addPackage (built : Nat) (policy : Policy) (package : Package)
    (packages : List Package) :
    (addPackage built policy package packages).map unnumbered =
      addPackage 0 policy package.unnumbered (packages.map unnumbered) := by
  induction packages with
  | nil => rfl
  | cons first rest ih =>
    rw [addPackage, List.map_cons, addPackage, name_unnumbered, name_unnumbered]
    split
    · rw [List.map_cons, unnumbered, unnumberedAll_eq, parts_unnumbered, List.map_append,
        List.map_singleton]
    · rw [List.map_cons, ih]

theorem map_unnumbered_mergePackages (built : Nat) (policy : Policy) (packages : List Package) :
    (mergePackages built policy packages).map unnumbered =
      mergePackages 0 policy (packages.map unnumbered) := by
  induction packages using List.reverseRecOn with
  | nil => rfl
  | append_singleton packages package ih =>
    simp only [mergePackages, List.map_append, List.foldl_append, List.map_singleton,
      List.foldl_cons, List.foldl_nil, map_unnumbered_addPackage] at ih ⊢
    rw [ih]

/-! ## Scanning copies -/

mutual

theorem scanClasses_unnumbered :
    (package : Package) → package.unnumbered.scanClasses files = package.scanClasses files
  | directory .. => rfl
  | merged _ _ entries _ => by
    rw [unnumbered, scanClasses, scanClasses, scanClassesOfAll_unnumberedAll entries]
  | listed .. => rfl

theorem scanClassesOfAll_unnumberedAll :
    (packages : List Package) →
      scanClassesOfAll files (unnumberedAll packages) = scanClassesOfAll files packages
  | [] => rfl
  | package :: rest => by
    rw [unnumberedAll, scanClassesOfAll, scanClassesOfAll, scanClasses_unnumbered package,
      scanClassesOfAll_unnumberedAll rest]

end

mutual

/-- What copies hold are copies. -/
theorem scanPackages_unnumbered :
    (package : Package) → package.unnumbered.scanPackages files =
      (package.scanPackages files).map (List.map unnumbered)
  | directory built role file policy => by
    rw [unnumbered, scanPackages, scanPackages, packagesIn, packagesIn]
    simp only [Collecting.map_bind, Collecting.map_pure, List.map_map, Function.comp_def,
      unnumbered]
  | merged built view entries policy => by
    rw [unnumbered, scanPackages, scanPackages, scanPackagesOfAll_unnumberedAll entries]
    simp only [Collecting.map_bind, Collecting.bind_map, Collecting.map_pure,
      map_unnumbered_mergePackages]
  | listed built listing packages => congrArg Except.ok (unnumberedAll_eq packages)

theorem scanPackagesOfAll_unnumberedAll :
    (packages : List Package) → scanPackagesOfAll files (unnumberedAll packages) =
      (scanPackagesOfAll files packages).map (List.map unnumbered)
  | [] => rfl
  | package :: rest => by
    rw [unnumberedAll, scanPackagesOfAll, scanPackagesOfAll, scanPackages_unnumbered package,
      scanPackagesOfAll_unnumberedAll rest]
    simp only [Collecting.map_bind, Collecting.bind_map, Collecting.map_pure, List.map_append]

end

theorem packageAt_unnumbered (package : Package) (names : List String) :
    package.unnumbered.packageAt files names =
      (package.packageAt files names).map (Option.map unnumbered) := by
  induction names generalizing package with
  | nil => rfl
  | cons first rest ih =>
    rw [packageAt, packageAt, scanPackages_unnumbered, Collecting.bind_map, Collecting.map_bind]
    apply bind_congr
    intro packages
    rw [find?_map_unnumbered]
    cases packages.find? (·.name = first) with
    | none => rfl
    | some child => exact ih child

theorem classAt_unnumbered (package : Package) (names : List String) :
    package.unnumbered.classAt files names = package.classAt files names := by
  induction names generalizing package with
  | nil => rfl
  | cons first rest ih =>
    cases rest with
    | nil => rw [classAt, classAt, scanClasses_unnumbered]
    | cons second rest =>
      rw [classAt, classAt, scanPackages_unnumbered, Collecting.bind_map]
      apply bind_congr
      intro packages
      rw [find?_map_unnumbered]
      cases packages.find? (·.name = first) with
      | none => rfl
      | some child =>
        simp only [Option.map_some, strayAnswer?_unnumbered]
        cases child.strayAnswer? with
        | some answer => rfl
        | none => exact ih child

end Package

/-! ## Questions -/

/-- An answer without the numbers of packages. -/
def Answer.unnumbered : Answer → Answer
  | .packages held => .packages (held.map Package.unnumbered)
  | .foundPackage found => .foundPackage (found.map Package.unnumbered)
  | .classes reps => .classes reps
  | .sourcePaths paths => .sourcePaths paths
  | .foundClass found => .foundClass found
  | .foundSourceFile found => .foundSourceFile found

namespace Package

/-- What a scan tells to a question. -/
def told (files : FileSystem) (package : Package) : Question → Except Failure Answer
  | .classes => return .classes (← package.scanClasses files)
  | .packages => return .packages (← package.scanPackages files)
  | .sourcePaths => return .sourcePaths package.sourcePaths
  | .findClass name => return .foundClass (← package.classAt files (Text.split '.' name))
  | .findSourceFile name =>
    return .foundSourceFile
      (← (package.classAt files (Text.split '.' name)).map (·.bind (·.source)))
  | .findPackage name =>
    return .foundPackage (← package.packageAt files ((Text.split '.' name).filter (· ≠ "")))

/-- Every question is answered with what a scan tells. -/
theorem ask_answers (package : Package) (question : Question) :
    (package.ask files question).Answers files (package.told files question) := by
  cases question with
  | classes => exact (classes_answers files package).bind fun _ _ => Query.answers_pure _
  | packages => exact (packages_answers files package).bind fun _ _ => Query.answers_pure _
  | sourcePaths => exact Query.answers_pure _
  | findClass name => exact (findClass_answers package name).bind fun _ _ => Query.answers_pure _
  | findSourceFile name =>
    exact (findSourceFile_answers package name).bind fun _ _ => Query.answers_pure _
  | findPackage name =>
    exact (findPackage_answers package name).bind fun _ _ => Query.answers_pure _

/-- A copy is told the same, but for the numbers of packages. -/
theorem told_unnumbered (package : Package) (question : Question) :
    package.unnumbered.told files question =
      (package.told files question).map Answer.unnumbered := by
  cases question with
  | classes =>
    simp only [told, scanClasses_unnumbered, Collecting.map_bind, Collecting.map_pure,
      Answer.unnumbered]
  | packages =>
    simp only [told, scanPackages_unnumbered, Collecting.map_bind, Collecting.bind_map,
      Collecting.map_pure, Answer.unnumbered]
  | sourcePaths =>
    simp only [told, sourcePaths_unnumbered, Collecting.map_pure, Answer.unnumbered]
  | findClass name =>
    simp only [told, classAt_unnumbered, Collecting.map_bind, Collecting.map_pure,
      Answer.unnumbered]
  | findSourceFile name =>
    simp only [told, classAt_unnumbered, Collecting.map_bind, Collecting.map_pure,
      Answer.unnumbered]
  | findPackage name =>
    simp only [told, packageAt_unnumbered, Collecting.map_bind, Collecting.bind_map,
      Collecting.map_pure, Answer.unnumbered]

theorem IsCopyOf.told_eq {copy package : Package} (copied : copy.IsCopyOf package)
    (question : Question) :
    (copy.told files question).map Answer.unnumbered =
      (package.told files question).map Answer.unnumbered := by
  rw [← told_unnumbered, copied, told_unnumbered]

end Package

/-! ## Runs over files that do not change -/

/-- Whether an action leaves the files as they are: something is built, or a package is asked. -/
def Action.IsStill : Action → Prop
  | .change _ => False
  | .build _ => True
  | .ask .. => True

namespace Moment

/-- A moment before anything was asked. -/
def fresh (files : FileSystem) (session : Session) : Moment := ⟨files, session, .empty⟩

/-- Asking leaves behind what agrees with the files. -/
theorem agree_step {moment : Moment} (agree : moment.scans.Agree moment.files) {action : Action}
    (still : action.IsStill) :
    (moment.step action).files = moment.files ∧
      (moment.step action).scans.Agree moment.files := by
  cases action with
  | change edit => cases still
  | build plan => exact ⟨rfl, agree⟩
  | ask package question => exact ⟨rfl, (package.ask_answers question _ agree).2⟩

/-- So does a whole run over files that do not change. -/
theorem agree_after {moment : Moment} (agree : moment.scans.Agree moment.files)
    {actions : List Action} (still : ∀ action ∈ actions, action.IsStill) :
    (moment.after actions).files = moment.files ∧
      (moment.after actions).scans.Agree moment.files := by
  induction actions generalizing moment with
  | nil => exact ⟨rfl, agree⟩
  | cons action rest ih =>
    rw [List.forall_mem_cons] at still
    obtain ⟨same, kept⟩ := agree_step agree still.1
    rw [← same] at kept ⊢
    exact ih kept still.2

/-- After such a run every question is answered with what a scan tells. -/
theorem answer_eq_told (files : FileSystem) (session : Session) {actions : List Action}
    (still : ∀ action ∈ actions, action.IsStill) (package : Package) (question : Question) :
    ((fresh files session).after actions).answer package question =
      package.told files question := by
  have started : (fresh files session).scans.Agree (fresh files session).files :=
    Scans.agree_empty files
  obtain ⟨same, agree⟩ := agree_after started still
  rw [answer, same]
  exact (package.ask_answers question _ agree).1

/-- Whatever was built and asked before, and in whatever order, a package gives the same answer, the
one that it gives after nothing at all; and a copy gives that answer too, but for the numbers of the
packages in it. -/
theorem answer_undisturbed (files : FileSystem) (session session' : Session)
    {actions others : List Action} (still : ∀ action ∈ actions, action.IsStill)
    (still' : ∀ action ∈ others, action.IsStill) {package copy : Package}
    (copied : copy.IsCopyOf package) (question : Question) :
    ((fresh files session).after actions).answer package question =
        ((fresh files session').after others).answer package question ∧
      (((fresh files session).after actions).answer package question).map Answer.unnumbered =
        (((fresh files session').after others).answer copy question).map Answer.unnumbered := by
  rw [answer_eq_told files session still, answer_eq_told files session' still',
    answer_eq_told files session' still']
  exact ⟨rfl, (copied.told_eq question).symm⟩

/-- A class that is compiled in one directory and written in another one. -/
def workshop : FileSystem :=
  FileSystem.ofEntries
    [(["c"], .directory), (["c", "p"], .directory), (["c", "p", "X.class"], .file (.bytes [1])),
      (["s"], .directory), (["s", "p"], .directory), (["s", "p", "X.scala"], .file (.bytes [2]))]

def workshopEntries (built : Nat) : List Package :=
  [.directory built .binaries (.plain ⟨.root, ["c"]⟩) .showAll,
    .directory (built + 1) .sources (.plain ⟨.root, ["s"]⟩) .showAll]

/-- The entries as one package, and a package in which they are entries once more beside it. -/
def workshopMerge (built : Nat) : Package :=
  .merged (built + 2) .part (workshopEntries built) .showAll

def workshopView (built : Nat) : Package :=
  .merged (built + 3) .part (workshopMerge built :: workshopEntries built) .showAll

/-- The entries, and packages that they are shared by, are asked one after the other. -/
def bustle : List Action :=
  [.build (.directory .binaries (.plain ⟨.root, ["c"]⟩) .showAll),
    .ask (workshopMerge 0) (.findClass "p.X"), .build (.merged (workshopEntries 0) .showAll)] ++
    (workshopEntries 0).map (.ask · .packages) ++ [.ask (workshopView 0) (.findPackage "p.q")]

/-- After that the view and a copy of it, which was never asked, find one class of the two files. -/
theorem answer_undisturbed_workshop :
    (∀ action ∈ bustle, action.IsStill) ∧ (workshopView 4).IsCopyOf (workshopView 0) ∧
      workshopView 4 ≠ workshopView 0 ∧
      (((fresh workshop .start).after bustle).answer (workshopView 0) (.findClass "p.X")).map
          Answer.unnumbered =
        ((fresh workshop .start).answer (workshopView 4) (.findClass "p.X")).map
          Answer.unnumbered ∧
      ((fresh workshop .start).answer (workshopView 4) (.findClass "p.X")) =
        .ok (.foundClass (some ⟨some (.plain ⟨.root, ["c", "p", "X.class"]⟩),
          some (.plain ⟨.root, ["s", "p", "X.scala"]⟩), "X", rfl⟩)) := by
  have still : ∀ action ∈ bustle, action.IsStill := by
    simp [bustle, workshopEntries, Action.IsStill]
  have copied : (workshopView 4).IsCopyOf (workshopView 0) := by decide +kernel
  have nothing : ∀ action ∈ ([] : List Action), action.IsStill := by simp
  have undisturbed :=
    answer_undisturbed workshop .start .start still nothing copied (.findClass "p.X")
  exact ⟨still, copied, by decide +kernel, undisturbed.2, by decide +kernel⟩

end Moment

end JvmClasspath
