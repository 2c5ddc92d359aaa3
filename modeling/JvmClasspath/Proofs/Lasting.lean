import JvmClasspath.Assembly
import JvmClasspath.Proofs.Scan

/-!
# Answers last

A package that has answered a question gives the same answer ever after, whatever happens in
between: files come and go, the current directory changes, further packages are built, and packages
are asked, of which some fail midway.

What is remembered is never taken back, neither by an answer nor by a failure. And when a question
has been answered, all that the answer was put together from is remembered: the lists of every
package on the way. So the same question is answered from memory, and the files are not looked at.
-/

namespace JvmClasspath

variable {α β : Type}

/-! ## What stays remembered -/

namespace Scans

/-- Whether everything remembered earlier is remembered in the same way later. -/
structure KeptIn (earlier later : Scans) : Prop where
  classes : ∀ {package classes}, earlier.classes.lookup package = some classes →
    later.classes.lookup package = some classes
  packages : ∀ {package packages}, earlier.packages.lookup package = some packages →
    later.packages.lookup package = some packages

theorem KeptIn.refl (scans : Scans) : scans.KeptIn scans := ⟨id, id⟩

theorem KeptIn.trans {first second third : Scans} (before : first.KeptIn second)
    (after : second.KeptIn third) : first.KeptIn third :=
  ⟨fun found => after.classes (before.classes found),
    fun found => after.packages (before.packages found)⟩

/-- What is remembered of one more package takes nothing back if there was nothing of it. -/
theorem lookup_cons_of_new {earlier later : List (Package × α)} {package other : Package}
    {value found : α} (new : earlier.lookup package = none)
    (kept : ∀ {p v}, earlier.lookup p = some v → later.lookup p = some v)
    (remembered : earlier.lookup other = some found) :
    ((package, value) :: later).lookup other = some found := by
  have differs : (other == package) = false := by
    rw [beq_eq_false_iff_ne]
    intro same
    subst same
    rw [new] at remembered
    cases remembered
  rw [List.lookup_cons, differs]
  exact kept remembered

end Scans

/-! ## Queries whose answers last -/

namespace Query

/-- Whether a query takes back nothing that is remembered, be its end an answer or a failure. -/
def Grows (query : Query α) : Prop :=
  ∀ scans : Scans, scans.KeptIn (query.run.run scans).2

/-- Whether a query about files, once it has given a value, gives this value about any files, as
long as nothing is forgotten. -/
structure Lasts (query : FileSystem → Query α) : Prop where
  grows : ∀ files, (query files).Grows
  again : ∀ {files : FileSystem} {scans : Scans} {value : α},
    ((query files).run.run scans).1 = .ok value →
      ∀ {others : FileSystem} {later : Scans}, ((query files).run.run scans).2.KeptIn later →
        ((query others).run.run later).1 = .ok value

theorem grows_lift (answer : Except Failure α) : Grows (liftM answer : Query α) := by
  intro scans
  cases answer with
  | error failure => exact .refl scans
  | ok value => exact .refl scans

theorem Grows.bind {query : Query α} {next : α → Query β} (first : query.Grows)
    (second : ∀ value, (next value).Grows) : (query >>= next).Grows := by
  intro scans
  have kept := first scans
  rw [Collecting.run_bind]
  cases outcome : query.run.run scans with
  | mk result later =>
    rw [outcome] at kept
    cases result with
    | ok value => exact kept.trans (second value later)
    | error failure => exact kept

theorem lasts_pure (value : α) : Lasts fun _ => (pure value : Query α) where
  grows _ := Scans.KeptIn.refl
  again answered _ _ _ := answered

theorem lasts_throw (failure : Failure) : Lasts fun _ => (throw failure : Query α) where
  grows _ := Scans.KeptIn.refl
  again answered := nomatch answered

/-- One lasting query after another lasts. -/
theorem Lasts.bind {query : FileSystem → Query α} {next : FileSystem → α → Query β}
    (first : Lasts query) (second : ∀ value, Lasts fun files => next files value) :
    Lasts fun files => query files >>= next files where
  grows files := (first.grows files).bind fun value => (second value).grows files
  again := by
    intro files scans value answered others later kept
    have again := @first.again files scans
    rw [Collecting.run_bind] at answered kept
    cases outcome : (query files).run.run scans with
    | mk result between =>
      rw [outcome] at answered kept again
      cases result with
      | error failure => cases answered
      | ok found =>
        -- What the second query leaves behind has all that the first one left behind.
        have repeated := @again found rfl others later
          (((second found).grows files between).trans kept)
        have grown := first.grows others later
        rw [Collecting.run_bind]
        cases outcome' : (query others).run.run later with
        | mk result' after =>
          rw [outcome'] at repeated grown
          subst repeated
          exact (second found).again answered (kept.trans grown)

/-- What is remembered, or else what a scan finds, which is then remembered. -/
def rememberedOr (memory : Scans → Option α) (keep : α → Scans → Scans) (scan : Query α) :
    Query α := do
  match memory (← get) with
  | some value => return value
  | none =>
    let value ← scan
    modify (keep value)
    return value

theorem run_rememberedOr (memory : Scans → Option α) (keep : α → Scans → Scans) (scan : Query α)
    (scans : Scans) : (rememberedOr memory keep scan).run.run scans =
      match memory scans with
      | some value => (.ok value, scans)
      | none =>
        match scan.run.run scans with
        | (.ok value, later) => (.ok value, keep value later)
        | (.error failure, later) => (.error failure, later) := by
  rw [rememberedOr, Collecting.run_bind, run_get]
  cases remembered : memory scans with
  | some value =>
    simp only [remembered]
    rfl
  | none =>
    simp only [remembered]
    rw [Collecting.run_bind]
    rcases scan.run.run scans with ⟨_ | _, later⟩
    · rfl
    · rfl

/-- A query that answers from memory lasts, whatever it scans where nothing is remembered. -/
theorem lasts_rememberedOr (memory : Scans → Option α) (keep : α → Scans → Scans)
    {scan : FileSystem → Query α} (grows : ∀ files, (scan files).Grows)
    (recalls : ∀ {earlier later : Scans} {value}, earlier.KeptIn later →
      memory earlier = some value → memory later = some value)
    (remembers : ∀ value scans, memory (keep value scans) = some value)
    (adds : ∀ {earlier later : Scans} value, memory earlier = none → earlier.KeptIn later →
      earlier.KeptIn (keep value later)) :
    Lasts fun files => rememberedOr memory keep (scan files) where
  grows files := by
    intro scans
    have grown := grows files scans
    rw [run_rememberedOr]
    cases remembered : memory scans with
    | some value => exact .refl scans
    | none =>
      cases outcome : (scan files).run.run scans with
      | mk result later =>
        rw [outcome] at grown
        cases result with
        | error failure => exact grown
        | ok value => exact adds value remembered grown
  again := by
    intro files scans value answered others later kept
    suffices remembered : memory later = some value by
      rw [run_rememberedOr, remembered]
    rw [run_rememberedOr] at answered kept
    cases before : memory scans with
    | some old =>
      rw [before] at answered kept
      cases answered
      exact recalls kept before
    | none =>
      rw [before] at answered kept
      cases outcome : (scan files).run.run scans with
      | mk result between =>
        rw [outcome] at answered kept
        cases result with
        | error failure => cases answered
        | ok found =>
          cases answered
          exact recalls kept (remembers _ between)

end Query

/-! ## Every query lasts -/

namespace Package

open Query

theorem recallClasses_eq (package : Package) (scan : Query (List ClassRep)) :
    recallClasses package scan =
      rememberedOr (fun scans => scans.classes.lookup package)
        (fun classes scans => { scans with classes := (package, classes) :: scans.classes })
        scan := by
  rw [recallClasses, rememberedOr]
  apply bind_congr
  intro scans
  cases scans.classes.lookup package <;> rfl

theorem recallPackages_eq (package : Package) (scan : Query (List Package)) :
    recallPackages package scan =
      rememberedOr (fun scans => scans.packages.lookup package)
        (fun packages scans => { scans with packages := (package, packages) :: scans.packages })
        scan := by
  rw [recallPackages, rememberedOr]
  apply bind_congr
  intro scans
  cases scans.packages.lookup package <;> rfl

theorem recallClasses_lasts {package : Package} {scan : FileSystem → Query (List ClassRep)}
    (grows : ∀ files, (scan files).Grows) :
    Lasts fun files => recallClasses package (scan files) := by
  simp only [recallClasses_eq]
  apply lasts_rememberedOr _ _ grows
  · intro earlier later classes kept
    exact kept.classes
  · simp
  · intro earlier later classes new kept
    exact ⟨Scans.lookup_cons_of_new new kept.classes, kept.packages⟩

theorem recallPackages_lasts {package : Package} {scan : FileSystem → Query (List Package)}
    (grows : ∀ files, (scan files).Grows) :
    Lasts fun files => recallPackages package (scan files) := by
  simp only [recallPackages_eq]
  apply lasts_rememberedOr _ _ grows
  · intro earlier later packages kept
    exact kept.packages
  · simp
  · intro earlier later packages new kept
    exact ⟨kept.classes, Scans.lookup_cons_of_new new kept.packages⟩

mutual

theorem classes_lasts : (package : Package) → Lasts fun files => package.classes files
  | directory built role file policy => by
    simp only [classes]
    exact recallClasses_lasts fun files => grows_lift _
  | merged built view entries policy => by
    simp only [classes]
    apply recallClasses_lasts
    exact ((classesOfAll_lasts entries).bind fun _ => lasts_pure _).grows
  | listed built listing packages => by
    simp only [classes]
    exact lasts_pure _

theorem classesOfAll_lasts :
    (entries : List Package) → Lasts fun files => classesOfAll files entries
  | [] => by
    simp only [classesOfAll]
    exact lasts_pure _
  | package :: rest => by
    simp only [classesOfAll]
    apply (classes_lasts package).bind
    intro here
    exact (classesOfAll_lasts rest).bind fun _ => lasts_pure _

end

mutual

theorem packages_lasts : (package : Package) → Lasts fun files => package.packages files
  | directory built role file policy => by
    simp only [packages]
    exact recallPackages_lasts fun files => grows_lift _
  | merged built view entries policy => by
    simp only [packages]
    apply recallPackages_lasts
    exact ((packagesOfAll_lasts entries).bind fun _ => lasts_pure _).grows
  | listed built listing inner => by
    simp only [packages]
    exact lasts_pure _

theorem packagesOfAll_lasts :
    (entries : List Package) → Lasts fun files => packagesOfAll files entries
  | [] => by
    simp only [packagesOfAll]
    exact lasts_pure _
  | package :: rest => by
    simp only [packagesOfAll]
    apply (packages_lasts package).bind
    intro here
    exact (packagesOfAll_lasts rest).bind fun _ => lasts_pure _

end

theorem descend_lasts (package : Package) (names : List String) :
    Lasts fun files => descend files package names := by
  induction names generalizing package with
  | nil => exact lasts_pure _
  | cons first rest ih =>
    simp only [descend]
    apply (packages_lasts package).bind
    intro packages
    cases packages.find? (·.name = first) with
    | none => exact lasts_pure _
    | some child => exact ih child

theorem findAlong_lasts (package : Package) (names : List String) :
    Lasts fun files => findAlong files package names := by
  induction names generalizing package with
  | nil => exact lasts_pure _
  | cons first rest ih =>
    cases rest with
    | nil =>
      simp only [findAlong]
      exact (classes_lasts package).bind fun _ => lasts_pure _
    | cons second rest =>
      simp only [findAlong]
      apply (packages_lasts package).bind
      intro packages
      cases packages.find? (·.name = first) with
      | none => exact lasts_pure _
      | some child =>
        cases stray : child.strayAnswer? with
        | some answer =>
          simp only [stray]
          exact lasts_throw _
        | none =>
          simp only [stray]
          exact ih child

theorem findSourceFile_lasts (package : Package) (name : String) :
    Lasts fun files => package.findSourceFile files name := by
  simp only [findSourceFile, findClass]
  exact (findAlong_lasts package _).bind fun _ => lasts_pure _

end Package

/-! ## Runs -/

/-- What can be asked of a package. -/
inductive Question where
  | classes
  | packages
  | sourcePaths
  | findClass (name : String)
  | findSourceFile (name : String)
  | findPackage (name : String)

/-- What a question is answered with. -/
inductive Answer where
  | classes (reps : List ClassRep)
  | packages (packages : List Package)
  | sourcePaths (files : List File)
  | foundClass (rep : Option ClassRep)
  | foundSourceFile (file : Option File)
  | foundPackage (package : Option Package)
deriving DecidableEq

/-- Asks a package a question. -/
def Package.ask (files : FileSystem) (package : Package) : Question → Query Answer
  | .classes => return .classes (← package.classes files)
  | .packages => return .packages (← package.packages files)
  | .sourcePaths => return .sourcePaths package.sourcePaths
  | .findClass name => return .foundClass (← package.findClass files name)
  | .findSourceFile name => return .foundSourceFile (← package.findSourceFile files name)
  | .findPackage name => return .foundPackage (← package.findPackage files name)

theorem Package.ask_lasts (package : Package) (question : Question) :
    Query.Lasts fun files => package.ask files question := by
  cases question with
  | classes => exact (classes_lasts package).bind fun _ => Query.lasts_pure _
  | packages => exact (packages_lasts package).bind fun _ => Query.lasts_pure _
  | sourcePaths => exact Query.lasts_pure _
  | findClass name => exact (findAlong_lasts package _).bind fun _ => Query.lasts_pure _
  | findSourceFile name =>
    exact (findSourceFile_lasts package name).bind fun _ => Query.lasts_pure _
  | findPackage name => exact (descend_lasts package _).bind fun _ => Query.lasts_pure _

/-- How a package is built: over a directory or an archive, over packages that exist, or as the
whole class path that components describe. -/
inductive Plan where
  | directory (role : Role) (file : File) (policy : Policy)
  | merged (entries : List Package) (policy : Policy)
  | wholeClassPath (web : Web) (base : Option Path) (policy : Policy) (components : Components)

def Plan.build (files : FileSystem) : Plan → Session.Run Package
  | directory role file policy => return .directory (← Session.fresh) role file policy
  | merged entries policy => return .merged (← Session.fresh) .part entries policy
  | wholeClassPath web base policy components =>
    Assembly.assemble ⟨⟨files, web⟩, base, policy⟩ components

/-- One thing that happens in a run: the file system becomes another one, a package is built, or a
package is asked. -/
inductive Action where
  | change (edit : FileSystem → FileSystem)
  | build (plan : Plan)
  | ask (package : Package) (question : Question)

/-- Where a run stands: the files, what was built and opened, and what is remembered. -/
structure Moment where
  files : FileSystem
  session : Session
  scans : Scans

namespace Moment

/-- The answer, or failure, of a package that is asked at this moment. -/
def answer (moment : Moment) (package : Package) (question : Question) : Except Failure Answer :=
  ((package.ask moment.files question).run.run moment.scans).1

/-- The moment after an action, which may have failed. -/
def step (moment : Moment) : Action → Moment
  | .change edit => { moment with files := edit moment.files }
  | .build plan =>
    { moment with session := ((plan.build moment.files).run.run moment.session).2 }
  | .ask package question =>
    { moment with scans := ((package.ask moment.files question).run.run moment.scans).2 }

/-- The moment after several actions. -/
def after (moment : Moment) (actions : List Action) : Moment := actions.foldl step moment

theorem after_append (moment : Moment) (actions others : List Action) :
    moment.after (actions ++ others) = (moment.after actions).after others :=
  List.foldl_append

/-- No action takes back what is remembered. -/
theorem keptIn_step (moment : Moment) (action : Action) :
    moment.scans.KeptIn (moment.step action).scans := by
  cases action with
  | change edit => exact .refl _
  | build plan => exact .refl _
  | ask package question => exact (package.ask_lasts question).grows _ _

/-- No run takes back what is remembered. -/
theorem keptIn_after (moment : Moment) (actions : List Action) :
    moment.scans.KeptIn (moment.after actions).scans := by
  induction actions generalizing moment with
  | nil => exact .refl _
  | cons action rest ih => exact (moment.keptIn_step action).trans (ih (moment.step action))

/-- In every run, a package that has answered a question once gives that answer at every later
moment. -/
theorem answer_after (start : Moment) (before between : List Action) (package : Package)
    (question : Question) (answer : Answer)
    (answered : (start.after before).answer package question = .ok answer) :
    (start.after (before ++ .ask package question :: between)).answer package question =
      .ok answer := by
  rw [after_append]
  exact (package.ask_lasts question).again answered
    (keptIn_after ((start.after before).step (.ask package question)) between)

/-- The start of a run, with one compiled class in the file system. -/
def oneClass : Moment where
  files := FileSystem.ofEntries
    [(["c"], .directory), (["c", "p"], .directory), (["c", "p", "X.class"], .file (.bytes [1]))]
  session := .start
  scans := .empty

/-- The package over the directory of the class, which is named from the current directory. -/
def compiled : Package := .directory 0 .binaries (.plain ⟨.here, ["c"]⟩) .showAll

/-- A merge that holds this package twice. -/
def doubled : Package := .merged 1 .part [compiled, compiled] .showAll

/-- Building the two packages. -/
def builds : List Action :=
  [.build (.directory .binaries (.plain ⟨.here, ["c"]⟩) .showAll),
    .build (.merged [compiled, compiled] .showAll)]

/-- What may happen later: the class is removed with its directory, another class of its name comes
to stand elsewhere, the current directory changes, and a further package is asked. -/
def upheaval : List Action :=
  [.change (·.remove ["c"]),
    .change (·.put ⟨.root, ["d", "c", "p", "q", "X.class"]⟩ (.file (.bytes [2]))),
    .change (·.changeDirectory ["d"]), .build (.merged [doubled, compiled] .showAll),
    .ask compiled (.findPackage "p.q")]

/-- The merge finds the class before all this and after it, although its file is gone. -/
theorem answer_after_upheaval :
    ∃ rep : ClassRep, rep.binary = some (.plain ⟨.here, ["c", "p", "X.class"]⟩) ∧
      (oneClass.after builds).answer doubled (.findClass "p.X") = .ok (.foundClass (some rep)) ∧
      (oneClass.after (builds ++ .ask doubled (.findClass "p.X") :: upheaval)).answer doubled
          (.findClass "p.X") = .ok (.foundClass (some rep)) := by
  have found : (oneClass.after builds).answer doubled (.findClass "p.X") =
      .ok (.foundClass (some ⟨some (.plain ⟨.here, ["c", "p", "X.class"]⟩), none, "X", rfl⟩)) := by
    decide +kernel
  exact ⟨_, rfl, found, answer_after oneClass builds upheaval doubled (.findClass "p.X") _ found⟩

end Moment

end JvmClasspath
