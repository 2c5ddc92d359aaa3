import JvmClasspath.Proofs.Enumerating

/-!
# What packages show at a moment

A package that was asked for its classes before answers from memory, and any other one with what a
scan finds now, for which its entries are asked in turn. So what it shows depends on what is
remembered and on the files. Asking does not change it: what is found and remembered on the way is
what has been shown all along.

What is remembered of a merged package may be older than the files. But it is coherent: it was put
together from the lists of the entries, and these are settled since. So at every moment of a run a
merged package shows what its entries show, merged.
-/

namespace JvmClasspath

variable {α β : Type}

/-! ## What is shown -/

/-- The classes that are remembered of a package, or else those found. -/
def Scans.classesOr (scans : Scans) (package : Package) (found : Except Failure (List ClassRep)) :
    Except Failure (List ClassRep) :=
  match scans.classes.lookup package with
  | some reps => .ok reps
  | none => found

namespace Package

mutual

/-- The classes that a package shows if it is asked now. -/
def shown (files : FileSystem) (scans : Scans) : Package → Except Failure (List ClassRep)
  | directory built role file policy =>
    scans.classesOr (directory built role file policy) (classesIn files role file policy)
  | merged built view entries policy =>
    scans.classesOr (merged built view entries policy) do
      return mergeClasses (← shownOfAll files scans entries)
  | listed _ listing _ => return listing.classes

/-- The classes that several packages show, one after the other. -/
def shownOfAll (files : FileSystem) (scans : Scans) :
    List Package → Except Failure (List ClassRep)
  | [] => return []
  | package :: rest => do
    let here ← package.shown files scans
    return here ++ (← shownOfAll files scans rest)

end

variable {files : FileSystem} {scans : Scans}

theorem shownOfAll_eq (entries : List Package) :
    shownOfAll files scans entries = Collecting.gather (shown files scans) entries := by
  induction entries with
  | nil => rw [shownOfAll]; rfl
  | cons package rest ih => rw [shownOfAll, Collecting.gather_cons, ih]

end Package

namespace Scans

/-- What is remembered when the classes of one more package are known. -/
def withClasses (scans : Scans) (package : Package) (reps : List ClassRep) : Scans :=
  { scans with classes := (package, reps) :: scans.classes }

variable {files : FileSystem} {scans : Scans} {package : Package} {reps : List ClassRep}

theorem lookup_withClasses (other : Package) :
    (scans.withClasses package reps).classes.lookup other =
      if other = package then some reps else scans.classes.lookup other := by
  rw [withClasses, List.lookup_cons]
  by_cases here : other = package
  · rw [if_pos here, here, beq_self_eq_true]
  · rw [if_neg here, beq_false_of_ne here]

theorem classesOr_withClasses {other : Package} {found : Except Failure (List ClassRep)}
    (known : other = package → scans.classesOr package found = .ok reps) :
    (scans.withClasses package reps).classesOr other found = scans.classesOr other found := by
  rw [classesOr, lookup_withClasses]
  by_cases here : other = package
  · rw [if_pos here, here, known here]
  · rw [if_neg here]
    rfl

mutual

/-- Remembering what a package shows changes nothing of what packages show. -/
theorem shown_withClasses (known : package.shown files scans = .ok reps) :
    (other : Package) →
      other.shown files (scans.withClasses package reps) = other.shown files scans
  | .directory built role file policy => by
    rw [Package.shown, Package.shown]
    apply classesOr_withClasses
    intro here
    rw [← known, ← here, Package.shown]
  | .merged built view entries policy => by
    rw [Package.shown, Package.shown, shownOfAll_withClasses known entries]
    apply classesOr_withClasses
    intro here
    rw [← known, ← here, Package.shown]
  | .listed built listing packages => by
    rw [Package.shown, Package.shown]

theorem shownOfAll_withClasses (known : package.shown files scans = .ok reps) :
    (entries : List Package) →
      Package.shownOfAll files (scans.withClasses package reps) entries =
        Package.shownOfAll files scans entries
  | [] => by
    rw [Package.shownOfAll, Package.shownOfAll]
  | entry :: rest => by
    rw [Package.shownOfAll, Package.shownOfAll, shown_withClasses known entry,
      shownOfAll_withClasses known rest]

end

/-- Nor does it take anything back. -/
theorem keptIn_withClasses {found : Except Failure (List ClassRep)}
    (known : scans.classesOr package found = .ok reps) :
    scans.KeptIn (scans.withClasses package reps) := by
  refine ⟨?_, id⟩
  intro other remembered lookedUp
  rw [lookup_withClasses]
  by_cases here : other = package
  · rw [classesOr, ← here, lookedUp] at known
    rw [if_pos here]
    exact congrArg some (Except.ok.inj known).symm
  · rw [if_neg here]
    exact lookedUp

/-! ### What merged packages were put together from -/

/-- Whether these classes, if the package is a merged one, are put together from lists that are
settled for its entries. -/
def Composed (scans : Scans) (package : Package) (reps : List ClassRep) : Prop :=
  ∀ entries, package.entries? = some entries → ∃ lists,
    List.Forall₂ (fun entry list => Query.Settled scans (entry.classes ·) list) entries lists ∧
      reps = Package.mergeClasses lists.flatten

/-- Whether all classes that are remembered of merged packages are put together so. -/
def Coherent (scans : Scans) : Prop :=
  ∀ package reps, scans.classes.lookup package = some reps → scans.Composed package reps

theorem coherent_empty : Scans.empty.Coherent := by
  intro package reps remembered
  cases remembered

theorem Composed.keptIn {later : Scans} (composed : scans.Composed package reps)
    (kept : scans.KeptIn later) : later.Composed package reps := by
  intro entries merged
  obtain ⟨lists, each, same⟩ := composed entries merged
  exact ⟨lists, each.imp fun entry list settled => settled.keptIn kept, same⟩

theorem Coherent.remember {found : Except Failure (List ClassRep)} (coherent : scans.Coherent)
    (known : scans.classesOr package found = .ok reps) (composed : scans.Composed package reps) :
    (scans.withClasses package reps).Coherent := by
  have kept := keptIn_withClasses known
  intro other remembered lookedUp
  rw [lookup_withClasses] at lookedUp
  by_cases here : other = package
  · rw [if_pos here] at lookedUp
    cases lookedUp
    rw [here]
    exact composed.keptIn kept
  · rw [if_neg here] at lookedUp
    exact (coherent other remembered lookedUp).keptIn kept

end Scans

/-! ## Asking for classes -/

namespace Query

/-- Whether a query about classes tells something that follows from what packages show, changes
nothing of what they show, and keeps what is remembered coherent. -/
def Tells (files : FileSystem) (query : Query α)
    (told : (Package → Except Failure (List ClassRep)) → Except Failure α) : Prop :=
  ∀ scans : Scans,
    (query.run.run scans).1 = told (Package.shown files scans) ∧
    Package.shown files (query.run.run scans).2 = Package.shown files scans ∧
    (scans.Coherent → (query.run.run scans).2.Coherent)

variable {files : FileSystem} {query : Query α}
  {told : (Package → Except Failure (List ClassRep)) → Except Failure α}

theorem tells_pure (value : α) : Tells files (pure value) fun _ => .ok value :=
  fun _ => ⟨rfl, rfl, id⟩

theorem tells_lift (answer : Except Failure α) :
    Tells files (liftM answer : Query α) fun _ => answer := by
  cases answer with
  | error failure => exact fun _ => ⟨rfl, rfl, id⟩
  | ok value => exact tells_pure value

theorem Tells.bind {next : α → Query β}
    {rest : α → (Package → Except Failure (List ClassRep)) → Except Failure β}
    (first : query.Tells files told) (second : ∀ value, (next value).Tells files (rest value)) :
    (query >>= next).Tells files fun shown => told shown >>= (rest · shown) := by
  intro scans
  obtain ⟨tells, same, coherent⟩ := first scans
  rw [Collecting.run_bind]
  cases outcome : query.run.run scans with
  | mk result later =>
    rw [outcome] at tells same coherent
    beta_reduce
    rw [← tells, ← same]
    cases result with
    | ok value =>
      obtain ⟨tells', same', coherent'⟩ := second value later
      exact ⟨tells', same', coherent' ∘ coherent⟩
    | error failure => exact ⟨rfl, rfl, coherent⟩

/-- What is remembered, or else found, is what a package shows, provided that a merged one finds
what is put together from settled lists. -/
theorem tells_recallClasses {package : Package} {scan : Query (List ClassRep)}
    {found : (Package → Except Failure (List ClassRep)) → Except Failure (List ClassRep)}
    (scanned : scan.Tells files found)
    (shows : ∀ scans, package.shown files scans =
      scans.classesOr package (found (Package.shown files scans)))
    (composes : ∀ {scans : Scans} {reps}, (scan.run.run scans).1 = .ok reps →
      (scan.run.run scans).2.Composed package reps) :
    (Package.recallClasses package scan).Tells files fun shown => shown package := by
  intro scans
  obtain ⟨tells, same, coherent⟩ := scanned scans
  have composed := @composes scans
  have here := shows scans
  rw [Scans.classesOr] at here
  rw [Package.recallClasses_eq, run_rememberedOr]
  cases remembered : scans.classes.lookup package with
  | some reps =>
    rw [remembered] at here
    exact ⟨here.symm, rfl, id⟩
  | none =>
    rw [remembered] at here
    cases outcome : scan.run.run scans with
    | mk result later =>
      rw [outcome] at tells same coherent composed
      cases result with
      | error failure => exact ⟨tells.trans here.symm, same, coherent⟩
      | ok reps =>
        -- What was found is what the package has been showing all along.
        have known : package.shown files later = .ok reps :=
          (congrFun same package).trans (here.trans tells.symm)
        refine ⟨tells.trans here.symm, (funext (Scans.shown_withClasses known)).trans same, ?_⟩
        intro kept
        exact (coherent kept).remember ((shows later).symm.trans known) (composed rfl)

end Query

namespace Package

open Query

/-- The lists of several packages that have been asked are settled. -/
theorem classesOfAll_settles {files : FileSystem} {entries : List Package} {scans : Scans}
    {all : List ClassRep} (answered : ((classesOfAll files entries).run.run scans).1 = .ok all) :
    ∃ lists, List.Forall₂ (fun entry list =>
        Settled ((classesOfAll files entries).run.run scans).2 (entry.classes ·) list)
      entries lists ∧ all = lists.flatten := by
  induction entries generalizing scans all with
  | nil =>
    rw [classesOfAll] at answered
    cases answered
    exact ⟨[], .nil, rfl⟩
  | cons entry rest ih =>
    have settles : ∀ {reps}, ((entry.classes files).run.run scans).1 = .ok reps →
        Settled ((entry.classes files).run.run scans).2 (entry.classes ·) reps :=
      (classes_lasts entry).settled
    rw [classesOfAll, Collecting.run_bind] at answered ⊢
    cases outcome : (entry.classes files).run.run scans with
    | mk result later =>
      rw [outcome] at answered settles
      cases result with
      | error failure => cases answered
      | ok here =>
        simp only [Collecting.run_bind] at answered ⊢
        have grown := (classesOfAll_lasts rest).grows files later
        cases outcome' : (classesOfAll files rest).run.run later with
        | mk result' after =>
          have below := @ih later
          rw [outcome'] at answered grown below
          cases result' with
          | error failure => cases answered
          | ok others =>
            cases answered
            obtain ⟨lists, each, same⟩ := below rfl
            exact ⟨here :: lists, .cons ((settles rfl).keptIn grown) each, same ▸ rfl⟩

/-- What a merged package is put together from are the lists of its entries. -/
theorem composed_merged {files : FileSystem} {built : Nat} {view : View} {entries : List Package}
    {policy : Policy} {scans : Scans} {reps : List ClassRep}
    (answered : ((do return mergeClasses (← classesOfAll files entries) : Query _).run.run
      scans).1 = .ok reps) :
    ((do return mergeClasses (← classesOfAll files entries) : Query _).run.run
      scans).2.Composed (merged built view entries policy) reps := by
  have settles := @classesOfAll_settles files entries scans
  rw [Collecting.run_bind] at answered ⊢
  cases outcome : (classesOfAll files entries).run.run scans with
  | mk result later =>
    rw [outcome] at answered settles
    cases result with
    | error failure => cases answered
    | ok all =>
      cases answered
      intro others merged
      cases merged
      obtain ⟨lists, each, same⟩ := settles rfl
      exact ⟨lists, each, congrArg mergeClasses same⟩

mutual

/-- A package that is asked for its classes answers with what it shows. -/
theorem classes_tells (files : FileSystem) :
    (package : Package) → (package.classes files).Tells files fun shown => shown package
  | directory built role file policy => by
    rw [classes]
    apply tells_recallClasses (tells_lift _)
    · intro scans
      rw [shown]
    · intro scans reps _ entries merged
      cases merged
  | merged built view entries policy => by
    rw [classes]
    apply tells_recallClasses ((classesOfAll_tells files entries).bind fun reps => tells_pure _)
    · intro scans
      rw [shown, shownOfAll_eq]
      rfl
    · exact composed_merged
  | listed built listing packages => by
    rw [classes]
    intro scans
    beta_reduce
    rw [shown]
    exact ⟨rfl, rfl, id⟩

theorem classesOfAll_tells (files : FileSystem) :
    (entries : List Package) →
      (classesOfAll files entries).Tells files fun shown => Collecting.gather shown entries
  | [] => by
    rw [classesOfAll]
    exact tells_pure _
  | package :: rest => by
    simp only [classesOfAll, Collecting.gather_cons]
    apply (classes_tells files package).bind
    intro here
    exact (classesOfAll_tells files rest).bind fun others => tells_pure _

end

theorem classes_shown (files : FileSystem) (package : Package) (scans : Scans) :
    ((package.classes files).run.run scans).1 = package.shown files scans :=
  (classes_tells files package scans).1

/-- Where what is remembered is coherent, a merged package shows what its entries show, merged. -/
theorem shown_merged {files : FileSystem} {scans : Scans} (coherent : scans.Coherent) (built : Nat)
    (view : View) (entries : List Package) (policy : Policy) :
    (merged built view entries policy).shown files scans =
      (Collecting.gather (shown files scans) entries).map mergeClasses := by
  have scanned : (do return mergeClasses (← shownOfAll files scans entries)) =
      (Collecting.gather (shown files scans) entries).map mergeClasses := by
    rw [shownOfAll_eq]
    cases Collecting.gather (shown files scans) entries <;> rfl
  rw [shown, Scans.classesOr, scanned]
  cases remembered : scans.classes.lookup (merged built view entries policy) with
  | none => rfl
  | some reps =>
    obtain ⟨lists, each, rfl⟩ := coherent _ reps remembered entries rfl
    have gathered : Collecting.gather (shown files scans) entries = .ok lists.flatten := by
      refine Collecting.gather_eq_ok.2 ⟨lists, each.imp ?_, rfl⟩
      intro entry list settled
      rw [← classes_shown]
      exact settled scans (.refl scans) files
    rw [gathered]
    rfl

end Package

/-! ## Asking for anything else -/

namespace Query

/-- Whether a query keeps a property of what is remembered, be its end an answer or a failure. -/
def Keeps (query : Query α) (P : Scans → Prop) : Prop :=
  ∀ scans : Scans, P scans → P (query.run.run scans).2

variable {query : Query α} {P : Scans → Prop}

theorem keeps_pure (value : α) : Keeps (pure value) P := fun _ holds => holds

theorem keeps_throw (failure : Failure) : Keeps (throw failure : Query α) P :=
  fun _ holds => holds

theorem keeps_lift (answer : Except Failure α) : Keeps (liftM answer : Query α) P := by
  cases answer with
  | error failure => exact keeps_throw failure
  | ok value => exact keeps_pure value

theorem Keeps.bind {next : α → Query β} (first : query.Keeps P)
    (second : ∀ value, (next value).Keeps P) : (query >>= next).Keeps P := by
  intro scans holds
  have kept := first scans holds
  rw [Collecting.run_bind]
  cases outcome : query.run.run scans with
  | mk result later =>
    rw [outcome] at kept
    cases result with
    | ok value => exact second value later kept
    | error failure => exact kept

theorem keeps_rememberedOr {memory : Scans → Option α} {keep : α → Scans → Scans}
    (scanned : query.Keeps P) (remembers : ∀ value scans, P scans → P (keep value scans)) :
    (rememberedOr memory keep query).Keeps P := by
  intro scans holds
  have kept := scanned scans holds
  rw [run_rememberedOr]
  cases memory scans with
  | some value => exact holds
  | none =>
    cases outcome : query.run.run scans with
    | mk result later =>
      rw [outcome] at kept
      cases result with
      | ok value => exact remembers value later kept
      | error failure => exact kept

end Query

namespace Package

open Query

variable {files : FileSystem}

mutual

/-- Asking for packages leaves what is remembered of classes as it is. -/
theorem packages_keeps_classes (known : List (Package × List ClassRep)) :
    (package : Package) → (package.packages files).Keeps (·.classes = known)
  | directory built role file policy => by
    rw [packages, recallPackages_eq]
    exact keeps_rememberedOr (keeps_lift _) fun _ _ same => same
  | merged built view entries policy => by
    rw [packages, recallPackages_eq]
    refine keeps_rememberedOr ?_ fun _ _ same => same
    exact (packagesOfAll_keeps_classes known entries).bind fun _ => keeps_pure _
  | listed built listing inner => by
    rw [packages]
    exact keeps_pure _

theorem packagesOfAll_keeps_classes (known : List (Package × List ClassRep)) :
    (entries : List Package) → (packagesOfAll files entries).Keeps (·.classes = known)
  | [] => by
    rw [packagesOfAll]
    exact keeps_pure _
  | package :: rest => by
    rw [packagesOfAll]
    apply (packages_keeps_classes known package).bind
    intro here
    exact (packagesOfAll_keeps_classes known rest).bind fun _ => keeps_pure _

end

theorem packages_keeps (package : Package) : (package.packages files).Keeps Scans.Coherent := by
  intro scans coherent other reps lookedUp
  rw [packages_keeps_classes scans.classes package scans rfl] at lookedUp
  exact (coherent other reps lookedUp).keptIn ((packages_lasts package).grows files scans)

theorem classes_keeps (package : Package) : (package.classes files).Keeps Scans.Coherent :=
  fun scans => (classes_tells files package scans).2.2

theorem descend_keeps (package : Package) (names : List String) :
    (descend files package names).Keeps Scans.Coherent := by
  induction names generalizing package with
  | nil => exact keeps_pure _
  | cons first rest ih =>
    rw [descend]
    apply (packages_keeps package).bind
    intro packages
    cases packages.find? (·.name = first) with
    | none => exact keeps_pure _
    | some child => exact ih child

theorem findAlong_keeps (package : Package) (names : List String) :
    (findAlong files package names).Keeps Scans.Coherent := by
  induction names generalizing package with
  | nil => exact keeps_pure _
  | cons first rest ih =>
    by_cases last : rest = []
    · subst last
      exact (classes_keeps package).bind fun _ => keeps_pure _
    · rw [findAlong_cons files package first last]
      apply (packages_keeps package).bind
      intro packages
      cases packages.find? (·.name = first) with
      | none => exact keeps_pure _
      | some child =>
        cases stray : child.strayAnswer? with
        | some answer =>
          simp only [stray]
          exact keeps_throw _
        | none =>
          simp only [stray]
          exact ih child

/-- Whatever is asked, what is remembered stays coherent. -/
theorem ask_keeps (package : Package) (question : Question) :
    (package.ask files question).Keeps Scans.Coherent := by
  cases question with
  | classes => exact (classes_keeps package).bind fun _ => keeps_pure _
  | packages => exact (packages_keeps package).bind fun _ => keeps_pure _
  | sourcePaths => exact keeps_pure _
  | findClass name => exact (findAlong_keeps package _).bind fun _ => keeps_pure _
  | findSourceFile name =>
    rw [ask, findSourceFile]
    simp only [bind_assoc, pure_bind]
    exact (findAlong_keeps package _).bind fun _ => keeps_pure _
  | findPackage name => exact (descend_keeps package _).bind fun _ => keeps_pure _

end Package

namespace Moment

theorem coherent_step {moment : Moment} (coherent : moment.scans.Coherent) (action : Action) :
    (moment.step action).scans.Coherent := by
  cases action with
  | change edit => exact coherent
  | build plan => exact coherent
  | ask package question => exact package.ask_keeps question _ coherent

/-- What is remembered at the moments of a run is coherent. -/
theorem Possible.coherent {moment : Moment} (possible : moment.Possible) :
    moment.scans.Coherent :=
  possible.keeps Scans.coherent_empty coherent_step

theorem answer_classes (moment : Moment) (package : Package) (reps : List ClassRep) :
    moment.answer package .classes = .ok (.classes reps) ↔
      package.shown moment.files moment.scans = .ok reps := by
  rw [answer, Package.ask, Collecting.run_map,
    Package.classes_shown, Collecting.map_eq_ok]
  constructor
  · intro given
    obtain ⟨_, shown, ⟨⟩⟩ := given
    exact shown
  · intro shown
    exact ⟨reps, shown, rfl⟩

end Moment

end JvmClasspath
