import JvmClasspath.Proofs.Unpacking

/-!
# What is answered at any moment

A run starts with nothing remembered and goes on with changes to the files, with packages that are
built and with packages that are asked, in any order. All that is remembered at its moments is
sound, so packages answer with what they may hold.

Main statement: no answer of a built package fails because of the packages themselves. No class is
without a name, completing a class by another gives a class again, and where a class is looked up
nothing else is met. A question is refused where the system refuses to look up a path, and for
nothing else.
-/

namespace JvmClasspath

variable {α : Type}

/-! ## Lookups -/

namespace Package

open Query

/-- Whether a package may lead to a class. -/
def MayFind (package : Package) (rep : ClassRep) : Prop :=
  ∃ holder reps, package.MayReach holder ∧ holder.MayShow reps ∧ rep ∈ reps

/-- What one package is asked first for names that lead on is its packages. -/
theorem findAlong_cons (files : FileSystem) (package : Package) (first : String)
    {rest : List String} (named : rest ≠ []) :
    findAlong files package (first :: rest) = (do
      match (← package.packages files).find? (·.name = first) with
      | none => return none
      | some child =>
        match child.strayAnswer? with
        | some answer => throw (.strayAnswer answer (Text.join '.' (first :: rest)))
        | none => findAlong files child rest) := by
  cases rest with
  | nil => exact absurd rfl named
  | cons second rest => rfl

theorem Inner.strayAnswer?_eq_none {package : Package} (inner : package.Inner) :
    package.strayAnswer? = none := by
  cases inner <;> rfl

/-- A query that fails for refused paths alone may be part of one that has more to fail for. -/
theorem gives_of_isRefusal {query : Query α} {good : α → Prop} (package : Package)
    (gives : query.Gives good Failure.IsRefusal) :
    query.Gives good fun failure => package.Built → failure.IsRefusal :=
  gives.imp (fun _ fits => fits) fun _ refusal _ => refusal

/-- A lookup finds what the package may lead to. Below a built package it meets nothing that is no
class. -/
theorem findAlong_gives (files : FileSystem) (package : Package) (names : List String) :
    (findAlong files package names).Gives (fun found => ∀ rep ∈ found, package.MayFind rep)
      (fun failure => package.Built → failure.IsRefusal) := by
  induction names generalizing package with
  | nil =>
    rw [findAlong]
    exact gives_pure (by simp)
  | cons first rest ih =>
    cases rest with
    | nil =>
      rw [findAlong]
      apply (gives_of_isRefusal package (classes_gives files package)).bind
      intro reps shown
      apply gives_pure
      intro rep found
      exact ⟨package, reps, .top, shown, List.mem_of_find?_eq_some found⟩
    | cons second rest =>
      rw [findAlong_cons files package first (List.cons_ne_nil second rest)]
      apply (gives_of_isRefusal package (packages_gives files package)).bind
      intro packages held
      cases found : packages.find? (·.name = first) with
      | none => exact gives_pure (by simp)
      | some child =>
        have mem := List.mem_of_find?_eq_some found
        cases stray : child.strayAnswer? with
        | some answer =>
          simp only [stray]
          apply gives_throw
          intro built
          have inner := ((built.mayHold held).1 child mem).1
          rw [inner.strayAnswer?_eq_none] at stray
          cases stray
        | none =>
          simp only [stray]
          apply (ih child).imp
          · intro found all rep given
            rcases all rep given with ⟨holder, reps, reached, shown, listed⟩
            exact ⟨holder, reps, reached.of_inside held mem, shown, listed⟩
          · intro failure refusal built
            exact refusal ((built.mayHold held).1 child mem).1.isBuilt

/-! ## Questions -/

/-- Whether a package may give this answer. -/
def MayAnswer (package : Package) : Answer → Prop
  | .classes reps => package.MayShow reps
  | .packages packages => package.MayHold packages
  | .sourcePaths paths => paths = package.sourcePaths
  | .foundClass found => ∀ rep ∈ found, package.MayFind rep
  | .foundSourceFile found => ∀ file ∈ found, ∃ rep, package.MayFind rep ∧ rep.source = some file
  | .foundPackage found => ∀ node ∈ found, package.MayReach node

theorem ask_gives (files : FileSystem) (package : Package) (question : Question) :
    (package.ask files question).Gives package.MayAnswer
      (fun failure => package.Built → failure.IsRefusal) := by
  have found : ∀ name, (package.findClass files name).Gives
      (fun found => ∀ rep ∈ found, package.MayFind rep)
      (fun failure => package.Built → failure.IsRefusal) :=
    fun name => findAlong_gives files package _
  cases question with
  | classes =>
    apply (gives_of_isRefusal package (classes_gives files package)).bind
    exact fun reps shown => gives_pure shown
  | packages =>
    apply (gives_of_isRefusal package (packages_gives files package)).bind
    exact fun packages held => gives_pure held
  | sourcePaths => exact gives_pure rfl
  | findClass name =>
    apply (found name).bind
    exact fun rep all => gives_pure all
  | findSourceFile name =>
    rw [ask, findSourceFile]
    simp only [bind_assoc, pure_bind]
    apply (found name).bind
    intro rep all
    apply gives_pure
    intro file given
    rcases Option.bind_eq_some_iff.1 given with ⟨rep, found, source⟩
    exact ⟨rep, all rep found, source⟩
  | findPackage name =>
    apply (gives_of_isRefusal package (descend_gives files package _)).bind
    exact fun node all => gives_pure all

end Package

/-! ## Moments -/

namespace Moment

/-- Whether a run, which starts with nothing remembered, can come to this moment. -/
def Possible (moment : Moment) : Prop :=
  ∃ (files : FileSystem) (session : Session) (actions : List Action),
    moment = after ⟨files, session, .empty⟩ actions

theorem possible_start (files : FileSystem) (session : Session) :
    Possible ⟨files, session, .empty⟩ := ⟨files, session, [], rfl⟩

theorem Possible.after {moment : Moment} (possible : moment.Possible) (actions : List Action) :
    (moment.after actions).Possible := by
  rcases possible with ⟨files, session, before, rfl⟩
  exact ⟨files, session, before ++ actions, (after_append _ before actions).symm⟩

/-- What nothing remembered has, and every action keeps, has all that is remembered at the moments
of a run. -/
theorem Possible.keeps {P : Scans → Prop} (start : P .empty)
    (step : ∀ {moment : Moment}, P moment.scans → ∀ action, P (moment.step action).scans)
    {moment : Moment} (possible : moment.Possible) : P moment.scans := by
  have kept : ∀ (actions : List Action) (moment : Moment), P moment.scans →
      P (moment.after actions).scans := by
    intro actions
    induction actions with
    | nil => exact fun moment holds => holds
    | cons action rest ih => exact fun moment holds => ih (moment.step action) (step holds action)
  rcases possible with ⟨files, session, actions, rfl⟩
  exact kept actions _ start

theorem sound_step {moment : Moment} (sound : moment.scans.Sound) (action : Action) :
    (moment.step action).scans.Sound := by
  cases action with
  | change edit => exact sound
  | build plan => exact sound
  | ask package question => exact (package.ask_gives _ question).keeps sound

/-- What is remembered at the moments of a run is sound. -/
theorem Possible.sound {moment : Moment} (possible : moment.Possible) : moment.scans.Sound :=
  possible.keeps Scans.sound_empty sound_step

/-- A package answers with what it may hold. -/
theorem Possible.mayAnswer {moment : Moment} (possible : moment.Possible) {package : Package}
    {question : Question} {answer : Answer}
    (answered : moment.answer package question = .ok answer) : package.MayAnswer answer :=
  (package.ask_gives _ question).good possible.sound answered

end Moment

/-! ## No failure comes from the packages -/

/-- Whether a failure tells of packages that contradict themselves: of a class without a file, of a
file whose name no class can have, or of something that is no class where one is looked up. -/
def Failure.IsInconsistency : Failure → Prop
  | .noReference => True
  | .notAClassFile _ => True
  | .notASourceFile _ => True
  | .strayAnswer .. => True
  | _ => False

theorem Failure.IsRefusal.not_isInconsistency {failure : Failure}
    (refusal : failure.IsRefusal) : ¬failure.IsInconsistency := by
  rcases refusal with ⟨cause, path, rfl, -⟩
  exact id

/-- The files of two classes, put together, are those of the completed class. -/
theorem ClassRep.ofFiles_complete (a b : ClassRep) :
    ofFiles (a.binary.or b.binary) (a.source.or b.source) = .ok (a.complete b) :=
  ofFiles_eq_ok_of_nameOf (nameOf_orElse a b)

namespace Moment

/-- At no moment of a run does a built package fail a question with an inconsistency: where it
fails, the system refuses to look up a path. Nor does completing one class by another ever fail. -/
theorem consistent {moment : Moment} (possible : moment.Possible) {package : Package}
    (built : package.Built) (question : Question) :
    (∀ failure, moment.answer package question = .error failure →
      ¬failure.IsInconsistency ∧ failure.IsRefusal) ∧
    ∀ a b : ClassRep,
      ClassRep.ofFiles (a.binary.or b.binary) (a.source.or b.source) = .ok (a.complete b) := by
  refine ⟨?_, ClassRep.ofFiles_complete⟩
  intro failure failed
  have refusal := (package.ask_gives moment.files question).fair possible.sound failed built
  exact ⟨refusal.not_isInconsistency, refusal⟩

/-- The start of a run over a directory with one compiled class. -/
def detoured : Moment := ⟨single, .start, .empty⟩

/-- The package over this directory, whose path is spelled with so many detours. -/
def roundabout (rounds : Nat) : Package :=
  .directory 0 .binaries (.plain (detour rounds)) .showAll

theorem built_roundabout (rounds : Nat) : (roundabout rounds).Built := .directory _ _ _ (.plain _)

/-- Where the spelling leaves no room for another name, no lookup that needs a list is answered. -/
theorem answer_roundabout {rounds : Nat} (short : 5 * rounds + 2 < FileSystem.pathLimit)
    (long : FileSystem.pathLimit ≤ 5 * rounds + 10) :
    detoured.answer (roundabout rounds) (.findClass ".X") =
      .error (.system .nameTooLong (behind rounds).toString) := by
  have refused : (roundabout rounds).classAt single (Text.split '.' ".X") =
      .error (.system .nameTooLong (behind rounds).toString) := by
    have cut : Text.split '.' ".X" = ["", "X"] := by decide +kernel
    rw [cut, Package.classAt, roundabout, scanPackages_detour short long]
    rfl
  have asked := (Package.findClass_answers_iff.2 refused).bind
    fun found _ => Query.answers_pure (Answer.foundClass found)
  exact (asked .empty (Scans.agree_empty single)).1

/-- Asked for a class there, it refuses the path of the class file and nothing else. -/
theorem consistent_roundabout :
    detoured.Possible ∧ (roundabout 818).Built ∧
      detoured.answer (roundabout 818) (.findClass ".X") =
        .error (.system .nameTooLong (behind 818).toString) ∧
      ¬(Failure.system .nameTooLong (behind 818).toString).IsInconsistency := by
  have possible : detoured.Possible := possible_start _ _
  have refused : detoured.answer (roundabout 818) (.findClass ".X") =
      .error (.system .nameTooLong (behind 818).toString) :=
    answer_roundabout (by decide) (by decide)
  exact ⟨possible, built_roundabout 818, refused,
    ((consistent possible (built_roundabout 818) _).1 _ refused).1⟩

end Moment

end JvmClasspath
