import JvmClasspath.Proofs.Merging
import Mathlib.Data.List.ReduceOption

/-!
# Asking several packages

The entries of a merged package are asked one after the other; some have an answer, some have none,
and the answers are kept in order. Asking for what lies below a name is asking the packages of that
name, of which each entry holds one or none.
-/

namespace JvmClasspath.Package

variable {files : FileSystem} {α : Type} {ask below : Package → Except Failure (Option α)}

/-- Whether asking several packages finds these values in this order. None of them may fail. -/
def Together (ask : Package → Except Failure (Option α)) (entries : List Package)
    (found : List α) : Prop :=
  ∃ answers, List.Forall₂ (fun entry answer => ask entry = .ok answer) entries answers ∧
    answers.reduceOption = found

@[simp] theorem together_nil {found : List α} : Together ask [] found ↔ found = [] := by
  constructor
  · intro given
    rcases given with ⟨_, ⟨⟩, rfl⟩
    rfl
  · intro same
    subst same
    exact ⟨[], .nil, rfl⟩

theorem together_cons {entry : Package} {rest : List Package} {found : List α} :
    Together ask (entry :: rest) found ↔
      ∃ here others, ask entry = .ok here ∧ Together ask rest others ∧
        found = here.toList ++ others := by
  have reduced : ∀ (here : Option α) (answers : List (Option α)),
      (here :: answers).reduceOption = here.toList ++ answers.reduceOption := by
    intro here answers
    cases here <;> simp
  constructor
  · intro given
    rcases given with ⟨_, here | ⟨here, below⟩, rfl⟩
    exact ⟨_, _, here, ⟨_, below, rfl⟩, reduced _ _⟩
  · intro given
    rcases given with ⟨here, _, answered, ⟨answers, each, rfl⟩, rfl⟩
    exact ⟨here :: answers, .cons answered each, reduced here answers⟩

theorem together_singleton {entry : Package} {found : List α} :
    Together ask [entry] found ↔ ∃ here, ask entry = .ok here ∧ found = here.toList := by
  simp [together_cons]

theorem together_append {entries others : List Package} {found : List α} :
    Together ask (entries ++ others) found ↔
      ∃ here there, Together ask entries here ∧ Together ask others there ∧
        found = here ++ there := by
  induction entries generalizing found with
  | nil => simp
  | cons entry rest ih =>
    rw [List.cons_append, together_cons]
    simp only [ih, together_cons]
    constructor
    · intro given
      rcases given with ⟨first, _, answered, ⟨here, there, inRest, inOthers, rfl⟩, rfl⟩
      exact ⟨_, there, ⟨first, here, answered, inRest, rfl⟩, inOthers,
        (List.append_assoc ..).symm⟩
    · intro given
      rcases given with ⟨_, there, ⟨first, here, answered, inRest, rfl⟩, inOthers, rfl⟩
      exact ⟨first, _, answered, ⟨here, there, inRest, inOthers, rfl⟩, List.append_assoc ..⟩

/-- Several packages can be asked together exactly if none fails. -/
theorem exists_together_iff {entries : List Package} :
    (∃ found, Together ask entries found) ↔
      ∀ entry ∈ entries, ∃ answer, ask entry = .ok answer := by
  rw [← Collecting.exists_answers_iff]
  constructor
  · intro given
    rcases given with ⟨_, answers, asked, -⟩
    exact ⟨answers, asked⟩
  · intro given
    rcases given with ⟨answers, asked⟩
    exact ⟨_, answers, asked, rfl⟩

/-- What answers by asking several packages together fails exactly if one of them does. -/
theorem fails_iff_of_together {β : Type} {answer : Except Failure β} {entries : List Package}
    {combine : List α → β}
    (together : ∀ value, answer = .ok value ↔
      ∃ found, Together ask entries found ∧ combine found = value) :
    (∃ failure, answer = .error failure) ↔
      ∃ entry ∈ entries, ∃ failure, ask entry = .error failure := by
  have answered : (∃ value, answer = .ok value) ↔
      ∀ entry ∈ entries, ∃ value, ask entry = .ok value := by
    rw [← exists_together_iff]
    simp only [together]
    constructor
    · intro given
      rcases given with ⟨_, found, asked, -⟩
      exact ⟨found, asked⟩
    · intro given
      rcases given with ⟨found, asked⟩
      exact ⟨_, found, asked, rfl⟩
  rw [← not_iff_not]
  push Not
  simpa only [Collecting.forall_ne_error] using answered

/-! ## Following a name -/

/-- What asking finds in the package that was followed, which may not be there. -/
def FoundIn (ask : Package → Except Failure (Option α)) (child : Option Package)
    (found : Option α) : Prop :=
  match child with
  | none => found = none
  | some child => ask child = .ok found

/-- Whether asking a built package is asking, by `below`, the first package of this name in it. -/
def Follows (files : FileSystem) (first : String)
    (ask below : Package → Except Failure (Option α)) : Prop :=
  ∀ package : Package, package.Built → ∀ found,
    ask package = .ok found ↔
      ∃ packages, package.scanPackages files = .ok packages ∧
        FoundIn below (packages.find? (·.name = first)) found

/-- Following names down follows the first of them first. -/
theorem follows_packageAt (first : String) (rest : List String) :
    Follows files first (packageAt files · (first :: rest)) (packageAt files · rest) := by
  intro package _ found
  simp only [packageAt, Collecting.bind_eq_ok]
  apply exists_congr
  intro packages
  apply and_congr_right
  intro _
  cases packages.find? (·.name = first) with
  | none => exact ⟨fun same => (Except.ok.inj same).symm, fun same => congrArg Except.ok same.symm⟩
  | some child => rfl

theorem together_toList {child : Option Package} {found : List α} :
    Together below child.toList found ↔ ∃ here, FoundIn below child here ∧ found = here.toList := by
  cases child with
  | none => simp [FoundIn]
  | some child => exact together_singleton

theorem scanPackages_merged (built : Nat) (view : View) (entries : List Package) (policy : Policy)
    {packages : List Package} :
    (merged built view entries policy).scanPackages files = .ok packages ↔
      ∃ all, scanPackagesOfAll files entries = .ok all ∧
        packages = mergePackages built policy all := by
  rw [scanPackages, Collecting.bind_eq_ok]
  simp only [pure, Except.pure, Except.ok.injEq, eq_comm]

/-- Asking several packages by following a name is asking all packages of that name in them. -/
theorem Follows.together {first : String} (follows : Follows files first ask below)
    {entries : List Package} (built : ∀ entry ∈ entries, entry.Built) {found : List α} :
    Together ask entries found ↔
      ∃ packages, scanPackagesOfAll files entries = .ok packages ∧
        Together below (packages.filter (·.name = first)) found := by
  induction entries generalizing found with
  | nil =>
    rw [scanPackagesOfAll, together_nil]
    constructor
    · intro same
      subst same
      exact ⟨[], rfl, together_nil.2 rfl⟩
    · intro given
      rcases given with ⟨_, ⟨⟩, here⟩
      exact together_nil.1 here
  | cons entry rest ih =>
    have first_built := built entry List.mem_cons_self
    have below_iff : ∀ found, Together ask rest found ↔ _ :=
      fun found => ih fun e mem => built e (List.mem_cons_of_mem entry mem)
    rw [together_cons]
    simp only [scanPackagesOfAll, Collecting.bind_eq_ok, below_iff, follows entry first_built]
    -- Of one package's packages at most one has the name, so following it asks all of these.
    have single : ∀ {here : List Package}, entry.scanPackages files = .ok here → ∀ found,
        Together below (here.filter (·.name = first)) found ↔
          ∃ answer, FoundIn below (here.find? (·.name = first)) answer ∧
            found = answer.toList := by
      intro here scanned found
      rw [Keyed.filter_eq_toList_find? (first_built.scanPackages scanned).2, together_toList]
    constructor
    · intro given
      rcases given with ⟨answer, others, ⟨here, scanned, inHere⟩, ⟨there, scannedRest, inRest⟩, rfl⟩
      refine ⟨_, ⟨here, scanned, there, scannedRest, rfl⟩, ?_⟩
      rw [List.filter_append, together_append]
      exact ⟨_, others, (single scanned _).2 ⟨answer, inHere, rfl⟩, inRest, rfl⟩
    · intro given
      rcases given with ⟨_, ⟨here, scanned, there, scannedRest, ⟨⟩⟩, asked⟩
      rw [List.filter_append, together_append] at asked
      rcases asked with ⟨_, others, inHere, inRest, rfl⟩
      rcases (single scanned _).1 inHere with ⟨answer, inChild, rfl⟩
      exact ⟨answer, others, ⟨here, scanned, inChild⟩, ⟨there, scannedRest, inRest⟩, rfl⟩

end JvmClasspath.Package
