import JvmClasspath.Proofs.Lookup
import JvmClasspath.Proofs.Recalling

/-!
# Classes put together by name

By definition, the classes of a merged package are those of its entries, one after the other, with
the classes of one name put together: the name stays where it comes first, and stands for the first
compiled file and the first source file among its classes.

Merging goes through the classes once and completes what is there already, so a class may get its
compiled file, from which its name is read, only later. It meets the definition all the same, and
the definition leaves no choice. At every moment of a run a merged package answers with the list
that is so put together from the answers of its entries, whether any of them is remembered or not.
-/

namespace JvmClasspath

/-! ## The definition -/

namespace ClassRep

/-- Whether classes are put together by name from these: the names are theirs, each where it comes
first, and stand for the first compiled file and the first source file of that name. The first
class of a name is kept as it is exactly if no other of that name has a file that it lacks. -/
structure Merges (reps all : List ClassRep) : Prop where
  names : all.map (·.name) = (reps.map (·.name)).eraseDups
  binary : ∀ rep ∈ all,
    rep.binary = (reps.filter (·.name = rep.name)).findSome? (·.binary)
  source : ∀ rep ∈ all,
    rep.source = (reps.filter (·.name = rep.name)).findSome? (·.source)
  kept : ∀ rep ∈ all, ∀ first ∈ reps.find? (·.name = rep.name),
    rep = first ↔ ∀ other ∈ reps, other.name = rep.name → first.isFilledBy other = false

variable {reps all : List ClassRep}

/-- There is only one such list. -/
theorem Merges.unique {others : List ClassRep} (merges : Merges reps all)
    (merges' : Merges reps others) : all = others := by
  have injective : Function.Injective fun rep : ClassRep => (rep.binary, rep.source) := by
    intro a b same
    exact ClassRep.ext (congrArg Prod.fst same) (congrArg Prod.snd same)
  have by_name : ∀ {list : List ClassRep}, Merges reps list →
      list.map (fun rep => (rep.binary, rep.source)) =
        (reps.map (·.name)).eraseDups.map fun name =>
          ((reps.filter (·.name = name)).findSome? (·.binary),
            (reps.filter (·.name = name)).findSome? (·.source)) := by
    intro list merges
    rw [← merges.names, List.map_map]
    apply List.map_congr_left
    intro rep mem
    exact Prod.ext (merges.binary rep mem) (merges.source rep mem)
  exact injective.list_map ((by_name merges).trans (by_name merges').symm)

/-! ### The first class of a name -/

/-- The first file of a kind is that of the first class, unless it has none and another class has
one. -/
theorem findSome?_cons_eq_iff {side : ClassRep → Option File} {first : ClassRep}
    {rest : List ClassRep} : (first :: rest).findSome? side = side first ↔
      ∀ other ∈ rest, (side first).isNone = true → (side other).isSome = false := by
  rw [List.findSome?_cons]
  cases side first with
  | some file => simp
  | none => simp [List.findSome?_eq_none_iff]

theorem isFilledBy_eq_false_iff {first other : ClassRep} :
    first.isFilledBy other = false ↔
      (first.binary.isNone = true → other.binary.isSome = false) ∧
        (first.source.isNone = true → other.source.isSome = false) := by
  simp only [isFilledBy, Bool.or_eq_false_iff, Bool.and_eq_false_imp]

theorem isFilledBy_self (rep : ClassRep) : rep.isFilledBy rep = false := by
  rw [isFilledBy_eq_false_iff]
  simp

/-- What has the first files of several classes is the first class itself if nothing is filled
in. -/
theorem eq_first_iff {rep first : ClassRep} {rest : List ClassRep}
    (binary : rep.binary = (first :: rest).findSome? (·.binary))
    (source : rep.source = (first :: rest).findSome? (·.source)) :
    rep = first ↔ ∀ other ∈ rest, first.isFilledBy other = false := by
  have parts : rep = first ↔ rep.binary = first.binary ∧ rep.source = first.source := by
    constructor
    · intro same
      exact ⟨congrArg _ same, congrArg _ same⟩
    · intro same
      exact ClassRep.ext same.1 same.2
  rw [parts, binary, source, findSome?_cons_eq_iff, findSome?_cons_eq_iff, ← forall₂_and]
  simp only [isFilledBy_eq_false_iff]

/-! ### The merged list -/

/-- A merged class has the first file of each kind among the classes of its name. -/
theorem side_of_mem_mergeClasses {side : ClassRep → Option File}
    (side_complete : ∀ a b : ClassRep, side (a.complete b) = (side a).or (side b))
    {rep : ClassRep} (mem : rep ∈ Package.mergeClasses reps) :
    side rep = (reps.filter (·.name = rep.name)).findSome? side := by
  have found := Keyed.find?_of_mem (Package.nodup_mergeClasses reps) mem
  rw [Package.find?_mergeClasses] at found
  rw [← Package.joinAll_bind side_complete, found]
  rfl

/-- Merging puts classes together as defined. -/
theorem merges_mergeClasses (reps : List ClassRep) : Merges reps (Package.mergeClasses reps) where
  names := by
    rw [Package.mergeClasses_eq]
    exact Keyed.map_key_merge Package.classLaws (by simp)
  binary rep mem := side_of_mem_mergeClasses binary_complete mem
  source rep mem := side_of_mem_mergeClasses source_complete mem
  kept := by
    intro rep mem first found
    rw [← List.head?_filter] at found
    obtain ⟨rest, named⟩ := List.head?_eq_some_iff.1 found
    have binary := side_of_mem_mergeClasses binary_complete mem
    have source := side_of_mem_mergeClasses source_complete mem
    rw [named] at binary source
    have listed : ∀ other, other ∈ reps ∧ other.name = rep.name ↔ other ∈ first :: rest := by
      intro other
      rw [← named, List.mem_filter, decide_eq_true_iff]
    simp only [eq_first_iff binary source, ← and_imp, listed, List.forall_mem_cons,
      isFilledBy_self, true_and]

/-- By this definition there is one list, and it is the merged one. -/
theorem merges_iff : Merges reps all ↔ all = Package.mergeClasses reps := by
  constructor
  · intro merges
    exact merges.unique (merges_mergeClasses reps)
  · intro same
    subst same
    exact merges_mergeClasses reps

end ClassRep

namespace Moment

/-- At every moment of a run a merged package shows a list of classes exactly if each of its entries
does and the list is put together by name from theirs, one after the other. -/
theorem classes_merged {moment : Moment} (possible : moment.Possible) (built : Nat) (view : View)
    (entries : List Package) (policy : Policy) (all : List ClassRep) :
    moment.answer (.merged built view entries policy) .classes = .ok (.classes all) ↔
      ∃ lists, List.Forall₂ (fun entry list => moment.answer entry .classes = .ok (.classes list))
        entries lists ∧ ClassRep.Merges lists.flatten all := by
  simp only [answer_classes, Package.shown_merged possible.coherent, ClassRep.merges_iff,
    Collecting.map_eq_ok, Collecting.gather_eq_ok]
  constructor
  · intro given
    obtain ⟨_, ⟨lists, each, rfl⟩, rfl⟩ := given
    exact ⟨lists, each, rfl⟩
  · intro given
    obtain ⟨lists, each, rfl⟩ := given
    exact ⟨_, ⟨lists, each, rfl⟩, rfl⟩

/-- The source file of a class, in a directory of sources. -/
def sketchOf (simple : String) : File := .plain ⟨.here, ["s", simple ++ ".java"]⟩

/-- A package that has two classes written down, of which there are source files only. -/
def sketch : Package :=
  .listed 2 ⟨"sketch", [⟨none, some (sketchOf "X"), "X", rfl⟩,
    ⟨none, some (sketchOf "Y"), "Y", rfl⟩], [], none⟩ []

/-- This package, shown as one with a directory that holds one of the two classes compiled. -/
def sketched : Package :=
  .merged 3 .part [sketch, .directory 0 .binaries (.plain ⟨.here, ["c", "p"]⟩) .showAll, sketch]
    .showAll

/-- The moment at which this has been asked for once and the directory has been removed. -/
def afterwards : Moment := oneClass.after [.ask sketched .classes, .change (·.remove ["c"])]

/-- Of the two classes the first is completed and the second is kept as it is. -/
theorem classes_merged_sketched :
    ∃ lists, List.Forall₂
        (fun entry list => afterwards.answer entry .classes = .ok (.classes list))
        [sketch, .directory 0 .binaries (.plain ⟨.here, ["c", "p"]⟩) .showAll, sketch] lists ∧
      ClassRep.Merges lists.flatten
        [⟨some (.plain ⟨.here, ["c", "p", "X.class"]⟩), some (sketchOf "X"), "X", rfl⟩,
          ⟨none, some (sketchOf "Y"), "Y", rfl⟩] := by
  have possible : afterwards.Possible := (possible_start _ _).after _
  apply (classes_merged possible 3 .part _ .showAll _).1
  decide +kernel

end Moment

end JvmClasspath
