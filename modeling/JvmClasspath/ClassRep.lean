import JvmClasspath.File
import JvmClasspath.Naming

/-!
# Class representations

A class on a class path is a compiled file, a source file, or both. Its simple name comes from the
compiled file when there is one, else from the source file, so it can be had only if one of the two
is there and is named as a class is.

Two representations of one class complete each other: what the first lacks is taken from the second,
and what it has is kept. Since both are named, the completed one is too.
-/

namespace JvmClasspath

namespace ClassRep

/-- The simple name of a class with these files. -/
def nameOf (binary source : Option File) : Except Failure String :=
  match binary, source with
  | some file, _ => Naming.classOfBinary file.name
  | none, some file => Naming.classOfSource file.name
  | none, none => .error .noReference

end ClassRep

structure ClassRep where
  binary : Option File
  source : Option File
  name : String
  named : ClassRep.nameOf binary source = .ok name

namespace ClassRep

/-- The class with these files. -/
def ofFiles (binary source : Option File) : Except Failure ClassRep :=
  match named : nameOf binary source with
  | .ok name => .ok ⟨binary, source, name, named⟩
  | .error failure => .error failure

/-- Two classes are the same if their files are. -/
@[ext] theorem ext {a b : ClassRep} (binary : a.binary = b.binary) (source : a.source = b.source) :
    a = b := by
  obtain ⟨binaryA, sourceA, nameA, namedA⟩ := a
  obtain ⟨binaryB, sourceB, nameB, namedB⟩ := b
  obtain rfl : binaryA = binaryB := binary
  obtain rfl : sourceA = sourceB := source
  obtain rfl : nameA = nameB := by simpa [namedA] using namedB
  rfl

instance : DecidableEq ClassRep := fun a b =>
  decidable_of_iff (a.binary = b.binary ∧ a.source = b.source)
    ⟨fun ⟨binary, source⟩ => ext binary source, fun same => by simp [same]⟩

/-- The files of two classes, those of the first before those of the second, name a class. -/
theorem nameOf_orElse (a b : ClassRep) :
    nameOf (a.binary.or b.binary) (a.source.or b.source) =
      .ok (if a.binary.isNone ∧ b.binary.isSome then b.name else a.name) := by
  obtain ⟨binaryA, sourceA, nameA, namedA⟩ := a
  obtain ⟨binaryB, sourceB, nameB, namedB⟩ := b
  cases binaryA with
  | some file => simpa [nameOf] using namedA
  | none =>
    cases binaryB with
    | some file => simpa [nameOf] using namedB
    | none =>
      cases sourceA with
      | some file => simpa [nameOf] using namedA
      | none => simp [nameOf] at namedA

/-- A class with the files it has, and those it lacks taken from another one. -/
def complete (a b : ClassRep) : ClassRep where
  binary := a.binary.or b.binary
  source := a.source.or b.source
  name := if a.binary.isNone ∧ b.binary.isSome then b.name else a.name
  named := nameOf_orElse a b

@[simp] theorem binary_complete (a b : ClassRep) :
    (a.complete b).binary = a.binary.or b.binary := rfl

@[simp] theorem source_complete (a b : ClassRep) :
    (a.complete b).source = a.source.or b.source := rfl

/-- Whether another class has a file that this one lacks. -/
def isFilledBy (a b : ClassRep) : Bool :=
  (a.binary.isNone && b.binary.isSome) || (a.source.isNone && b.source.isSome)

theorem or_eq_left_iff {α : Type} (x y : Option α) :
    x.or y = x ↔ (x.isNone && y.isSome) = false := by
  cases x <;> cases y <;> simp

/-- Completing changes a class exactly if there is a file to fill in. -/
theorem complete_eq_self_iff (a b : ClassRep) : a.complete b = a ↔ a.isFilledBy b = false := by
  simp only [isFilledBy, Bool.or_eq_false_iff, ← or_eq_left_iff]
  exact ⟨fun same => ⟨congrArg binary same, congrArg source same⟩,
    fun ⟨sameBinary, sameSource⟩ => ClassRep.ext sameBinary sameSource⟩

end ClassRep

end JvmClasspath
