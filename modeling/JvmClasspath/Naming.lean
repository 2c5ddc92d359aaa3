import JvmClasspath.Failure

/-!
# Naming

Which files are classes, sources and packages is decided by their names alone, and so is the simple
name of a class: a compiled class `Foo` is `Foo.class`, its source `Foo.scala` or `Foo.java`.

One policy governs a whole class path. The only thing it decides is whether the synthetic classes
that implement traits, such as `Foo$class.class`, are left out.
-/

namespace JvmClasspath

/-- Which compiled classes a class path shows. -/
inductive Policy where
  | showAll
  | hideTraitImplementations
deriving DecidableEq, Repr

namespace Naming

def classEnding : String := ".class"

def traitImplementationEnding : String := "$class.class"

/-- The endings of source files. No name has both. -/
def sourceEndings : List String := [".scala", ".java"]

/-- The directory of an archive's own records, which is no package. -/
def recordsDirectory : String := "META-INF"

def isTraitImplementation (name : String) : Bool :=
  Text.endsWith traitImplementationEnding name

def isSourceFile (name : String) : Bool :=
  sourceEndings.any (Text.endsWith · name)

/-- Whether a directory of this name is a package. -/
def isPackage (name : String) : Bool :=
  name ≠ recordsDirectory && name ≠ "" && !Text.startsWith "." name

theorem isPackage_iff {name : String} :
    isPackage name = true ↔
      name ≠ "" ∧ name ≠ "META-INF" ∧ Text.startsWith "." name = false := by
  rw [isPackage, recordsDirectory, Bool.and_eq_true, Bool.and_eq_true, decide_eq_true_iff,
    decide_eq_true_iff, Bool.not_eq_true', and_assoc, and_left_comm]

/-- The class that a compiled file of this name holds. -/
def classOfBinary (name : String) : Except Failure String :=
  if Text.endsWith classEnding name then .ok (Text.withoutEnding classEnding name)
  else .error (.notAClassFile name)

theorem eq_of_classOfBinary {file name : String} (named : classOfBinary file = .ok name) :
    file = name ++ classEnding := by
  rw [classOfBinary] at named
  split at named
  · next ends =>
    cases named
    exact (Text.withoutEnding_append ends).symm
  · cases named

/-- The class that a source file of this name is taken for. -/
def classOfSource (name : String) : Except Failure String :=
  match sourceEndings.find? (Text.endsWith · name) with
  | some ending => .ok (Text.withoutEnding ending name)
  | none => .error (.notASourceFile name)

theorem eq_of_classOfSource {file name : String} (named : classOfSource file = .ok name) :
    ∃ ending ∈ sourceEndings, file = name ++ ending := by
  rw [classOfSource] at named
  split at named
  · next ending found =>
    cases named
    have ends := List.find?_some found
    exact ⟨ending, List.mem_of_find?_eq_some found, (Text.withoutEnding_append ends).symm⟩
  · cases named

end Naming

namespace Policy

/-- Whether a policy shows files of this name. -/
def admits (policy : Policy) (name : String) : Bool :=
  match policy with
  | showAll => true
  | hideTraitImplementations => !Naming.isTraitImplementation name

/-- Whether a file of this name is a class under a policy. -/
def isClassFile (policy : Policy) (name : String) : Bool :=
  Text.endsWith Naming.classEnding name && policy.admits name

end Policy

end JvmClasspath
