import JvmClasspath.Package.Merge

/-!
# Asking packages

What a package holds is found out by looking at its files, once: the first answer is remembered for
each package and given again later, whatever has become of the files. A scan that fails is not
remembered, but what it has found out about other packages is.

Dotted names are looked up package by package, the first package of a name and no other.
-/

namespace JvmClasspath

/-- What has been found out so far: the classes and the packages of the packages that were asked,
each newest first. -/
structure Scans where
  classes : List (Package × List ClassRep)
  packages : List (Package × List Package)

namespace Scans

def empty : Scans := ⟨[], []⟩

end Scans

/-- A computation that asks packages, and may fail. -/
abbrev Query := ExceptT Failure (StateM Scans)

namespace Package

/-! ## One directory -/

/-- Whether a package shows files of this name as classes. -/
def shows (role : Role) (policy : Policy) (name : String) : Bool :=
  match role with
  | .binaries => policy.isClassFile name
  | .sources => Naming.isSourceFile name

/-- The class that a file is shown as. -/
def represent (role : Role) (file : File) : Except Failure ClassRep :=
  match role with
  | .binaries => ClassRep.ofFiles (some file) none
  | .sources => ClassRep.ofFiles none (some file)

/-- The classes in a directory. -/
def classesIn (files : FileSystem) (role : Role) (file : File) (policy : Policy) :
    Except Failure (List ClassRep) := do
  let shown ← (← file.children files).filterM fun child => do
    return !(← child.isDirectory files) && shows role policy child.name
  shown.mapM (represent role)

/-- The packages in a directory. -/
def packagesIn (files : FileSystem) (built : Nat) (role : Role) (file : File) (policy : Policy) :
    Except Failure (List Package) := do
  let shown ← (← file.children files).filterM fun child => do
    return (← child.isDirectory files) && Naming.isPackage child.name
  return shown.map fun child => directory built role child policy

/-! ## Any package -/

/-- The remembered classes of a package, or those that a scan finds now. -/
def recallClasses (package : Package) (scan : Query (List ClassRep)) : Query (List ClassRep) := do
  match (← get).classes.lookup package with
  | some classes => return classes
  | none =>
    let classes ← scan
    modify fun scans => { scans with classes := (package, classes) :: scans.classes }
    return classes

/-- The remembered packages of a package, or those that a scan finds now. -/
def recallPackages (package : Package) (scan : Query (List Package)) : Query (List Package) := do
  match (← get).packages.lookup package with
  | some packages => return packages
  | none =>
    let packages ← scan
    modify fun scans => { scans with packages := (package, packages) :: scans.packages }
    return packages

mutual

/-- The classes that a package holds directly. -/
def classes (files : FileSystem) : Package → Query (List ClassRep)
  | directory built role file policy =>
    recallClasses (directory built role file policy) (classesIn files role file policy)
  | merged built view entries policy =>
    recallClasses (merged built view entries policy) do
      return mergeClasses (← classesOfAll files entries)
  | listed _ listing _ => return listing.classes

/-- The classes of several packages, one after the other. -/
def classesOfAll (files : FileSystem) : List Package → Query (List ClassRep)
  | [] => return []
  | package :: rest => do
    let here ← package.classes files
    return here ++ (← classesOfAll files rest)

end

mutual

/-- The packages that a package holds directly. -/
def packages (files : FileSystem) : Package → Query (List Package)
  | directory built role file policy =>
    recallPackages (directory built role file policy) (packagesIn files built role file policy)
  | merged built view entries policy =>
    recallPackages (merged built view entries policy) do
      return mergePackages built policy (← packagesOfAll files entries)
  | listed _ _ packages => return packages

/-- The packages of several packages, one after the other. -/
def packagesOfAll (files : FileSystem) : List Package → Query (List Package)
  | [] => return []
  | package :: rest => do
    let here ← package.packages files
    return here ++ (← packagesOfAll files rest)

end

/-! ## Lookup -/

/-- Finds a class by the names that lead to it, its own name last. -/
def findAlong (files : FileSystem) : Package → List String → Query (Option ClassRep)
  | _, [] => return none
  | package, [simple] => return (← package.classes files).find? (·.name = simple)
  | package, first :: second :: rest => do
    match (← package.packages files).find? (·.name = first) with
    | none => return none
    | some child =>
      match child.strayAnswer? with
      | some answer => throw (.strayAnswer answer (Text.join '.' (first :: second :: rest)))
      | none => findAlong files child (second :: rest)

/-- Finds a class by its dotted name. -/
def findClass (files : FileSystem) (package : Package) (name : String) : Query (Option ClassRep) :=
  findAlong files package (Text.split '.' name)

/-- Finds the source file of a class. -/
def findSourceFile (files : FileSystem) (package : Package) (name : String) : Query (Option File) :=
  return (← package.findClass files name).bind (·.source)

/-- Follows package names. -/
def descend (files : FileSystem) : Package → List String → Query (Option Package)
  | package, [] => return some package
  | package, first :: rest => do
    match (← package.packages files).find? (·.name = first) with
    | none => return none
    | some child => descend files child rest

/-- Finds a package by its dotted name. Empty names on the way are passed over, so the empty text
leads to the package itself. -/
def findPackage (files : FileSystem) (package : Package) (name : String) : Query (Option Package) :=
  descend files package ((Text.split '.' name).filter (· ≠ ""))

end Package

end JvmClasspath
