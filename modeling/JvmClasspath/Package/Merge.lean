import JvmClasspath.Package

/-!
# Merging

Several packages become one by taking their classes, and their packages, one after the other. The
first class of a name keeps its position and its files, and later ones only complete it. Packages of
one name become a merged package over them. It has no merged packages of its own making inside: one
more package joins the entries that are there.
-/

namespace JvmClasspath.Package

/-- The classes after one more, which completes the class of its name or comes last. -/
def addClass (rep : ClassRep) : List ClassRep → List ClassRep
  | [] => [rep]
  | first :: rest =>
    if first.name = rep.name then first.complete rep :: rest else first :: addClass rep rest

/-- The classes of several packages, taken one after the other, as the classes of one. -/
def mergeClasses (reps : List ClassRep) : List ClassRep :=
  reps.foldl (fun merged rep => addClass rep merged) []

/-- The packages that a package contributes where it is merged with another. -/
def parts (package : Package) : List Package := package.entries?.getD [package]

/-- The packages after one more, which joins the package of its name or comes last. What is merged
descends from the package that was built as number `built`. -/
def addPackage (built : Nat) (policy : Policy) (package : Package) : List Package → List Package
  | [] => [package]
  | first :: rest =>
    if first.name = package.name then merged built .part (first.parts ++ [package]) policy :: rest
    else first :: addPackage built policy package rest

/-- The packages of several packages, taken one after the other, as the packages of one. -/
def mergePackages (built : Nat) (policy : Policy) (packages : List Package) : List Package :=
  packages.foldl (fun merged package => addPackage built policy package merged) []

end JvmClasspath.Package
