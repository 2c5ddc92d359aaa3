import JvmClasspath.ClassRep
import JvmClasspath.Session

/-!
# Packages

A class path is a tree of packages: each holds classes and further packages. A package is described
by what it is made of; what it holds is found out when it is asked.

- A directory package shows one directory: the compiled classes in it, or the sources in it, and the
  directories that are packages.
- A merged package shows several packages as one. The whole class path is a merged package too; it
  has no name, and it knows which configured locations it had to leave out.
- A listed package has its content written down. It may be told to answer lookups with something
  that is no class, which its users must detect.

Every package descends from one that was built as a whole, and carries its number; each listed
package is built by itself. So packages built at different times are different even if they show the
same directory, and two descriptions are equal exactly if they are one package.
-/

namespace JvmClasspath

/-- Which files of a directory a package shows as classes. -/
inductive Role where
  | binaries
  | sources
deriving DecidableEq, Repr

/-- What a merged package stands for. -/
inductive View where
  | part
  | wholeClassPath (skipped : List Skip)
deriving DecidableEq, Repr

/-- The content of a listed package, its packages apart. -/
structure Listing where
  name : String
  classes : List ClassRep
  sourcePaths : List File
  strayAnswer : Option String
deriving DecidableEq

inductive Package where
  | directory (built : Nat) (role : Role) (file : File) (policy : Policy)
  | merged (built : Nat) (view : View) (entries : List Package) (policy : Policy)
  | listed (built : Nat) (listing : Listing) (packages : List Package)

namespace Package

/-- The class path without any entries. -/
instance : Inhabited Package := ⟨.merged 0 (.wholeClassPath []) [] .showAll⟩

mutual

def decEq : (p q : Package) → Decidable (p = q)
  | .directory b r f y, .directory b' r' f' y' =>
    decidable_of_iff (b = b' ∧ r = r' ∧ y = y' ∧ f = f') (by
      simp only [Package.directory.injEq]
      constructor <;> (rintro ⟨rfl, rfl, rfl, rfl⟩; simp))
  | .merged b v es y, .merged b' v' es' y' =>
    have := decEqAll es es'
    decidable_of_iff (b = b' ∧ v = v' ∧ y = y' ∧ es = es') (by
      simp only [Package.merged.injEq]
      constructor <;> (rintro ⟨rfl, rfl, rfl, rfl⟩; simp))
  | .listed b l ps, .listed b' l' ps' =>
    have := decEqAll ps ps'
    decidable_of_iff (b = b' ∧ l = l' ∧ ps = ps') (by simp)
  | .directory .., .merged .. => isFalse nofun
  | .directory .., .listed .. => isFalse nofun
  | .merged .., .directory .. => isFalse nofun
  | .merged .., .listed .. => isFalse nofun
  | .listed .., .directory .. => isFalse nofun
  | .listed .., .merged .. => isFalse nofun

def decEqAll : (ps qs : List Package) → Decidable (ps = qs)
  | [], [] => isTrue rfl
  | p :: ps, q :: qs =>
    have := decEq p q
    have := decEqAll ps qs
    decidable_of_iff (p = q ∧ ps = qs) (by simp)
  | [], _ :: _ => isFalse nofun
  | _ :: _, [] => isFalse nofun

end

/-- Packages that are one value in memory are not compared part by part. -/
instance : DecidableEq Package := fun p q => withPtrEqDecEq p q fun _ => decEq p q

/-- The simple name. A merged package is named as its first entry is. -/
def name : Package → String
  | directory _ _ file _ => file.name
  | merged _ (.wholeClassPath _) _ _ => ""
  | merged _ .part [] _ => ""
  | merged _ .part (first :: _) _ => first.name
  | listed _ listing _ => listing.name

/-- The policy that a package hands on to what is made from it. -/
def policy : Package → Policy
  | directory _ _ _ policy => policy
  | merged _ _ _ policy => policy
  | listed .. => .hideTraitImplementations

/-- The packages that are shown as one, if there are such. -/
def entries? : Package → Option (List Package)
  | merged _ _ entries _ => some entries
  | _ => none

def isMerged (package : Package) : Bool := package.entries?.isSome

/-- The locations that a whole class path had to leave out. -/
def skipped? : Package → Option (List Skip)
  | merged _ (.wholeClassPath skipped) _ _ => some skipped
  | _ => none

/-- What a listed package answers instead of a class. -/
def strayAnswer? : Package → Option String
  | listed _ listing _ => listing.strayAnswer
  | _ => none

mutual

/-- The directories of sources, in the order of the entries. -/
def sourcePaths : Package → List File
  | directory _ .binaries _ _ => []
  | directory _ .sources file _ => [file]
  | merged _ _ entries _ => sourcePathsOf entries
  | listed _ listing _ => listing.sourcePaths

def sourcePathsOf : List Package → List File
  | [] => []
  | package :: rest => package.sourcePaths ++ sourcePathsOf rest

end

mutual

/-- How a package is described to the reader. -/
def display : Package → String
  | directory _ .binaries file _ => "directory classpath: " ++ file.display
  | directory _ .sources file _ => "sourcepath: " ++ file.display
  | merged _ .part entries _ => "merged classpath (" ++ displayLines entries ++ ")"
  | merged _ (.wholeClassPath _) entries _ => "java classpath (" ++ displayLines entries ++ ")"
  | listed _ listing _ => "memory: " ++ listing.name

def displayLines : List Package → String
  | [] => ""
  | [package] => package.display
  | package :: next :: rest => package.display ++ "\n" ++ displayLines (next :: rest)

end

end Package

end JvmClasspath
