import JvmClasspath.FileSystem
import JvmClasspath.Glob

/-!
# Expansion

A class path string names locations, one after the other with a colon between them. A location with
a star stands for the jars that it designates:

    *            every jar in the base directory
    lib/*        every jar in lib
    lib/scala-*  every jar in lib whose name fits the pattern

The directory is listed relative to the base directory, and the jars are spelled as the location
spells the directory. A location without a star is kept as it is and is not looked at; a directory
that cannot be listed expands to nothing.
-/

namespace JvmClasspath.Expansion

def jarEnding : String := ".jar"

def isJar (name : String) : Bool := Text.endsWithAnyCase jarEnding name

/-- The locations of a class path string. -/
def locations (path : String) : List String := Text.split ':' path

/-- A name in a directory, the directory spelled as the caller does. -/
def spelledIn (directory name : String) : String :=
  if Text.endsWith "/" directory then directory ++ name else directory ++ "/" ++ name

/-- The files in a directory that are jars and whose names pass a test, ascending by name. -/
def jarsIn (files : FileSystem) (base : Option Path) (directory : String) (test : String → Bool) :
    Except Failure (List String) := do
  let listed := (Path.ofString directory).within base
  match files.list listed with
  | .error (.system ..) => return []
  | .error failure => throw failure
  | .ok names =>
    let jars ← names.filterM fun name => do
      return (← files.isFile (listed.child name)) && test name && isJar name
    return jars.map (spelledIn directory)

/-- The directory and the last component of a location. Without a slash the directory is the base
directory; a slash at the front alone is the root. -/
def cutLocation (location : String) : String × String :=
  match Text.cutLast? '/' location.toList with
  | some (before, after) =>
    (if before.isEmpty then "/" else String.ofList before, String.ofList after)
  | none => (".", location)

/-- The locations that one location of a class path stands for. -/
def expand (files : FileSystem) (base : Option Path) (location : String) :
    Except Failure (List String) :=
  if '*' ∈ location.toList then
    let (directory, pattern) := cutLocation location
    if pattern = "*" then jarsIn files base directory fun _ => true
    else jarsIn files base directory (Glob.accepts pattern)
  else .ok [location]

/-- The locations of a class path string, those with a star expanded if this is asked for. -/
def expandAll (files : FileSystem) (base : Option Path) (path : String) (stars : Bool) :
    Except Failure (List String) :=
  if stars then (locations path).mapM (expand files base) |>.map List.flatten
  else .ok (locations path)

/-! ## URLs as locations -/

/-- The schemes that a codebase may have. -/
def codebaseSchemes : List String := ["file", "http", "https", "ftp", "jar"]

/-- Whether a text is a URL that a codebase may name: with a known scheme, and with a host, or for
`file` at least a path. -/
def isCodebaseUrl (text : String) : Bool :=
  match Url.parse text with
  | .error _ => false
  | .ok url =>
    url.scheme ∈ codebaseSchemes && (url.scheme == "file" || url.authority ≠ "") &&
      (url.authority ≠ "" || url.path ≠ "")

end JvmClasspath.Expansion
