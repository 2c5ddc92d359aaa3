import JvmClasspath.Archive.Tree

/-!
# Files

A file or directory that can be navigated, whether it lies in the file system or inside an archive.
The two look alike: a name, a display path, children in the order of their names, and bytes.

They differ in when they are looked at. A file of the file system is asked for afresh each time. An
archive is indexed once, when it is opened, and keeps that tree; only the bytes of its members are
read later, by opening the archive again at its path.
-/

namespace JvmClasspath

/-- Where the members of an archive are read from. -/
inductive Archive.Source where
  | path (path : Path)
  | memory (members : List Member)
deriving DecidableEq

/-- An archive that has been opened. Each opening has a number of its own, so two archives opened
from one path are different archives. -/
structure Archive where
  opening : Nat
  source : Archive.Source
  name : String
  location : String
  children : Archive.Children

namespace Archive

/-- The archive itself, spelled out for the comparison of two archives. -/
def parts (a : Archive) : Nat × String × String × Archive.Source × Children :=
  (a.opening, a.name, a.location, a.source, a.children)

theorem parts_inj {a b : Archive} : a.parts = b.parts ↔ a = b := by
  cases a
  cases b
  simp only [parts, Prod.mk.injEq, Archive.mk.injEq]
  constructor <;> (rintro ⟨rfl, rfl, rfl, rfl, rfl⟩; simp)

instance : DecidableEq Archive := fun a b =>
  withPtrEqDecEq a b fun _ => decidable_of_iff (a.parts = b.parts) parts_inj

/-- The members of what an archive is read from, at this moment. -/
def Source.members (fs : FileSystem) : Source → Except Failure (List Member)
  | .memory members => .ok members
  | .path location => do (← fs.read location).members

/-- Opens an archive and indexes its members. -/
def «open» (fs : FileSystem) (opening : Nat) (source : Source) (name location : String) :
    Except Failure Archive := do
  return ⟨opening, source, name, location, index (← source.members fs)⟩

/-- Opens the archive at a path, which gives it its name and its display path. -/
def openPath (fs : FileSystem) (opening : Nat) (path : Path) : Except Failure Archive :=
  Archive.open fs opening (.path path) path.name path.toString

/-- Opens an archive that is held in memory. -/
def ofContent (opening : Nat) (content : Content) (name location : String) :
    Except Failure Archive := do
  let members ← content.members
  return ⟨opening, .memory members, name, location, index members⟩

/-- The bytes of the last member of this name. -/
def readMember (fs : FileSystem) (archive : Archive) (member : String) :
    Except Failure (List UInt8) := do
  let members ← archive.source.members fs
  match members.reverse.find? (·.name = member) with
  | some found => return found.data
  | none => throw (.missingMember member)

end Archive

/-- A file or directory. Inside an archive, `member` is the path from the root of the archive: of a
file as the archive spells it, of a directory by its components, each with a slash behind it. -/
inductive File where
  | plain (path : Path)
  | archive (archive : Archive)
  | folder (archive : Archive) (member : String) (children : Archive.Children)
  | entry (archive : Archive) (member : String)
deriving DecidableEq

namespace File

/-- The last component of a member's name. -/
def memberName (member : String) : String :=
  Text.afterLast '/' (String.ofList ((member.toList.reverse.dropWhile (· = '/')).reverse))

/-- The simple name, without any parent. -/
def name : File → String
  | plain path => path.name
  | archive a => a.name
  | folder _ member _ => memberName member
  | entry _ member => memberName member

/-- The path that identifies a file to the reader. -/
def display : File → String
  | plain path => path.toString
  | archive a => a.location
  | folder a member _ => a.location ++ "!/" ++ member
  | entry a member => a.location ++ "!/" ++ member

def isDirectory (fs : FileSystem) : File → Except Failure Bool
  | plain path => fs.isDirectory path
  | archive _ => .ok true
  | folder .. => .ok true
  | entry .. => .ok false

/-- A child of a directory inside an archive, whose member path is `above`. -/
def ofTree (archive : Archive) (above : String) : String × Archive.Tree → File
  | (_, .file member) => entry archive member
  | (name, .directory children) => folder archive (above ++ name ++ "/") children

/-- The direct children, ascending by name. A file has none, and so has a directory that cannot be
listed. -/
def children (fs : FileSystem) : File → Except Failure (List File)
  | plain path => do
    if ← fs.isDirectory path then
      match fs.list path with
      | .ok names => return names.map fun name => plain (path.child name)
      | .error _ => return []
    else return []
  | archive a => .ok (a.children.map (ofTree a ""))
  | folder a member children => .ok (children.map (ofTree a member))
  | entry .. => .ok []

/-- The first direct child of this name. -/
def lookup? (fs : FileSystem) (file : File) (name : String) : Except Failure (Option File) :=
  (file.children fs).map fun children => children.find? (·.name = name)

/-- The bytes of a file. -/
def read (fs : FileSystem) (file : File) : Except Failure (List UInt8) :=
  match file with
  | plain path => (fs.read path).map Content.data
  | entry a member => a.readMember fs member
  | archive _ => .error (.directoryMember file.display)
  | folder .. => .error (.directoryMember file.display)

end File

end JvmClasspath
