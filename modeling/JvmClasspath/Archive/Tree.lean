import JvmClasspath.FileSystem

/-!
# The tree of an archive

An archive is a list of members whose names are paths; the tree is what those names describe. A name
counts by its non-empty components, so `a//b` and `/a/b` are one path, and a name that ends in a
slash is a directory. Directories that no member names come into being on the way to their content.

Where a file and a directory have one path the directory stands, in whatever order they come.
Of several files of one path the last one stands. Children are kept ascending by name.
-/

namespace JvmClasspath.Archive

/-- What stands at a path inside an archive: a file, with the name its member has in the archive, or
a directory with its children. -/
inductive Tree where
  | file (member : String)
  | directory (children : List (String × Tree))

/-- The children of a directory. -/
abbrev Children := List (String × Tree)

namespace Tree

mutual

def decEq : (a b : Tree) → Decidable (a = b)
  | .file m, .file n => decidable_of_iff (m = n) (by simp)
  | .directory cs, .directory ds =>
    have := decEqChildren cs ds
    decidable_of_iff (cs = ds) (by simp)
  | .file _, .directory _ => isFalse nofun
  | .directory _, .file _ => isFalse nofun

def decEqChildren : (cs ds : List (String × Tree)) → Decidable (cs = ds)
  | [], [] => isTrue rfl
  | (m, a) :: cs, (n, b) :: ds =>
    have := decEq a b
    have := decEqChildren cs ds
    decidable_of_iff (m = n ∧ a = b ∧ cs = ds) (by simp [and_assoc])
  | [], _ :: _ => isFalse nofun
  | _ :: _, [] => isFalse nofun

end

/-- Two trees that are one value in memory are not compared node by node. -/
instance : DecidableEq Tree := fun a b => withPtrEqDecEq a b fun _ => decEq a b

end Tree

/-- The children with the one at `name` replaced, or with a new one placed in order. -/
def update (name : String) (new : Option Tree → Tree) : Children → Children
  | [] => [(name, new none)]
  | (other, tree) :: rest =>
    if other = name then (name, new (some tree)) :: rest
    else if name < other then (name, new none) :: (other, tree) :: rest
    else (other, tree) :: update name new rest

/-- What stands at a place, seen as a directory; a file gives way to an empty one. -/
def asDirectory : Option Tree → Children
  | some (.directory children) => children
  | _ => []

/-- The children with a directory at this path. -/
def addDirectory : (path : List String) → Children → Children
  | [], children => children
  | name :: rest, children =>
    update name (fun old => .directory (addDirectory rest (asDirectory old))) children

/-- What a file leaves at its place: a directory that stands there stays. -/
def fileOver (member : String) : Option Tree → Tree
  | some (.directory children) => .directory children
  | _ => .file member

/-- The children with a file at this path, and directories on the way to it. -/
def addFile (member : String) : (path : List String) → Children → Children
  | [], children => children
  | [name], children => update name (fileOver member) children
  | name :: next :: rest, children =>
    update name (fun old => .directory (addFile member (next :: rest) (asDirectory old))) children

/-- The components of a member's name. -/
def components (member : String) : List String :=
  (Text.split '/' member).filter (· ≠ "")

/-- Whether a member is a directory. -/
def namesDirectory (member : String) : Bool := Text.endsWith "/" member

/-- The children with one more member. -/
def addMember (children : Children) (member : Member) : Children :=
  if namesDirectory member.name then addDirectory (components member.name) children
  else addFile member.name (components member.name) children

/-- The tree that the names of the members describe. -/
def index (members : List Member) : Children :=
  members.foldl addMember []

end JvmClasspath.Archive
