import JvmClasspath.Failure
import JvmClasspath.Path
import JvmClasspath.Zip

/-!
# The file system

A tree of directories and files, kept as the list of its places. A place is the sequence of names
that leads to it from the root, so every place has one spelling, and paths are resolved to places
name by name: `..` leads to the parent, and every place on the way must be a directory.

A file that holds an archive is known by the members of the archive. Two permissions are kept apart.
Listing a directory or opening a file may be forbidden; what lies inside a forbidden directory can
still be reached by name. A directory may also be sealed: then it may be listed, but no path leads
through it, and the question what stands at such a path is refused.
-/

namespace JvmClasspath

/-- What a file holds: bytes, an archive with these members, or an archive that is not supported. -/
inductive Content where
  | bytes (data : List UInt8)
  | archive (members : List Member)
  | unsupported (data : List UInt8) (obstacle : Zip.Obstacle)
deriving DecidableEq, Repr

namespace Content

/-- The bytes of a file. -/
def data : Content → List UInt8
  | bytes data => data
  | archive members => Zip.write members
  | unsupported data _ => data

/-- The members of an archive. -/
def members : Content → Except Failure (List Member)
  | bytes _ => .error .notAnArchive
  | archive members => .ok members
  | unsupported _ obstacle => .error (.unsupportedArchive obstacle)

/-- What a file holds whose bytes are these, and read so as a zip file. -/
def ofReading (data : List UInt8) (reading : Zip.Reading (List Member)) : Content :=
  match reading.run with
  | none => bytes data
  | some (.error obstacle) => unsupported data obstacle
  | some (.ok members) => archive members

end Content

/-- What stands at a place. -/
inductive Entry where
  | directory
  | file (content : Content)
deriving DecidableEq, Repr

/-- A name that a file can have inside its directory. -/
def IsFileName (name : String) : Prop :=
  name ≠ "" ∧ name ≠ "." ∧ name ≠ ".." ∧ '/' ∉ name.toList

instance (name : String) : Decidable (IsFileName name) := inferInstanceAs (Decidable (_ ∧ _))

/-- The places that exist besides the root, the current directory, the places whose listing or
opening is forbidden, and the directories that may not be searched. -/
structure FileSystem where
  entries : List (List String × Entry)
  current : List String
  forbidden : List (List String)
  sealed : List (List String)
  named : ∀ entry ∈ entries, ∀ name ∈ entry.1, IsFileName name

namespace FileSystem

/-- Only the root exists. -/
def empty : FileSystem := ⟨[], [], [], [], by simp⟩

/-- The tree with these entries; of several at one place the first counts. Entries whose place no
file could have are left out. -/
def ofEntries (entries : List (List String × Entry)) : FileSystem where
  entries := entries.filter fun (place, _) => ∀ name ∈ place, IsFileName name
  current := []
  forbidden := []
  sealed := []
  named := fun _ mem => of_decide_eq_true (List.mem_filter.1 mem).2

/-- What stands at a place. -/
def entryAt? (fs : FileSystem) (place : List String) : Option Entry :=
  if place = [] then some .directory else fs.entries.lookup place

@[simp] theorem entryAt?_root (fs : FileSystem) : fs.entryAt? [] = some .directory := rfl

/-- A sorted list with each element once. -/
def withoutRepeats : List String → List String
  | [] => []
  | [name] => [name]
  | name :: next :: rest =>
    if name = next then withoutRepeats (next :: rest) else name :: withoutRepeats (next :: rest)

/-- The names in a directory, ascending. -/
def namesIn (fs : FileSystem) (place : List String) : List String :=
  withoutRepeats (fs.entries.filterMap fun (other, _) =>
    if other.dropLast = place then other.getLast? else none).mergeSort

/-! ## Changing the tree -/

/-- The place that a name leads to if `..` is read as text. -/
def step (place : List String) (name : String) : List String :=
  if name = ".." then place.dropLast else place ++ [name]

/-- The places that names lead through, the place where they start first. -/
def route (place : List String) : List String → List (List String)
  | [] => [place]
  | name :: rest => place :: route (step place name) rest

/-- A route ends where the names lead. -/
theorem getLast?_route (place : List String) (names : List String) :
    (route place names).getLast? = some (names.foldl step place) := by
  induction names generalizing place with
  | nil => rfl
  | cons name rest ih => simp [route, List.getLast?_cons, ih]

/-- The place where a path starts. -/
def start (fs : FileSystem) (path : Path) : List String :=
  if path.isAbsolute then [] else fs.current

/-- The place that a path names if `..` is read as text. -/
def placeOf (fs : FileSystem) (path : Path) : List String := path.names.foldl step (fs.start path)

/-- The places on the way to a place, the place itself left out. -/
def above (place : List String) : List (List String) :=
  (List.range place.length).map place.take |>.filter (· ≠ [])

/-- The tree with one more entry. An entry whose place no file could have is left out. -/
def insert (fs : FileSystem) (place : List String) (entry : Entry) : FileSystem :=
  if valid : ∀ name ∈ place, IsFileName name then
    { fs with
      entries := (place, entry) :: fs.entries.filter fun (other, _) => other ≠ place
      named := by
        intro e mem name inPlace
        rcases List.mem_cons.1 mem with rfl | old
        · exact valid name inPlace
        · exact fs.named e (List.mem_filter.1 old).1 name inPlace }
  else fs

/-- The tree with a directory at this place; a directory that exists keeps its content. -/
def makeDirectory (fs : FileSystem) (place : List String) : FileSystem :=
  if fs.entryAt? place = some .directory then fs else fs.insert place .directory

/-- The tree without this place and all below it. -/
def remove (fs : FileSystem) (place : List String) : FileSystem :=
  { fs with
    entries := fs.entries.filter fun (other, _) => !place.isPrefixOf other
    named := fun e mem => fs.named e (List.mem_filter.1 mem).1 }

/-- Whether a path ends in the name of something, and so can be that of a file. -/
def endsInName (path : Path) : Bool := path.names.getLast?.any (· ≠ "..")

/-- The tree with an entry at the end of a path and directories at all places on the way. A file
takes the place of whatever stood there. -/
def put (fs : FileSystem) (path : Path) (entry : Entry) : FileSystem :=
  let place := fs.placeOf path
  let onTheWay := above (fs.start path) ++ (route (fs.start path) path.names).dropLast
  let withParents := onTheWay.foldl makeDirectory fs
  match entry with
  | .directory => withParents.makeDirectory place
  | .file content =>
    if endsInName path then (withParents.remove place).insert place (.file content)
    else withParents.makeDirectory place

/-- The same tree seen from another current directory. -/
def changeDirectory (fs : FileSystem) (place : List String) : FileSystem :=
  { fs with current := place }

theorem lookup_filter (keep : List String → Bool) (entries : List (List String × Entry))
    (place : List String) :
    (entries.filter fun (other, _) => keep other).lookup place =
      if keep place then entries.lookup place else none := by
  induction entries with
  | nil => simp
  | cons entry rest ih =>
    obtain ⟨other, content⟩ := entry
    rw [List.filter_cons]
    by_cases same : place = other
    · subst same
      by_cases kept : keep place
      · simp [kept]
      · simpa [kept] using ih
    · have apart : (place == other) = false := beq_eq_false_iff_ne.2 same
      by_cases kept : keep other
      · simp only [kept, if_true, List.lookup_cons, apart, ih]
      · simp only [kept, Bool.false_eq_true, if_false, List.lookup_cons, apart, ih]

/-- What is inserted stands at its place. -/
theorem entryAt?_insert_self (fs : FileSystem) {place : List String} (entry : Entry)
    (below : place ≠ []) (valid : ∀ name ∈ place, IsFileName name) :
    (fs.insert place entry).entryAt? place = some entry := by
  rw [insert, dif_pos valid]
  simp [entryAt?, below]

/-- An insertion leaves all other places as they are. -/
theorem entryAt?_insert_of_ne (fs : FileSystem) {place other : List String} (entry : Entry)
    (differs : other ≠ place) : (fs.insert place entry).entryAt? other = fs.entryAt? other := by
  rw [insert]
  split
  · simp only [entryAt?, List.lookup_cons, beq_eq_false_iff_ne.2 differs]
    split
    · rfl
    · simpa [differs] using lookup_filter (fun p => p ≠ place) fs.entries other
  · rfl

/-- A removal takes away a place and all below it, the root apart, and nothing else. -/
theorem entryAt?_remove (fs : FileSystem) (place other : List String) :
    (fs.remove place).entryAt? other =
      if other ≠ [] ∧ place.isPrefixOf other then none else fs.entryAt? other := by
  by_cases root : other = []
  · simp [entryAt?, root]
  · simp only [entryAt?, remove, root, if_false, ne_eq, not_false_eq_true, true_and]
    rw [lookup_filter (fun p => !place.isPrefixOf p)]
    cases place.isPrefixOf other <;> rfl

@[simp] theorem entryAt?_changeDirectory (fs : FileSystem) (place other : List String) :
    (fs.changeDirectory place).entryAt? other = fs.entryAt? other := rfl

/-! ## Asking by path -/

/-- How many bytes a name may have. -/
def nameLimit : Nat := 255

/-- How many bytes a path must stay below. -/
def pathLimit : Nat := 4096

/-- Follows names from a place. A directory that may not be searched leads nowhere, not even to its
parent. -/
def walk (fs : FileSystem) (place : List String) : List String → Except SystemError (List String)
  | [] => .ok place
  | name :: rest =>
    match fs.entryAt? place with
    | none => .error .notFound
    | some (.file _) => .error .notADirectory
    | some .directory =>
      if place ∈ fs.sealed then .error .permissionDenied
      else if name = ".." then walk fs place.dropLast rest
      else if name.utf8ByteSize > nameLimit then .error .nameTooLong
      else walk fs (place ++ [name]) rest

/-- The place that a path leads to, and what stands there. The path of the current directory is a
dot, and a dot is searched for in the directory that it stands for. -/
def resolve (fs : FileSystem) (path : Path) : Except SystemError (List String × Entry) :=
  if path.toString.utf8ByteSize ≥ pathLimit then .error .nameTooLong
  else do
    let place ← fs.walk (fs.start path) path.names
    if path = .current ∧ place ∈ fs.sealed then .error .permissionDenied
    else match fs.entryAt? place with
    | some entry => return (place, entry)
    | none => throw .notFound

/-- Whether a path is spelled so that it can only lead to a directory: with a slash at its end, or
with a dot as its last name. -/
def asksForDirectory (text : String) : Bool := Text.afterLast '/' text ∈ ["", "."]

/-- Whether the last name of a path is a dot as it is spelled. -/
def endsInDot (text : String) : Bool :=
  ((Text.split '/' text).filter (· ≠ "")).getLast? = some "."

/-- The place that an unread path leads to, and what stands there. The empty text leads nowhere, and
the limit of a path's length is for what is spelled. -/
def locate (fs : FileSystem) (text : String) : Except Failure (List String × Entry) :=
  let found : Except SystemError (List String × Entry) :=
    if text.isEmpty then .error .notFound
    else if text.utf8ByteSize ≥ pathLimit then .error .nameTooLong
    else
      match fs.resolve (Path.ofString text) with
      | .ok (place, .file content) =>
        if asksForDirectory text then .error .notADirectory else .ok (place, .file content)
      | .ok (place, .directory) =>
        if endsInDot text ∧ place ∈ fs.sealed then .error .permissionDenied
        else .ok (place, .directory)
      | .error cause => .error cause
  if '\x00' ∈ text.toList then .error .nullCharacter
  else found.mapError fun cause => .system cause text

/-- The tree without what an unread path leads to. -/
def delete (fs : FileSystem) (text : String) : Except Failure FileSystem := do
  let (place, _) ← fs.locate text
  return fs.remove place

/-- The same tree seen from the directory that an unread path leads to. -/
def enter (fs : FileSystem) (text : String) : Except Failure FileSystem := do
  match ← fs.locate text with
  | (place, .directory) =>
    if place ∈ fs.sealed then throw (.system .permissionDenied text)
    else return fs.changeDirectory place
  | (_, .file _) => throw (.system .notADirectory text)

/-- What a path leads to, nothing being no failure. A path is refused if it is too long, or leads
through a directory that may not be searched. -/
def lookUp (fs : FileSystem) (path : Path) : Except Failure (Option Entry) :=
  if path.hasNull then .ok none
  else
    match fs.resolve path with
    | .ok (_, entry) => .ok (some entry)
    | .error cause =>
      if cause.meansAbsent then .ok none else .error (.system cause path.toString)

def isExisting (fs : FileSystem) (path : Path) : Except Failure Bool :=
  (fs.lookUp path).map Option.isSome

def isDirectory (fs : FileSystem) (path : Path) : Except Failure Bool :=
  (fs.lookUp path).map (· == some .directory)

def isFile (fs : FileSystem) (path : Path) : Except Failure Bool :=
  (fs.lookUp path).map fun
    | some (.file _) => true
    | _ => false

/-- The names in the directory that a path leads to, ascending. -/
def list (fs : FileSystem) (path : Path) : Except Failure (List String) :=
  if path.hasNull then .error .nullCharacter
  else
    match fs.resolve path with
    | .error cause => .error (.system cause path.toString)
    | .ok (_, .file _) => .error (.system .notADirectory path.toString)
    | .ok (place, .directory) =>
      if place ∈ fs.forbidden then .error (.system .permissionDenied path.toString)
      else .ok (fs.namesIn place)

/-- The content of the file that a path leads to. A directory is refused for what it is, even where
nothing may be read. -/
def read (fs : FileSystem) (path : Path) : Except Failure Content :=
  if path.hasNull then .error .nullCharacter
  else
    match fs.resolve path with
    | .error cause => .error (.system cause path.toString)
    | .ok (_, .directory) => .error (.system .isADirectory path.toString)
    | .ok (place, .file content) =>
      if place ∈ fs.forbidden then .error (.system .permissionDenied path.toString)
      else .ok content

end FileSystem

end JvmClasspath
