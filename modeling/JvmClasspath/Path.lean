import JvmClasspath.Text.Split

/-!
# Paths

A path is a sequence of names after an anchor. Spelling beyond that is not kept: empty names, the
name `.` and slashes at the end vanish when a text is read, while `..` stays, because what it means
depends on the file system.

Two leading slashes are an anchor of their own, as POSIX allows; three or more are one.
-/

namespace JvmClasspath

/-- Where the names of a path start. -/
inductive Anchor where
  | here
  | root
  | doubleRoot
deriving DecidableEq, Repr

structure Path where
  anchor : Anchor
  names : List String
deriving DecidableEq, Repr

namespace Path

/-- The current directory. -/
def current : Path := ⟨.here, []⟩

def anchorOf : List Char → Anchor
  | '/' :: '/' :: '/' :: _ => .root
  | '/' :: '/' :: _ => .doubleRoot
  | '/' :: _ => .root
  | _ => .here

/-- The path that a text spells. -/
def ofString (text : String) : Path where
  anchor := anchorOf text.toList
  names := (Text.split '/' text).filter fun name => name ≠ "" ∧ name ≠ "."

/-- The text of an anchor. -/
def lead : Anchor → String
  | .here => ""
  | .root => "/"
  | .doubleRoot => "//"

/-- The one spelling of a path that messages and display use. -/
def toString (path : Path) : String :=
  if path = current then "." else lead path.anchor ++ Text.join '/' path.names

instance : ToString Path := ⟨Path.toString⟩

def isAbsolute (path : Path) : Bool := path.anchor ≠ .here

/-- The path that `other` spells inside `path`; an absolute one stays as it is. -/
def join (path other : Path) : Path :=
  if other.isAbsolute then other else { path with names := path.names ++ other.names }

/-- The path of an entry of a directory. -/
def child (path : Path) (name : String) : Path :=
  { path with names := path.names ++ [name] }

/-- A path as seen from an optional base directory. -/
def within (base : Option Path) (path : Path) : Path :=
  match base with
  | some directory => directory.join path
  | none => path

/-- The last name, or the empty text if there is none. -/
def name (path : Path) : String := path.names.getLast?.getD ""

/-- The path without its last name. -/
def parent (path : Path) : Path := { path with names := path.names.dropLast }

/-- A file name's text from its last dot on, unless that dot is its first or last character. -/
def suffixOf (name : String) : String :=
  match Text.cutLast? '.' name.toList with
  | some (before, after) =>
    if before.isEmpty ∨ after.isEmpty then "" else String.ofList ('.' :: after)
  | none => ""

def suffix (path : Path) : String := suffixOf path.name

/-- Whether a name contains U+0000, which no file system takes. -/
def hasNull (path : Path) : Bool := path.names.any fun name => '\x00' ∈ name.toList

@[simp] theorem join_absolute {path other : Path} (absolute : other.isAbsolute = true) :
    path.join other = other := by
  simp [join, absolute]

@[simp] theorem within_none (path : Path) : path.within none = path := rfl

/-- From a base directory that starts at the root, every path does. -/
theorem isAbsolute_within {base : Path} (absolute : base.isAbsolute = true) (path : Path) :
    (path.within (some base)).isAbsolute = true := by
  rw [within, join]
  split
  · assumption
  · exact absolute

example : (ofString "//w/./t//u/").toString = "//w/t/u" := by decide +kernel
example : (ofString "").toString = "." := by decide +kernel
example : suffixOf ".jar" = "" ∧ suffixOf "a.b.JAR" = ".JAR" ∧ suffixOf "a." = "" := by
  decide +kernel

end Path

end JvmClasspath
