import JvmClasspath.Assembly
import JvmClasspath.Toml.Document

/-!
# Manifests

A manifest is a file that describes the class path of a project once: in the table `classpath` it
gives the five components, each as one text or as a list of locations, and the base directory.
Without a base directory, locations are relative to the directory of the manifest.

Environment variables override what the manifest says, and settings that are given directly override
both. A manifest that does not exist says nothing; one that exists and cannot be read is a failure.
-/

namespace JvmClasspath

/-- The base directory of a manifest: a path or, where it was overridden, a text that is kept as it
is spelled. -/
inductive Base where
  | path (path : Path)
  | spelled (text : String)
deriving DecidableEq, Repr

namespace Base

def toPath : Base → Path
  | .path p => p
  | .spelled text => Path.ofString text

def display : Base → String
  | .path p => p.toString
  | .spelled text => text

end Base

/-- What is configured for a class path. -/
structure Manifest where
  components : Components
  base : Option Base
deriving DecidableEq, Repr

/-- A table in a manifest. -/
abbrev Entries := List (String × Toml.Value)

/-- The settings that are components, in the order in which they are read. -/
def Setting.components : List Setting := [.boot, .ext, .user, .source, .codebase]

namespace Components

def get (c : Components) : Setting → String
  | .boot => c.boot
  | .ext => c.ext
  | .user => c.user
  | .source => c.source
  | .codebase => c.codebase
  | .baseDirectory => ""

/-- The components with one of them replaced. The base directory is none of them. -/
def set (c : Components) (setting : Setting) (text : String) : Components :=
  match setting with
  | .boot => { c with boot := text }
  | .ext => { c with ext := text }
  | .user => { c with user := text }
  | .source => { c with source := text }
  | .codebase => { c with codebase := text }
  | .baseDirectory => c

def empty : Components := ⟨"", "", "", "", ""⟩

@[simp] theorem get_set_self {setting : Setting} (component : setting ≠ .baseDirectory)
    (c : Components) (text : String) : (c.set setting text).get setting = text := by
  cases setting <;> first | rfl | exact absurd rfl component

end Components

namespace Manifest

/-- The manifest that says nothing. -/
def empty : Manifest := ⟨.empty, none⟩

/-- Settings given one by one, each absent or a text or something else. -/
inductive Given where
  | text (text : String)
  | other
deriving DecidableEq, Repr

/-- The manifest after one more setting. -/
def give (manifest : Manifest) : Setting × Given → Manifest
  | (_, .other) => manifest
  | (.baseDirectory, .text text) =>
    { manifest with base := some (.path (Path.ofString text)) }
  | (setting, .text text) =>
    { manifest with components := manifest.components.set setting text }

/-- The manifest with these settings, or those of them that are no text. -/
def ofGiven (given : List (Setting × Given)) : Except (List Setting) Manifest :=
  let settings := Setting.components ++ [Setting.baseDirectory]
  let wrong := settings.filter fun setting => given.lookup setting = some Given.other
  if wrong.isEmpty then .ok (given.foldl give empty) else .error wrong

/-! ## Loading -/

/-- What stands between the items of a component that is given as a list. -/
def separator : Setting → Char
  | .codebase => ' '
  | _ => ':'

/-- A component as it is given in a manifest: a text stands for itself, the items of a list are
joined, and anything else is wrong. -/
def givenBy (setting : Setting) : Toml.Value → Except Failure Given
  | .text text => .ok (.text text)
  | .array items =>
    if Toml.Value.areWritable items then
      .ok (.text (Text.join (separator setting) (items.map Toml.Value.plain)))
    else .error .tooLargeToWrite
  | _ => .ok .other

/-- The table that a document has under `classpath`; a document without it has an empty one. -/
def tableOf (document : Entries) : Except ManifestFault Entries :=
  match document.lookup "classpath" with
  | none => .ok []
  | some (.table entries) => .ok entries
  | some _ => .error .notATable

/-- The base directory that a table names, seen from the directory of the manifest. -/
def baseOf (path : Path) (table : Entries) : Except ManifestFault Path :=
  match table.lookup Setting.baseDirectory.key with
  | none => .ok (path.parent.join .current)
  | some (.text text) => .ok (path.parent.join (Path.ofString text))
  | some _ => .error .baseDirectoryNotText

/-- The components that a table gives. -/
def givenIn (table : Entries) : Except Failure (List (Setting × Given)) :=
  Setting.components.filterMapM fun setting =>
    match table.lookup setting.key with
    | none => .ok none
    | some value => (givenBy setting value).map fun given => some (setting, given)

/-- The manifest that a document at a path describes. -/
def ofDocument (path : Path) (document : Entries) : Except Failure Manifest := do
  let wrong := fun fault => Failure.manifest path.toString fault
  let table ← (tableOf document).mapError wrong
  let given ← givenIn table
  let base ← (baseOf path table).mapError wrong
  let manifest ← (ofGiven given).mapError fun settings => wrong (.notText settings)
  return { manifest with base := some (.path base) }

/-- The document that the bytes of a file spell. -/
def documentOf (path : Path) (data : List UInt8) : Except Failure Entries :=
  match Utf8.decode? data with
  | none => .error .notUtf8
  | some text =>
    match Toml.parse text with
    | .ok document => .ok document
    | .error (.tooManyDigits count) => .error (.tooManyDigits count)
    | .error fault => .error (.manifest path.toString (.unreadable fault.message))

/-- Loads the manifest at a path. -/
def load (files : FileSystem) (path : Path) : Except Failure Manifest := do
  if ← files.isExisting path then
    match files.read path with
    | .error failure => throw (.manifest path.toString (.unreadable failure.message))
    | .ok content => ofDocument path (← documentOf path content.data)
  else return empty

/-! ## Overriding -/

/-- The manifest with the settings that are given here, and the others kept. -/
def override (manifest : Manifest) (given : Setting → Option String) : Manifest where
  components := Setting.components.foldl (fun components setting =>
    match given setting with
    | some text => components.set setting text
    | none => components) manifest.components
  base :=
    match given .baseDirectory with
    | some text => some (.spelled text)
    | none => manifest.base

/-- The settings that environment variables give. The base directory is none of them. -/
def givenByEnvironment (environment : String → Option String) : Setting → Option String
  | .baseDirectory => none
  | setting => environment setting.variable

/-- The manifest with the components that environment variables give. Each of them is noted. -/
def withEnvironment (manifest : Manifest) (environment : String → Option String) :
    Session.Run Manifest := do
  let given := givenByEnvironment environment
  (Setting.components.filter fun setting => (given setting).isSome).forM fun setting =>
    Session.note (.environment setting)
  return manifest.override given

/-- Assembles the class path that a manifest describes. -/
def build (manifest : Manifest) (world : World) (policy : Policy) : Session.Run Package :=
  Assembly.assemble ⟨world, manifest.base.map Base.toPath, policy⟩ manifest.components

end Manifest

end JvmClasspath
