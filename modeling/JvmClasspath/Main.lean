import JvmClasspath.Command.Reach
import Std.Time.Zoned

/-!
# The command line program

Takes a picture of what a request reaches, runs the request on it, and writes what the request
reports. The picture shows the names of all files and the members of archives; of other files only
what may be a manifest is read. Nothing is downloaded: every URL of the web counts as unreachable.
-/

namespace JvmClasspath.Program

/-- What has been seen so far. -/
structure Picture where
  entries : List (List String × Entry)
  forbidden : List (List String)
  sealed : List (List String)

abbrev Camera := StateT Picture IO

def see (place : List String) (entry : Entry) : Camera Unit :=
  modify fun picture => { picture with entries := (place, entry) :: picture.entries }

def forbid (place : List String) : Camera Unit :=
  modify fun picture => { picture with forbidden := place :: picture.forbidden }

/-- The path of a place as the operating system spells it. -/
def spelled (place : List String) : String := "/" ++ Text.join '/' place

/-- Whether the operating system refuses to look at a place. -/
def isRefused (place : List String) : IO Bool := do
  let path := (← IO.currentDir) / spelled place
  match ← path.metadata.toBaseIO with
  | .error (.permissionDenied ..) => return true
  | _ => return false

/-- Notes it if a directory may not be searched, not even for the dot in it. -/
def sealIfClosed (place : List String) : Camera Unit := do
  if ← isRefused (place ++ ["."]) then
    modify fun picture => { picture with sealed := place :: picture.sealed }

/-- What a file holds, as far as it matters. -/
def contentOf (place : List String) (whole : Bool) : Camera Content := do
  let isArchive := Location.hasArchiveSuffix ⟨.root, place⟩
  if whole || isArchive then
    match ← (IO.FS.readBinFile (spelled place)).toBaseIO with
    | .error _ =>
      forbid place
      return .bytes []
    | .ok data => return .ofReading (if whole then data.toList else []) (Zip.read data)
  else return .bytes []

/-- Looks at a place and, so many levels deep, at what lies below it. -/
partial def look (place : List String) (levels : Nat) (whole : Bool) : Camera Unit := do
  let path := (← IO.currentDir) / spelled place
  if ← path.isDir then
    see place .directory
    sealIfClosed place
    if levels > 0 then
      match ← path.readDir.toBaseIO with
      | .error _ => forbid place
      | .ok children =>
        for child in children do
          let inside := place ++ [child.fileName]
          -- What a sealed directory lists is there, although nothing more can be said of it.
          if ← isRefused inside then see inside (.file (.bytes []))
          else look inside (levels - 1) false
  else if ← path.pathExists then
    see place (.file (← contentOf place whole))
  else
    (FileSystem.above place).forM sealIfClosed

/-- The file system as a picture shows it. -/
def develop (current : List String) (picture : Picture) : FileSystem :=
  let places := picture.entries.flatMap fun (place, _) => FileSystem.above place
  let files := FileSystem.ofEntries
    (picture.entries ++ places.map fun place => (place, Entry.directory))
  { files with current := current, forbidden := picture.forbidden, sealed := picture.sealed }

/-- How deep directories are followed, which ends the walk through links that form a circle. -/
def depthLimit : Nat := 64

def environment : IO (String → Option String) := do
  let names := Setting.components.map Setting.variable
  let values ← names.mapM fun name => return (name, ← IO.getEnv name)
  return fun name => (values.lookup name).join

/-- The time of day in brackets. -/
def timeOfDay : IO String := do
  let now ← Std.Time.PlainTime.now
  let two := fun (n : Int) => Toml.padded 2 n.toNat
  return "[" ++ two now.hour.val ++ ":" ++ two now.minute.val ++ ":" ++ two now.second.val ++ "]"

def usage : String :=
  "Usage: jclasspath find NAME | tree [PACKAGE] | expand PATH, each with its options"

/-- Runs a request and writes what it reports. -/
def run (arguments : List String) : IO UInt32 := do
  let current := FileSystem.empty.placeOf (Path.ofString (← IO.currentDir).toString)
  let start := FileSystem.empty.changeDirectory current
  let environment ← environment
  let lookAt (paths : List Path) (levels : Nat) (whole : Bool) : Camera Unit :=
    paths.forM fun path => look (start.placeOf path) levels whole
  let ((), named) ← (lookAt (.current :: Command.namedPaths arguments) 0 true).run ⟨[], [], []⟩
  let files := develop current named
  match Command.request files arguments with
  | .error .usage =>
    IO.eprintln usage
    return 2
  | .error (.failure failure) =>
    IO.eprintln failure.message
    return 1
  | .ok request =>
    let ((), seen) ← (lookAt (request.reach files environment) depthLimit false).run named
    let world : World := ⟨develop current seen, ⟨[]⟩⟩
    match ((request.run world environment).run.run Session.start).1 with
    | .error failure =>
      IO.eprintln failure.message
      return 1
    | .ok report =>
      let time ← timeOfDay
      report.diagnostics.forM fun diagnostic => IO.eprintln (diagnostic.line time)
      report.output.forM fun line => IO.println line
      return report.exit.toUInt32

end JvmClasspath.Program

def main (arguments : List String) : IO UInt32 := JvmClasspath.Program.run arguments
