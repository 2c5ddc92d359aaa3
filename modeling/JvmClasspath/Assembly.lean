import JvmClasspath.Expansion
import JvmClasspath.Location
import JvmClasspath.Package

/-!
# Assembling a class path

A whole class path is built from five components, in the order of their precedence:

1. boot path: each location is one entry
2. extension path: every jar, zip or directory inside each location
3. user path: stars are expanded
4. codebase: URLs of archives with spaces between them
5. source path: trees of sources, if one is given

Each location has one outcome or, for an extension directory, one for each child that could be an
entry. An outcome is an entry, or a skip with its reason: what does not exist, is no archive or
cannot be downloaded is left out and recorded. The entries and the skips of the class path are the
two halves of one sequence of outcomes.
-/

namespace JvmClasspath

/-- The five components as they are configured. -/
structure Components where
  boot : String
  ext : String
  user : String
  source : String
  codebase : String
deriving DecidableEq, Repr

namespace Assembly

open Session (Run)

/-- What became of a location. -/
inductive Outcome where
  | entry (package : Package)
  | skip (skip : Skip)

namespace Outcome

def package? : Outcome → Option Package
  | entry package => some package
  | skip _ => none

def skip? : Outcome → Option Skip
  | entry _ => none
  | skip record => some record

end Outcome

/-- Where locations are opened, and the policy of the packages that are built. -/
structure Setup where
  world : World
  base : Option Path
  policy : Policy

/-- An entry of its own for a directory or archive. -/
def enter (setup : Setup) (role : Role) (file : File) : Run Outcome :=
  return .entry (.directory (← Session.fresh) role file setup.policy)

/-- A location that is left out, noted and recorded. -/
def leaveOut (component : Component) (location : String) (reason : SkipReason) : Run Outcome := do
  let skip : Skip := ⟨component, location, reason⟩
  Session.note (.skipped skip)
  return .skip skip

/-- Opens a location, a relative one in the base directory. -/
def openLocation (setup : Setup) (location : String) : Run (Option File) :=
  Location.openPath? setup.world.files ((Path.ofString location).within setup.base)

/-- The outcome of a location that is itself an entry. -/
def locationOutcome (setup : Setup) (component : Component) (role : Role) (location : String) :
    Run Outcome := do
  match ← openLocation setup location with
  | some file => enter setup role file
  | none => leaveOut component location .notOpenable

/-- The outcomes of a path component, empty locations left out. -/
def pathOutcomes (setup : Setup) (component : Component) (stars : Bool) (role : Role)
    (path : String) : Run (List Outcome) := do
  let locations ← Expansion.expandAll setup.world.files setup.base path stars
  (locations.filter (· ≠ "")).mapM (locationOutcome setup component role)

/-! ## Extension directories -/

/-- Whether a child of an extension directory could be an entry: it is named as an archive is, or it
is a directory. -/
def isExtension (files : FileSystem) (child : File) : Except Failure Bool :=
  if Location.archiveEndings.any (Text.endsWithAnyCase · child.name) then .ok true
  else child.isDirectory files

/-- Opens a child of an extension directory. An archive inside an archive does not open. -/
def openExtension (files : FileSystem) (child : File) : Run (Option File) :=
  match child with
  | .plain path => Location.openPath? files path
  | other => do
    if ← other.isDirectory files then return some other else return none

def extensionOutcome (setup : Setup) (child : File) : Run Outcome := do
  match ← openExtension setup.world.files child with
  | some file => enter setup .binaries file
  | none => leaveOut .ext child.display .unreadableArchive

/-- The outcomes of the children that could be entries, in their order. -/
def extensionOutcomes (setup : Setup) : List File → Run (List Outcome)
  | [] => return []
  | child :: rest => do
    if ← isExtension setup.world.files child then
      let outcome ← extensionOutcome setup child
      return outcome :: (← extensionOutcomes setup rest)
    else extensionOutcomes setup rest

/-- The outcomes of one extension directory. -/
def directoryOutcomes (setup : Setup) (location : String) : Run (List Outcome) := do
  match ← openLocation setup location with
  | none => return [← leaveOut .ext location .notOpenable]
  | some directory => extensionOutcomes setup (← directory.children setup.world.files)

/-- The outcomes of the extension path. -/
def extOutcomes (setup : Setup) (path : String) : Run (List Outcome) := do
  let locations := (Expansion.locations path).filter (· ≠ "")
  return (← locations.mapM (directoryOutcomes setup)).flatten

/-! ## Codebase -/

/-- The URLs of a codebase: what stands between single spaces, blanks at both ends left out. -/
def codebaseTokens (codebase : String) : List String :=
  (Text.split ' ' (String.ofList (Text.stripped codebase.toList))).filter (· ≠ "")

def urlOutcome (setup : Setup) (token : String) : Run Outcome := do
  if Expansion.isCodebaseUrl token then
    match ← Location.openUrl setup.world token with
    | .ok file => enter setup .binaries file
    | .error fault => leaveOut .codebase token (.url fault)
  else leaveOut .codebase token .malformedUrl

/-! ## The whole class path -/

/-- The outcomes of all components, in the order of their precedence. -/
def outcomes (setup : Setup) (components : Components) : Run (List Outcome) := do
  let boot ← pathOutcomes setup .boot false .binaries components.boot
  let ext ← extOutcomes setup components.ext
  let user ← pathOutcomes setup .user true .binaries components.user
  let codebase ← (codebaseTokens components.codebase).mapM (urlOutcome setup)
  let source ← pathOutcomes setup .source false .sources components.source
  return boot ++ ext ++ user ++ codebase ++ source

/-- Builds the class path that the components describe. -/
def assemble (setup : Setup) (components : Components) : Run Package := do
  let all ← outcomes setup components
  let entries := all.filterMap Outcome.package?
  let skips := all.filterMap Outcome.skip?
  Session.note (.assembled entries.length skips.length)
  return .merged (← Session.fresh) (.wholeClassPath skips) entries setup.policy

end Assembly

end JvmClasspath
