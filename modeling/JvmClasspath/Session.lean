import JvmClasspath.Web

/-!
# Sessions

What is remembered while locations are opened and class paths are built: which URLs have been
downloaded, and what there was to note on the way. A session also numbers what it opens and builds,
so that two things made from the same location are told apart.

What happened before a failure stays in the session.
-/

namespace JvmClasspath

/-- The component of the class path that an entry comes from. -/
inductive Component where
  | boot
  | ext
  | user
  | codebase
  | source
deriving DecidableEq, Repr

def Component.name : Component → String
  | boot => "boot"
  | ext => "ext"
  | user => "user"
  | codebase => "codebase"
  | source => "source"

/-- Why a URL does not open. -/
inductive UrlFault where
  | notOpenable
  | unsupportedScheme (scheme : String)
  | unreachable (reason : String)
  | notAnArchive
deriving DecidableEq, Repr

def notOpenableText : String := "not a directory or archive"

def UrlFault.message : UrlFault → String
  | notOpenable => notOpenableText
  | unsupportedScheme scheme => "unsupported URL scheme '" ++ scheme ++ "'"
  | unreachable reason => reason
  | notAnArchive => "not a zip archive: " ++ Failure.notAnArchive.message

/-- Why a location contributes nothing to a class path. -/
inductive SkipReason where
  | notOpenable
  | unreadableArchive
  | malformedUrl
  | url (fault : UrlFault)
deriving DecidableEq, Repr

def SkipReason.message : SkipReason → String
  | notOpenable => notOpenableText
  | unreadableArchive => "not a readable archive"
  | malformedUrl => "malformed URL"
  | url fault => fault.message

/-- A configured location that contributes nothing to a class path. -/
structure Skip where
  component : Component
  location : String
  reason : SkipReason
deriving DecidableEq, Repr

/-- Something worth noting that is no failure. -/
inductive Notice where
  | unreadableArchive (path : String) (failure : Failure)
  | unreachable (url reason : String)
  | notAnArchive (url : String)
  | environment (setting : Setting)
  | skipped (skip : Skip)
  | assembled (entries skips : Nat)
deriving DecidableEq, Repr

inductive Severity where
  | debug
  | warning
deriving DecidableEq, Repr

def Severity.name : Severity → String
  | debug => "DEBUG"
  | warning => "WARNING"

/-- The environment variable that overrides a setting. -/
def Setting.variable (setting : Setting) : String :=
  "JCLASSPATH_" ++ String.map Char.toUpper setting.key

namespace Notice

def severity : Notice → Severity
  | unreachable .. => .warning
  | notAnArchive _ => .warning
  | _ => .debug

/-- The part of the program that a notice comes from. -/
def origin : Notice → String
  | unreadableArchive .. => "jclasspath.io"
  | unreachable .. => "jclasspath.io"
  | notAnArchive _ => "jclasspath.io"
  | environment _ => "jclasspath.core.manifest"
  | skipped _ => "jclasspath.core.assembler"
  | assembled .. => "jclasspath.core.assembler"

def message : Notice → String
  | unreadableArchive path failure => "Cannot open archive " ++ path ++ ": " ++ failure.message
  | unreachable url reason => "Failed to fetch " ++ url ++ ": " ++ reason
  | notAnArchive url =>
    "Downloaded " ++ url ++ " is not an archive: " ++ Failure.notAnArchive.message
  | environment setting => "Using " ++ setting.variable ++ " from environment"
  | skipped skip =>
    "Skipping " ++ skip.component.name ++ " entry '" ++ skip.location ++ "': " ++
      skip.reason.message
  | assembled entries skips => s!"Assembled classpath with {entries} entries ({skips} skipped)"

end Notice

/-- The state of a session: the next number to give out, the URLs downloaded so far and the notices
so far, each newest last. -/
structure Session where
  next : Nat
  fetched : List String
  notices : List Notice

namespace Session

def start : Session := ⟨0, [], []⟩

/-- A computation that opens and builds, and may fail. -/
abbrev Run := ExceptT Failure (StateM Session)

/-- A number that has not been given out yet. -/
def fresh : Run Nat :=
  modifyGet fun session => (session.next, { session with next := session.next + 1 })

def note (notice : Notice) : Run Unit :=
  modify fun session => { session with notices := session.notices ++ [notice] }

/-- Downloads a URL and remembers that it was asked for. -/
def download (web : Web) (url : String) : Run (Except String Content) := do
  modify fun session => { session with fetched := session.fetched ++ [url] }
  return web.download url

end Session

end JvmClasspath
