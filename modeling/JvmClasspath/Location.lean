import JvmClasspath.File
import JvmClasspath.Session
import JvmClasspath.Url.Percent

/-!
# Opening a location

A location opens as a directory or as the root of an archive, or it does not open. Paths lead to
directories and to archives, which are known by their file name's suffix; URLs lead to local files
or are downloaded. Most of what keeps a location from opening is an answer, not a failure. The
exceptions are a path that the system refuses to look up, a URL that cannot be cut into parts, and
an archive that is not supported.
-/

namespace JvmClasspath.Location

open Session (Run)

/-- The endings of archives, compared in lower case. -/
def archiveEndings : List String := [".jar", ".zip"]

/-- Whether a file name's suffix is that of an archive. -/
def hasArchiveSuffix (path : Path) : Bool :=
  archiveEndings.any fun ending =>
    Text.lowerAscii path.suffix.toList == ending.toList

/-- Opens the directory or archive at a path. -/
def openPath? (files : FileSystem) (path : Path) : Run (Option File) := do
  if ← files.isDirectory path then
    return some (.plain path)
  if (← files.isFile path) && hasArchiveSuffix path then
    match Archive.openPath files (← Session.fresh) path with
    | .ok archive => return some (.archive archive)
    | .error failure =>
      if failure.closesArchive then
        Session.note (.unreadableArchive path.toString failure)
        return none
      else throw failure
  return none

/-- The schemes whose URLs are downloaded. -/
def webSchemes : List String := ["http", "https"]

/-- The name of a downloaded archive: the last name of the URL's path, or the host. -/
def downloadName (url : Url) : String :=
  let name := (Path.ofString url.path).name
  if name.isEmpty then url.authority else name

/-- Opens what a URL leads to. A `file` URL is a path with triples for bytes; its host is not
looked at. -/
def openUrl (world : World) (text : String) : Run (Except UrlFault File) := do
  let url ← (Url.parse text).mapError Failure.malformedUrl
  if url.scheme = "file" then
    let path := Path.ofString (String.ofList (Url.percentDecode url.path.toList))
    match ← openPath? world.files path with
    | some file => return .ok file
    | none => return .error .notOpenable
  else if url.scheme ∉ webSchemes then
    return .error (.unsupportedScheme url.scheme)
  else
    match ← Session.download world.web text with
    | .error reason =>
      Session.note (.unreachable text reason)
      return .error (.unreachable reason)
    | .ok body =>
      match Archive.ofContent (← Session.fresh) body (downloadName url) text with
      | .ok archive => return .ok (.archive archive)
      | .error .notAnArchive =>
        Session.note (.notAnArchive text)
        return .error .notAnArchive
      | .error failure => throw failure

/-- Opens what a URL leads to, and fails if it does not open. -/
def requireUrl (world : World) (text : String) : Run File := do
  match ← openUrl world text with
  | .ok file => return file
  | .error fault => throw (.unavailable text fault.message)

end JvmClasspath.Location
