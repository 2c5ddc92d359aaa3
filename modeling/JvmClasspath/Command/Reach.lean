import JvmClasspath.Command

/-!
# What a request reaches

A request is answered from a picture of the file system that is taken before it is run. These are
the paths that the picture must show: what the arguments name, and the locations of the class path
with all that lies below them.
-/

namespace JvmClasspath.Command

/-- The paths that the arguments may name by themselves: the manifest and the base directory. -/
def namedPaths (arguments : List String) : List Path :=
  (defaultConfig :: arguments.flatMap fun argument =>
    [argument, ((cutForm argument.toList).2).getD argument]).map Path.ofString

/-- The path at which a location is opened or, if it has a star, listed. -/
def reachOfLocation (base : Option Path) (location : String) : Path :=
  let spelled :=
    if '*' ∈ location.toList then (Expansion.cutLocation location).1 else location
  (Path.ofString spelled).within base

/-- The path that a URL of a codebase leads to on this machine. -/
def reachOfUrl? (token : String) : Option Path :=
  match Url.parse token with
  | .ok url =>
    if url.scheme = "file" then
      some (Path.ofString (String.ofList (Url.percentDecode url.path.toList)))
    else none
  | .error _ => none

/-- The paths that a class path with these components looks at. -/
def reachOfManifest (manifest : Manifest) : List Path :=
  let c := manifest.components
  let locations := [c.boot, c.ext, c.user, c.source].flatMap Expansion.locations
  (locations.filter (· ≠ "")).map (reachOfLocation (manifest.base.map Base.toPath)) ++
    (Assembly.codebaseTokens c.codebase).filterMap reachOfUrl?

/-- The paths that a request looks at besides those that its arguments name. -/
def Request.reach (files : FileSystem) (environment : String → Option String) :
    Request → List Path
  | .find source _ _ => ofSource source
  | .tree source _ _ => ofSource source
  | .expand path _ base =>
    (Expansion.locations path).map (reachOfLocation (base.map Path.ofString))
where
  ofSource (source : Source) : List Path :=
    match Manifest.load files (Path.ofString source.config) with
    | .error _ => []
    | .ok manifest =>
      let overridden := manifest.override (Manifest.givenByEnvironment environment)
      reachOfManifest (overridden.override source.given)

end JvmClasspath.Command
