import JvmClasspath.Command.Arguments
import JvmClasspath.Command.Report
import JvmClasspath.Manifest
import JvmClasspath.Outline

/-!
# Commands

Three commands ask about a class path: `find` looks a class up by its dotted name, `tree` outlines a
package, and `expand` shows what a class path string stands for. The first two build the class path
from a manifest, the environment and their switches, later ones before earlier ones.

A command whose arguments do not fit is not run.
-/

namespace JvmClasspath.Command

/-- How `find` and `tree` are told which class path to build. -/
structure Source where
  given : Setting → Option String
  config : String
  verbose : Bool

inductive Request where
  | find (source : Source) (name : String) (json : Bool)
  | tree (source : Source) (package : String) (depth : Int)
  | expand (path : String) (stars : Bool) (base : Option String)

/-! ## Understanding a request -/

def defaultConfig : String := "jclasspath.toml"

def defaultDepth : String := "1"

def sourceSwitches : List Switch :=
  [.boot, .ext, .user, .source, .codebase, .config, .verbose]

/-- The switch that gives a component. -/
def switchOf? : Setting → Option Switch
  | .boot => some .boot
  | .ext => some .ext
  | .user => some .user
  | .source => some .source
  | .codebase => some .codebase
  | .baseDirectory => none

/-- Why a request is not run: the arguments do not fit, or one of them cannot even be looked at. -/
inductive Refusal where
  | usage
  | failure (failure : Failure)
deriving DecidableEq, Repr

/-- Accepts a path that leads nowhere, or to something that fits and may be read. -/
def checkPath (files : FileSystem) (fits : Entry → Bool) (text : String) : Except Refusal Unit :=
  match files.locate text with
  | .ok (place, entry) =>
    if fits entry && !files.forbidden.contains place then .ok () else .error .usage
  | .error .nullCharacter => .error (.failure .nullCharacter)
  | .error _ => .ok ()

/-- Accepts the value of a switch. -/
def checkValue (files : FileSystem) (value : String) : Switch → Except Refusal Unit
  | .config => checkPath files (· ≠ .directory) value
  | .baseDirectory => checkPath files (· = .directory) value
  | .depth => if (Text.integer? value).isSome then .ok () else .error .usage
  | _ => .ok ()

/-- What the arguments tell a command. The values that count are checked in the order in which their
switches come first. -/
def given (files : FileSystem) (allowed : List Switch) (arguments : List String) :
    Except Refusal Given := do
  match understand allowed arguments with
  | none => throw .usage
  | some given =>
    (given.switches.map Prod.fst).eraseDups.forM fun switch =>
      checkValue files ((given.value? switch).getD "") switch
    return given

def sourceOf (files : FileSystem) (given : Given) : Except Refusal Source := do
  let config := (given.value? .config).getD defaultConfig
  checkValue files config .config
  return ⟨fun setting => (switchOf? setting).bind given.value?, config, given.has .verbose⟩

def findRequest (files : FileSystem) (arguments : List String) : Except Refusal Request := do
  let given ← given files (sourceSwitches ++ [.json]) arguments
  match given.arguments with
  | [name] => return .find (← sourceOf files given) name (given.has .json)
  | _ => throw .usage

def treeRequest (files : FileSystem) (arguments : List String) : Except Refusal Request := do
  let given ← given files (sourceSwitches ++ [.depth]) arguments
  let depth := (Text.integer? ((given.value? .depth).getD defaultDepth)).getD 0
  match given.arguments with
  | [] => return .tree (← sourceOf files given) "" depth
  | [package] => return .tree (← sourceOf files given) package depth
  | _ => throw .usage

def expandRequest (files : FileSystem) (arguments : List String) : Except Refusal Request := do
  let given ← given files [.noStar, .baseDirectory] arguments
  match given.arguments with
  | [path] => return .expand path (!given.has .noStar) (given.value? .baseDirectory)
  | _ => throw .usage

/-- The request that a command's name and its arguments spell. -/
def requestNamed (files : FileSystem) : List String → Except Refusal Request
  | "find" :: rest => findRequest files rest
  | "tree" :: rest => treeRequest files rest
  | "expand" :: rest => expandRequest files rest
  | _ => .error .usage

/-- The request that the arguments spell. No switch may come before the command's name, but a `--`
that ends the switches may. -/
def request (files : FileSystem) : List String → Except Refusal Request
  | "--" :: rest => requestNamed files rest
  | arguments => requestNamed files arguments

/-! ## Running a request -/

/-- Asks a package of which nothing is known yet. -/
def askAfresh {α : Type} (query : Query α) : Except Failure α := (query.run.run Scans.empty).1

/-- Builds the class path of a source: the manifest, overridden by the environment, overridden by
the switches. -/
def buildFrom (world : World) (environment : String → Option String) (source : Source)
    (manifest : Manifest) : Session.Run Package := do
  let manifest ← manifest.withEnvironment environment
  (manifest.override source.given).build world .hideTraitImplementations

/-- The notices of a session that are shown: all of them, or only the warnings. -/
def shownNotices (verbose : Bool) (session : Session) : List Diagnostic :=
  (session.notices.filter fun n => verbose || n.severity = .warning).map fun n => .notice n verbose

/-- The class path of a source with the diagnostics that belong to it, or the report of a manifest
that cannot be read. `showSkips` says whether the skips are to be shown as well. -/
def classPathOf (world : World) (environment : String → Option String) (source : Source)
    (showSkips : Bool) : Session.Run (Except Report (Package × List Diagnostic)) := do
  modify fun session => { session with notices := [] }
  match Manifest.load world.files (Path.ofString source.config) with
  | .error (.manifest path fault) => return .error ⟨2, [], [.manifest path fault]⟩
  | .error failure => throw failure
  | .ok manifest =>
    let package ← buildFrom world environment source manifest
    let notices := shownNotices source.verbose (← get)
    let skips := if showSkips then (package.skipped?.getD []).map Diagnostic.skipped else []
    return .ok (package, notices ++ skips)

/-- Whether a failure means that the class path contradicts itself. -/
def isInconsistency : Failure → Bool
  | .noReference => true
  | .notAClassFile _ => true
  | .notASourceFile _ => true
  | .strayAnswer .. => true
  | _ => false

def find (world : World) (environment : String → Option String) (source : Source) (name : String)
    (json : Bool) : Session.Run Report := do
  match ← classPathOf world environment source (source.verbose && !json) with
  | .error report => return report
  | .ok (package, diagnostics) =>
    match askAfresh (package.findClass world.files name) with
    | .error failure =>
      if isInconsistency failure then
        return ⟨2, [], diagnostics ++ [.inconsistent failure]⟩
      else throw failure
    | .ok rep =>
      let finding := Finding.ofRep name rep
      let exit := if finding.found then 0 else 1
      if json then return ⟨exit, finding.json, diagnostics⟩
      else if finding.found then return ⟨exit, finding.lines, diagnostics⟩
      else return ⟨exit, [], diagnostics ++ [.classNotFound name]⟩

def rootLabel : String := "<root>"

def tree (world : World) (environment : String → Option String) (source : Source) (name : String)
    (depth : Int) : Session.Run Report := do
  match ← classPathOf world environment source source.verbose with
  | .error report => return report
  | .ok (package, diagnostics) =>
    let label := if name.isEmpty then rootLabel else name
    let query : Query (Option Outline) := do
      match ← package.findPackage world.files name with
      | none => return none
      | some inner => return some (← Outline.ofPackage world.files label inner depth)
    match ← askAfresh query with
    | none => return ⟨1, [], diagnostics ++ [.packageNotFound name]⟩
    | some outline => return ⟨0, outline.lines, diagnostics⟩

def expand (files : FileSystem) (path : String) (stars : Bool) (base : Option String) :
    Except Failure Report := do
  let locations ← Expansion.expandAll files (base.map Path.ofString) path stars
  return ⟨0, locations.map Text.withoutControls, []⟩

/-- Runs a request. -/
def Request.run (world : World) (environment : String → Option String) :
    Request → Session.Run Report
  | .find source name json => Command.find world environment source name json
  | .tree source package depth => Command.tree world environment source package depth
  | .expand path stars base => Command.expand world.files path stars base

end JvmClasspath.Command
