import JvmClasspath.ClassRep
import JvmClasspath.Session
import JvmClasspath.Text.Control
import JvmClasspath.Text.Json

/-!
# Reports

What a command says: lines on its standard output, and diagnostics. A diagnostic is kept as what it
is about until it is written.
-/

namespace JvmClasspath.Command

/-- What a command says besides its result. -/
inductive Diagnostic where
  | notice (notice : Notice) (verbose : Bool)
  | skipped (skip : Skip)
  | manifest (path : String) (fault : ManifestFault)
  | inconsistent (failure : Failure)
  | classNotFound (name : String)
  | packageNotFound (name : String)
deriving DecidableEq, Repr

/-- What a command leaves behind. -/
structure Report where
  exit : Nat
  output : List String
  diagnostics : List Diagnostic
deriving DecidableEq, Repr

namespace Diagnostic

def failureMark : String := "❌ "

def warningMark : String := "⚠️  "

/-- A notice with the time of day, its severity and where it comes from. -/
def timedLine (time : String) (notice : Notice) : String :=
  time ++ " " ++ notice.severity.name ++ " " ++ notice.origin ++ ": " ++ notice.message

/-- A diagnostic as it is written, at a time of day. Only notices keep control sequences that they
hold. -/
def line (time : String) : Diagnostic → String
  | notice n verbose => if verbose then timedLine time n else n.message
  | skipped skip =>
    Text.withoutControls (warningMark ++ "Skipped " ++ skip.component.name ++ " entry '" ++
      skip.location ++ "': " ++ skip.reason.message)
  | manifest path fault => Text.withoutControls (failureMark ++ fault.message path)
  | inconsistent failure =>
    Text.withoutControls (failureMark ++ "Classpath is inconsistent: " ++ failure.message)
  | classNotFound name =>
    Text.withoutControls (failureMark ++ name ++ " not found on the classpath")
  | packageNotFound name =>
    Text.withoutControls (failureMark ++ "Package '" ++ name ++ "' not found on the classpath")

end Diagnostic

/-! ## The answer to a lookup -/

/-- What is found for a class name: the display paths of its files. -/
structure Finding where
  name : String
  found : Bool
  binary : Option String
  source : Option String
deriving DecidableEq, Repr

namespace Finding

def ofRep (name : String) (rep : Option ClassRep) : Finding where
  name := name
  found := rep.isSome
  binary := (rep.bind (·.binary)).map File.display
  source := (rep.bind (·.source)).map File.display

/-- A path, or a dash for one that is missing or empty. -/
def orDash (path : Option String) : String :=
  match path with
  | some text => if text.isEmpty then "-" else text
  | none => "-"

/-- The finding for a reader. -/
def lines (finding : Finding) : List String :=
  ["✅ Found " ++ finding.name,
    "   class:  " ++ orDash finding.binary,
    "   source: " ++ orDash finding.source].map Text.withoutControls

/-- The finding for a program. -/
def json (finding : Finding) : List String := [
  "\x7b",
  "  \"name\": " ++ Text.json finding.name ++ ",",
  "  \"found\": " ++ (if finding.found then "true" else "false") ++ ",",
  "  \"binary\": " ++ Text.json? finding.binary ++ ",",
  "  \"source\": " ++ Text.json? finding.source,
  "\x7d"]

end Finding

end JvmClasspath.Command
