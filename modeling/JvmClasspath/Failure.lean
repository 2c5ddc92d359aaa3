import JvmClasspath.Text.Integer
import JvmClasspath.Text.Quoted
import JvmClasspath.Url
import JvmClasspath.Zip

/-!
# Failures

The causes for which an operation gives no answer, each with the text that reports it. Most trouble
with the environment is no failure: a location that cannot be opened is skipped and recorded. What
is left falls into four groups: the file system refuses, an archive is not what it was or is not
supported, a naming rule is broken, or a manifest is malformed.
-/

namespace JvmClasspath

/-- Why the file system refuses a path. -/
inductive SystemError where
  | notFound
  | permissionDenied
  | notADirectory
  | isADirectory
  | nameTooLong
deriving DecidableEq, Repr

namespace SystemError

/-- The number that POSIX systems give to the cause. -/
def code : SystemError → Nat
  | notFound => 2
  | permissionDenied => 13
  | notADirectory => 20
  | isADirectory => 21
  | nameTooLong => 36

def description : SystemError → String
  | notFound => "No such file or directory"
  | permissionDenied => "Permission denied"
  | notADirectory => "Not a directory"
  | isADirectory => "Is a directory"
  | nameTooLong => "File name too long"

/-- Whether the question what stands at a path takes the cause for an answer: nothing does. -/
def meansAbsent : SystemError → Bool
  | notFound | notADirectory => true
  | permissionDenied | isADirectory | nameTooLong => false

end SystemError

/-- The components that configure a class path, and the directory that they are relative to. -/
inductive Setting where
  | boot
  | ext
  | user
  | source
  | codebase
  | baseDirectory
deriving DecidableEq, Repr

namespace Setting

/-- The name of a setting in a manifest. -/
def key : Setting → String
  | boot => "boot"
  | ext => "ext"
  | user => "user"
  | source => "source"
  | codebase => "codebase"
  | baseDirectory => "base_dir"

end Setting

/-- What is wrong with a manifest. -/
inductive ManifestFault where
  /-- It cannot be read, or is not written in the manifest's format. -/
  | unreadable (reason : String)
  /-- `classpath` is something else than a table. -/
  | notATable
  /-- The base directory is not a text. -/
  | baseDirectoryNotText
  /-- These settings are neither a text nor a list. -/
  | notText (settings : List Setting)
deriving DecidableEq, Repr

inductive Failure where
  /-- The file system refuses a path, given as it was passed to it. -/
  | system (cause : SystemError) (path : String)
  /-- A path with U+0000 where the file system must be asked. -/
  | nullCharacter
  /-- The content of a directory inside an archive was asked for. -/
  | directoryMember (path : String)
  | notAnArchive
  /-- An archive is one, and not supported. -/
  | unsupportedArchive (obstacle : Zip.Obstacle)
  /-- A member was asked for that is not, or no longer, in its archive. -/
  | missingMember (member : String)
  | malformedUrl (cause : Url.Error)
  /-- A URL that must open does not. -/
  | unavailable (url reason : String)
  /-- A class with neither a compiled file nor a source file. -/
  | noReference
  /-- A compiled file whose name no class can have. -/
  | notAClassFile (name : String)
  /-- A source file whose name no class can have. -/
  | notASourceFile (name : String)
  /-- A package answered the lookup of `name` with something that is no class. -/
  | strayAnswer (answer name : String)
  /-- Bytes that should be text are not UTF-8. -/
  | notUtf8
  /-- A whole number with more digits than are read; how many it has. -/
  | tooManyDigits (count : Nat)
  /-- A whole number with more digits than are written. -/
  | tooLargeToWrite
  | manifest (path : String) (fault : ManifestFault)
  /-- Settings given directly that are neither absent nor a text. -/
  | invalidSettings (settings : List Setting)
deriving DecidableEq, Repr

namespace ManifestFault

/-- The settings of a fault, one after the other. -/
def listed (settings : List Setting) : String :=
  String.intercalate ", " (settings.map fun s => s.key ++ " must be a string")

/-- The detail that ends a message: what a reader of the file found wrong. -/
def detail : ManifestFault → String
  | unreadable reason => reason
  | notATable => "expected a table"
  | baseDirectoryNotText => "expected a string"
  | notText settings => listed settings

/-- The message for a manifest at `path`, with a given detail at its end. -/
def messageWith (path detail : String) : ManifestFault → String
  | unreadable _ => "Failed to parse " ++ path ++ ": " ++ detail
  | notATable => "Invalid [classpath] table in " ++ path ++ ": " ++ detail
  | baseDirectoryNotText => "Invalid base_dir in " ++ path ++ ": " ++ detail
  | notText _ => "Invalid [classpath] table in " ++ path ++ ": " ++ detail

def message (path : String) (fault : ManifestFault) : String :=
  fault.messageWith path fault.detail

end ManifestFault

/-- The text that reports a failure. -/
def Failure.message : Failure → String
  | system cause path =>
    s!"[Errno {cause.code}] " ++ cause.description ++ ": " ++ Text.quoted path
  | nullCharacter => "embedded null byte"
  | directoryMember path => path
  | notAnArchive => "File is not a zip file"
  | unsupportedArchive obstacle => obstacle.message
  | missingMember member =>
    Text.quoted ("There is no item named " ++ Text.quoted member ++ " in the archive")
  | malformedUrl cause => cause.message
  | unavailable url reason => "Called unwrap on Err: " ++ url ++ ": " ++ reason
  | noReference => "A ClassRep needs a binary or a source reference"
  | notAClassFile name => "Not a class file: " ++ name
  | notASourceFile name => "Unexpected source file ending: " ++ name
  | strayAnswer answer name =>
    "Unexpected ClassRep '" ++ Text.quoted answer ++ "' found searching for name '" ++ name ++ "'"
  | notUtf8 => "the bytes are not UTF-8"
  | tooManyDigits count =>
    s!"Exceeds the limit ({Text.digitLimit} digits) for integer string conversion: " ++
      s!"value has {count} digits; use sys.set_int_max_str_digits() to increase the limit"
  | tooLargeToWrite =>
    s!"Exceeds the limit ({Text.digitLimit} digits) for integer string conversion; " ++
      "use sys.set_int_max_str_digits() to increase the limit"
  | manifest path fault => fault.message path
  | invalidSettings settings => ManifestFault.listed settings

/-- Whether an archive that fails to open in this way counts as a location that does not open. One
that is not supported does not count so. -/
def Failure.closesArchive : Failure → Bool
  | system .. | notAnArchive => true
  | _ => false

end JvmClasspath
