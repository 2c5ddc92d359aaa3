import JvmClasspath.FileSystem

/-!
# Command line arguments

Switches and arguments may come in any order, and after `--` everything is an argument. A switch has
a long form, which takes its value after an equals sign or as the next argument, or a short form of
one letter; short forms may stand together behind one dash, and what follows a letter that takes a
value is that value. Of a switch that is given several times the last value counts.
-/

namespace JvmClasspath.Command

/-- The switches of all commands. -/
inductive Switch where
  | boot
  | ext
  | user
  | source
  | codebase
  | config
  | verbose
  | json
  | depth
  | noStar
  | baseDirectory
deriving DecidableEq, Repr

namespace Switch

/-- The long forms of a switch. The one with a single dash is a long form too. -/
def longForms : Switch → List String
  | boot => ["--boot"]
  | ext => ["--ext"]
  | user => ["-cp", "--classpath"]
  | source => ["--sourcepath"]
  | codebase => ["--codebase"]
  | config => ["--config"]
  | verbose => ["--verbose"]
  | json => ["--json"]
  | depth => ["--depth"]
  | noStar => ["--no-star"]
  | baseDirectory => ["--base-dir"]

/-- The letter of the short form, if there is one. -/
def letter? : Switch → Option Char
  | verbose => some 'v'
  | depth => some 'd'
  | _ => none

/-- Whether a switch has a value; the others are given or not. -/
def takesValue : Switch → Bool
  | verbose => false
  | json => false
  | noStar => false
  | _ => true

end Switch

/-- What a command is told: its switches with their values, as given, and its arguments. -/
structure Given where
  switches : List (Switch × String)
  arguments : List String
deriving DecidableEq, Repr

/-- What one argument says about switches, and the one that still waits for its value. -/
structure Said where
  switches : List (Switch × String)
  waiting : Option Switch
deriving DecidableEq, Repr

/-- The letters behind one dash. -/
def letters (allowed : List Switch) : List Char → Option Said
  | [] => some ⟨[], none⟩
  | c :: rest => do
    let switch ← allowed.find? fun s => s.letter? = some c
    if switch.takesValue then
      if rest.isEmpty then return ⟨[], some switch⟩
      else return ⟨[(switch, String.ofList rest)], none⟩
    else
      let said ← letters allowed rest
      return { said with switches := (switch, "") :: said.switches }

/-- A long form and the value after its equals sign. -/
def cutForm (argument : List Char) : List Char × Option String :=
  match Text.cutFirst? '=' argument with
  | some (form, value) => (form, some (String.ofList value))
  | none => (argument, none)

/-- What an argument that starts with a dash says, or none if a command does not understand it. -/
def said? (allowed : List Switch) (argument : List Char) : Option Said :=
  let (form, value) := cutForm argument
  match allowed.find? fun s => s.longForms.contains (String.ofList form), value with
  | some switch, some text =>
    if switch.takesValue then some ⟨[(switch, text)], none⟩ else none
  | some switch, none =>
    if switch.takesValue then some ⟨[], some switch⟩ else some ⟨[(switch, "")], none⟩
  | none, _ =>
    match argument with
    | '-' :: '-' :: _ => none
    | _ => letters allowed (argument.drop 1)

/-- Whether an argument speaks of switches: it is a dash with something after it. -/
def isSwitch (argument : String) : Bool :=
  match argument.toList with
  | '-' :: _ :: _ => true
  | _ => false

/-- What the arguments tell a command with these switches, or none where it cannot follow them. -/
def understand (allowed : List Switch) : List String → Option Given
  | [] => some ⟨[], []⟩
  | "--" :: rest => some ⟨[], rest⟩
  | argument :: rest =>
    if isSwitch argument then
      match said? allowed argument.toList, rest with
      | none, _ => none
      | some ⟨switches, none⟩, rest => do
        let given ← understand allowed rest
        return { given with switches := switches ++ given.switches }
      | some ⟨_, some _⟩, [] => none
      | some ⟨switches, some switch⟩, value :: rest => do
        let given ← understand allowed rest
        return { given with switches := switches ++ (switch, value) :: given.switches }
    else do
      let given ← understand allowed rest
      return { given with arguments := argument :: given.arguments }

namespace Given

/-- The value that counts of a switch. -/
def value? (given : Given) (switch : Switch) : Option String :=
  (given.switches.reverse.find? fun (other, _) => other = switch).map Prod.snd

def has (given : Given) (switch : Switch) : Bool :=
  given.switches.any fun (other, _) => other = switch

end Given

end JvmClasspath.Command
