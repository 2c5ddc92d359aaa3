/-!
# Terminal control sequences

A control sequence starts with the escape character and an opening bracket. Parameters from `0` to
`?` follow, then intermediates from the space to the slash, and a final character from `@` to the
tilde ends it.
-/

namespace JvmClasspath.Text

def isParameter (c : Char) : Bool := '0' ≤ c && c ≤ '?'

def isIntermediate (c : Char) : Bool := ' ' ≤ c && c ≤ '/'

def isFinal (c : Char) : Bool := '@' ≤ c && c ≤ '~'

/-- What follows a control sequence whose start has been read, or none if it does not end. -/
def afterSequence? (text : List Char) : Option (List Char) :=
  match (text.dropWhile isParameter).dropWhile isIntermediate with
  | c :: rest => if isFinal c then some rest else none
  | [] => none

/-- The text without its control sequences, so many characters at its front left out too. -/
def shownAfter (left : Nat) : List Char → List Char
  | [] => []
  | c :: rest =>
    match left with
    | more + 1 => shownAfter more rest
    | 0 =>
      match c, rest with
      | '\x1b', '[' :: inner =>
        match afterSequence? inner with
        | some after => shownAfter (rest.length - after.length) rest
        | none => c :: shownAfter 0 rest
      | _, _ => c :: shownAfter 0 rest

/-- A text without control sequences, for where there is no terminal. -/
def withoutControls (text : String) : String := String.ofList (shownAfter 0 text.toList)

example : withoutControls "\x1b[1;31ma\x1b[0m\x1b[?25l\x1b[ q" = "a" := by decide +kernel
example : withoutControls "\x1b[\x1b[1mA" = "\x1b[A" := by decide +kernel

end JvmClasspath.Text
