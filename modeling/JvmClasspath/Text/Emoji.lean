import JvmClasspath.Text.Blank
import JvmClasspath.Text.Emoji.Names
import JvmClasspath.Text.Split

/-!
# Emoji codes

A code is the name of an emoji between two colons, without blanks. It stands for the emoji, and with
`-text` or `-emoji` behind the name for the emoji in that style. Codes are found from the left, and
one that names nothing stays as it is.
-/

namespace JvmClasspath.Text.Emoji

def hexDigit (c : Char) : Nat :=
  if c.isDigit then c.toNat - '0'.toNat else c.toNat - 'A'.toNat + 10

/-- The text of code points that are written in hexadecimal with hyphens between them. -/
def ofCodePoints (written : String) : String :=
  String.ofList ((pieces '-' written.toList).map fun digits =>
    Char.ofNat (digits.foldl (fun number c => number * 16 + hexDigit c) 0))

/-- The entries of a table in which names and code points take turns. -/
def entriesOf : List String → List (String × String)
  | name :: written :: rest => (name, ofCodePoints written) :: entriesOf rest
  | _ => []

def entries : List (String × String) :=
  entriesOf (((split '\n' table).flatMap (split ' ')).filter (· ≠ ""))

/-- The lower case of a letter where that is a letter of Latin-1, in which all names are spelled. -/
def lowerLatin (c : Char) : Char :=
  let code := c.toNat
  if ('A' ≤ c && c ≤ 'Z') || (0xC0 ≤ code && code ≤ 0xDE && code ≠ 0xD7) then
    Char.ofNat (code + 32)
  else if code = 0x178 then 'ÿ'
  else if code = 0x1E9E then 'ß'
  else if code = 0x212A then 'k'
  else if code = 0x212B then 'å'
  else c

/-- The emoji of a name in either case. -/
def named? (name : String) : Option String :=
  entries.lookup (String.ofList (name.toList.map lowerLatin))

/-- The endings of a code that select a style, and the characters that do so in a text. -/
def styles : List (String × String) := [("-text", "\ufe0e"), ("-emoji", "\ufe0f")]

/-- The emoji that a code stands for. -/
def ofCode? (code : String) : Option String :=
  match styles.find? fun (ending, _) => endsWith ending code with
  | some (ending, selector) => (named? (withoutEnding ending code)).map (· ++ selector)
  | none => named? code

/-- The text that was cut at its colons, with the emoji for the codes in it. -/
def replacedIn (emoji? : String → Option String) : List String → String
  | [] => ""
  | [text] => text
  | [text, last] => text ++ ":" ++ last
  | text :: code :: next :: rest =>
    if code.toList.any isBlank then text ++ ":" ++ replacedIn emoji? (code :: next :: rest)
    else text ++ (emoji? code).getD (":" ++ code ++ ":") ++ replacedIn emoji? (next :: rest)

/-- A text with the emoji for the codes in it. -/
def replaced (text : String) : String := replacedIn ofCode? (split ':' text)

example : replacedIn (fun code => if code = "one" then some "1" else none)
    (split ':' "a:one:b: one:two:one:one:") = "a1b: one:two:one1" := by decide +kernel

end JvmClasspath.Text.Emoji
