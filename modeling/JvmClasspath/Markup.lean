import JvmClasspath.Text.Emoji

/-!
# Markup

Labels carry their styles as tags in square brackets. A text that looks like a tag is escaped with a
backslash, and the backslashes before it are doubled, so that it is shown as it is.

Where styles cannot be shown, the tags are left out and the escapes are undone. The codes of emoji
are replaced by the emoji; a code does not reach across a tag.
-/

namespace JvmClasspath.Markup

/-- The characters that a tag may start with. -/
def startsTag (c : Char) : Bool :=
  ('a' ≤ c && c ≤ 'z') || c == '#' || c == '/' || c == '@'

/-- Whether a tag starts here: it is closed before another bracket opens. -/
def isTag : List Char → Bool
  | '[' :: c :: rest =>
    startsTag c && (rest.dropWhile fun d => d ≠ '[' && d ≠ ']').head? == some ']'
  | _ => false

def backslashes (count : Nat) : List Char := List.replicate count '\\'

/-- The escaped text, after so many backslashes. -/
def escapeFrom (held : Nat) : List Char → List Char
  | [] => backslashes held
  | c :: rest =>
    if c = '\\' then escapeFrom (held + 1) rest
    else if isTag (c :: rest) then backslashes (2 * held + 1) ++ c :: escapeFrom 0 rest
    else backslashes held ++ c :: escapeFrom 0 rest

/-- Whether a text ends in exactly one backslash. -/
def endsInOne (text : List Char) : Bool :=
  (text.reverse.takeWhile (· = '\\')).length == 1

/-- A text with everything escaped that looks like a tag. A lone backslash at the end is doubled, so
that it does not escape a tag that follows. -/
def escape (text : String) : String :=
  let escaped := escapeFrom 0 text.toList
  String.ofList (if endsInOne escaped then escaped ++ ['\\'] else escaped)

/-- Where a marked-up text is being read: between tags, in a tag, which is left out, or in an
escaped tag, which is shown. -/
inductive Stretch where
  | between
  | tag
  | escapedTag

/-- Runs of characters, with more in front of the first one. -/
def extend (front : List Char) : List (List Char) → List (List Char)
  | [] => [front]
  | run :: runs => (front ++ run) :: runs

/-- What is shown of a marked-up text after so many backslashes, in runs. A tag ends a run; an
escaped tag and the backslashes that are left in front of it are runs of their own. -/
def runsFrom (stretch : Stretch) (held : Nat) : List Char → List (List Char)
  | [] => [backslashes held]
  | c :: rest =>
    match stretch with
    | .tag => if c = ']' then runsFrom .between 0 rest else runsFrom .tag 0 rest
    | .escapedTag =>
      if c = ']' then [c] :: runsFrom .between 0 rest else extend [c] (runsFrom .escapedTag 0 rest)
    | .between =>
      if c = '\\' then runsFrom .between (held + 1) rest
      else if isTag (c :: rest) then
        let runs :=
          if held % 2 = 0 then runsFrom .tag 0 rest
          else extend [c] (runsFrom .escapedTag 0 rest)
        [] :: backslashes (held / 2) :: runs
      else if c = '[' then extend (backslashes (held - 1) ++ [c]) (runsFrom .between 0 rest)
      else extend (backslashes held ++ [c]) (runsFrom .between 0 rest)

/-- The control characters that move the cursor; they are not shown. -/
def isCursorControl (c : Char) : Bool :=
  c.toNat == 7 || c.toNat == 8 || c.toNat == 11 || c.toNat == 12 || c.toNat == 13

/-- What is shown of a marked-up text where there are no styles. -/
def shown (text : String) : String :=
  let runs := (runsFrom .between 0 text.toList).map fun run =>
    (Text.Emoji.replaced (String.ofList run)).toList.filter (!isCursorControl ·)
  String.ofList runs.flatten

example : escape "a[b]\\[c]" = "a\\[b]\\\\\\[c]" := by decide +kernel
example : (runsFrom .between 0 ("[bold]" ++ escape "a[b]\\[c]\\" ++ "[/bold]").toList).flatten =
    "a[b]\\[c]\\".toList := by decide +kernel

end JvmClasspath.Markup
