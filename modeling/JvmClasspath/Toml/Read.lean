import JvmClasspath.Toml.Table
import JvmClasspath.Url.Percent

/-!
# Reading the pieces of a document

Each reader takes its piece from the front of a text and says what follows it. That the rest is
shorter belongs to the answer: it is what makes the readers that call themselves come to an end.
-/

namespace JvmClasspath.Toml

/-- What was read from the front of a text, and what follows it. -/
structure Read (α : Type) (text : List Char) where
  value : α
  rest : List Char
  shorter : rest.length < text.length

abbrev Reading (α : Type) (text : List Char) := Except Fault (Read α text)

theorem length_dropWhile_le (p : Char → Bool) (text : List Char) :
    (text.dropWhile p).length ≤ text.length :=
  (List.dropWhile_sublist p).length_le

/-- A text that is at most as long as another one. -/
abbrev Tail (text : List Char) := { rest : List Char // rest.length ≤ text.length }

namespace Tail

/-- Nothing has been read. -/
def all (text : List Char) : Tail text := ⟨text, Nat.le_refl _⟩

/-- The same tail, seen from one character earlier. -/
def behind {text : List Char} (c : Char) (tail : Tail text) : Tail (c :: text) :=
  ⟨tail.1, Nat.le_succ_of_le tail.2⟩

/-- A tail of a text that is itself at most as long as another one. -/
def within {text whole : List Char} (tail : Tail text) (bound : text.length ≤ whole.length) :
    Tail whole :=
  ⟨tail.1, Nat.le_trans tail.2 bound⟩

def drop {text : List Char} (count : Nat) (tail : Tail text) : Tail text :=
  ⟨tail.1.drop count, Nat.le_trans (List.drop_sublist _ _).length_le tail.2⟩

def dropWhile {text : List Char} (p : Char → Bool) (tail : Tail text) : Tail text :=
  ⟨tail.1.dropWhile p, Nat.le_trans (length_dropWhile_le p _) tail.2⟩

end Tail

namespace Read

/-- Another value for the same piece of text. -/
def map {α β : Type} {text : List Char} (f : α → β) (r : Read α text) : Read β text :=
  ⟨f r.value, r.rest, r.shorter⟩

/-- A piece of a shorter text as a piece of a text that it ends. -/
def widen {α : Type} {text inner : List Char} (r : Read α inner)
    (within : inner.length ≤ text.length) : Read α text :=
  ⟨r.value, r.rest, Nat.lt_of_lt_of_le r.shorter within⟩

/-- A piece that starts with one character and leaves a tail of what follows it. -/
def ofTail {α : Type} {text : List Char} (c : Char) (tail : Tail text) (value : α) :
    Read α (c :: text) :=
  ⟨value, tail.1, Nat.lt_succ_of_le tail.2⟩

/-- A piece of one character. -/
def head {α : Type} (c : Char) (rest : List Char) (value : α) : Read α (c :: rest) :=
  ofTail c (.all rest) value

/-- What follows a piece. -/
def tail {α : Type} {text : List Char} (r : Read α text) : Tail text :=
  ⟨r.rest, Nat.le_of_lt r.shorter⟩

/-- A piece that comes after some characters, taken together with them. -/
def past {α : Type} {text : List Char} (front : List Char) (r : Read α text) :
    Read α (front ++ text) :=
  r.widen (List.sublist_append_right front text).length_le

end Read

/-- One given character. -/
def take? (c : Char) : (text : List Char) → Option (Read Unit text)
  | [] => none
  | d :: rest => if d = c then some (.head d rest ()) else none

/-! ## Blanks and comments -/

def isBlank (c : Char) : Bool := c == ' ' || c == '\t'

/-- A control character other than a tab, which may stand nowhere. -/
def isControl (c : Char) : Bool := (c.toNat < 0x20 && c ≠ '\t') || c.toNat == 0x7F

def skipBlanks (text : List Char) : List Char := text.dropWhile isBlank

theorem skipBlanks_length_le (text : List Char) : (skipBlanks text).length ≤ text.length :=
  length_dropWhile_le _ _

/-- The text from the end of the line on, without a comment that starts here. -/
def skipComment (text : List Char) : Except Fault (Tail text) :=
  match text with
  | '#' :: rest =>
    if (rest.takeWhile (· ≠ '\n')).any isControl then .error .badCharacter
    else .ok (((Tail.all rest).dropWhile (· ≠ '\n')).behind '#')
  | other => .ok (.all other)

/-- The text after blanks, line breaks and comments. -/
def skipLines (text : List Char) : Except Fault (Tail text) :=
  match found : text.dropWhile (fun c => isBlank c || c = '\n') with
  | '#' :: rest =>
    if (rest.takeWhile (· ≠ '\n')).any isControl then .error .badCharacter
    else
      have bound : (rest.dropWhile (· ≠ '\n')).length < text.length := by
        have h1 := length_dropWhile_le (fun c => isBlank c || c = '\n') text
        have h2 := length_dropWhile_le (· ≠ '\n') rest
        rw [found] at h1
        simp only [List.length_cons] at h1
        omega
      (skipLines (rest.dropWhile (· ≠ '\n'))).map fun ⟨tail, h⟩ => ⟨tail, by omega⟩
  | rest => .ok ⟨rest, found ▸ length_dropWhile_le _ _⟩
termination_by text.length
decreasing_by simpa using bound

/-! ## Texts -/

/-- The text up to a closing apostrophe. -/
def literalLine : (text : List Char) → Reading (List Char) text
  | [] => .error .unterminated
  | c :: rest =>
    if c = '\'' then .ok (.head c rest [])
    else if isControl c then .error .badCharacter
    else (literalLine rest).map fun r => (r.map (c :: ·)).past [c]

/-- What closes a text of several lines: three quotes. One or two more before the end belong to the
text. -/
def closing? (quote : Char) : (text : List Char) → Option (Read (List Char) text)
  | a :: b :: c :: rest =>
    if a = quote ∧ b = quote ∧ c = quote then
      match rest with
      | d :: e :: after =>
        if d = quote ∧ e = quote then some ⟨[quote, quote], after, by grind⟩
        else if d = quote then some ⟨[quote], e :: after, by grind⟩
        else some ⟨[], d :: e :: after, by grind⟩
      | [d] =>
        if d = quote then some ⟨[quote], [], by grind⟩ else some ⟨[], [d], by grind⟩
      | [] => some ⟨[], [], by grind⟩
    else none
  | _ => none

/-- The text up to three closing apostrophes. -/
def literalLines (text : List Char) : Reading (List Char) text :=
  match closing? '\'' text with
  | some closed => .ok closed
  | none =>
    match text with
    | [] => .error .unterminated
    | c :: rest =>
      if isControl c && c ≠ '\n' then .error .badCharacter
      else (literalLines rest).map fun r => (r.map (c :: ·)).past [c]

def hexNumber (digits : List Char) : Nat :=
  digits.foldl (fun n c => n * 16 + Url.hexValue c) 0

/-- The character whose number is written in so many hexadecimal digits. -/
def escapedCode (size : Nat) (text : List Char) : Except Fault (Char × Tail text) :=
  let digits := text.take size
  let code := hexNumber digits
  if digits.length = size ∧ digits.all Url.isHexDigit ∧ code.isValidChar then
    .ok (Char.ofNat code, (Tail.all text).drop size)
  else .error .badEscape

/-- What a backslash and the characters after it stand for. -/
def escaped : (text : List Char) → Reading (List Char) text
  | 'b' :: rest => .ok (.head 'b' rest ['\x08'])
  | 't' :: rest => .ok (.head 't' rest ['\t'])
  | 'n' :: rest => .ok (.head 'n' rest ['\n'])
  | 'f' :: rest => .ok (.head 'f' rest ['\x0c'])
  | 'r' :: rest => .ok (.head 'r' rest ['\r'])
  | '"' :: rest => .ok (.head '"' rest ['"'])
  | '\\' :: rest => .ok (.head '\\' rest ['\\'])
  | 'u' :: rest => (escapedCode 4 rest).map fun (c, tail) => .ofTail 'u' tail [c]
  | 'U' :: rest => (escapedCode 8 rest).map fun (c, tail) => .ofTail 'U' tail [c]
  | _ => .error .badEscape

/-- What a backslash stands for in a text of several lines. At the end of a line it joins the line
with what follows the blank space after it. -/
def escapedLine (text : List Char) : Reading (List Char) text :=
  match found : skipBlanks text with
  | '\n' :: rest =>
    .ok ⟨[], rest.dropWhile fun c => isBlank c || c = '\n', by
      have h1 := skipBlanks_length_le text
      have h2 := length_dropWhile_le (fun c => isBlank c || c = '\n') rest
      rw [found] at h1
      simp only [List.length_cons] at h1
      omega⟩
  | _ => escaped text

/-- The text up to a closing quote. -/
def basicLine (text : List Char) : Reading (List Char) text :=
  match text with
  | [] => .error .unterminated
  | '"' :: rest => .ok (.head '"' rest [])
  | '\\' :: rest =>
    match escaped rest with
    | .error fault => .error fault
    | .ok ⟨chars, after, h⟩ =>
      (basicLine after).map fun r => ((r.map (chars ++ ·)).widen (Nat.le_of_lt h)).past ['\\']
  | c :: rest =>
    if isControl c then .error .badCharacter
    else (basicLine rest).map fun r => (r.map (c :: ·)).past [c]
termination_by text.length
decreasing_by all_goals simp <;> omega

/-- The text up to three closing quotes. -/
def basicLines (text : List Char) : Reading (List Char) text :=
  match closing? '"' text with
  | some closed => .ok closed
  | none =>
    match text with
    | [] => .error .unterminated
    | '\\' :: rest =>
      match escapedLine rest with
      | .error fault => .error fault
      | .ok ⟨chars, after, h⟩ =>
        (basicLines after).map fun r => ((r.map (chars ++ ·)).widen (Nat.le_of_lt h)).past ['\\']
    | c :: rest =>
      if isControl c && c ≠ '\n' then .error .badCharacter
      else (basicLines rest).map fun r => (r.map (c :: ·)).past [c]
termination_by text.length
decreasing_by all_goals simp <;> omega

end JvmClasspath.Toml
