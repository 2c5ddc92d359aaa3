import JvmClasspath.Toml.Read

/-!
# Numbers, dates and times

These are recognised by their first characters and end where their form ends; what follows is left
to the statement around them. A date or time comes before a number, because it starts like one.
-/

namespace JvmClasspath.Toml

def digit (c : Char) : Nat := c.toNat - '0'.toNat

/-- The number that two digits spell, if it lies in a range. -/
def pair? (low high : Nat) (a b : Char) : Option Nat :=
  let number := digit a * 10 + digit b
  if a.isDigit && b.isDigit && low ≤ number && number ≤ high then some number else none

/-! ## Times -/

/-- The millionths of a second that digits after a point spell; digits beyond the sixth do not
count. -/
def microseconds (digits : List Char) : Nat :=
  let kept := digits.take 6
  Nat.ofDigitChars 10 (kept ++ List.replicate (6 - kept.length) '0') 0

/-- The fraction of a second, if a point and at least one digit follow. -/
def fraction (text : List Char) : Nat × Tail text :=
  match text with
  | '.' :: rest =>
    let digits := rest.takeWhile Char.isDigit
    if digits.isEmpty then (0, .all ('.' :: rest))
    else (microseconds digits, ((Tail.all rest).dropWhile Char.isDigit).behind '.')
  | other => (0, .all other)

/-- A time of day. -/
def time? : (text : List Char) → Option (Read Time text)
  | a :: b :: ':' :: c :: d :: ':' :: e :: f :: rest => do
    let hour ← pair? 0 23 a b
    let minute ← pair? 0 59 c d
    let second ← pair? 0 59 e f
    let (microsecond, ⟨after, h⟩) := fraction rest
    return ⟨⟨hour, minute, second, microsecond⟩, after, by simp only [List.length_cons]; omega⟩
  | _ => none

/-- How far the clock of a moment is ahead of universal time, if this is said. -/
def offset (text : List Char) : Option Int × Tail text :=
  match text with
  | 'Z' :: rest => (some 0, (Tail.all rest).behind 'Z')
  | 'z' :: rest => (some 0, (Tail.all rest).behind 'z')
  | sign :: a :: b :: ':' :: c :: d :: rest =>
    match pair? 0 23 a b, pair? 0 59 c d with
    | some hours, some minutes =>
      let size : Int := hours * 60 + minutes
      if sign = '+' then (some size, ⟨rest, by simp only [List.length_cons]; omega⟩)
      else if sign = '-' then (some (-size), ⟨rest, by simp only [List.length_cons]; omega⟩)
      else (none, .all (sign :: a :: b :: ':' :: c :: d :: rest))
    | _, _ => (none, .all (sign :: a :: b :: ':' :: c :: d :: rest))
  | other => (none, .all other)

/-! ## Dates -/

/-- A date, if a year, a month and a day of at most 31 are spelled. -/
def date? : (text : List Char) → Option (Read Date text)
  | a :: b :: c :: d :: '-' :: e :: f :: '-' :: g :: h :: rest => do
    let century ← pair? 0 99 a b
    let year ← pair? 0 99 c d
    let month ← pair? 1 12 e f
    let day ← pair? 1 31 g h
    return ⟨⟨century * 100 + year, month, day⟩, rest, by simp only [List.length_cons]; omega⟩
  | _ => none

/-- The time that may follow a date, after a `T` or a space. -/
def timeAfterDate? : (text : List Char) → Option (Read Time text)
  | c :: rest =>
    if c = 'T' ∨ c = 't' ∨ c = ' ' then (time? rest).map (·.past [c]) else none
  | [] => none

/-- A date, or a moment that starts with one. -/
def moment? (text : List Char) : Option (Reading Value text) := do
  let ⟨date, rest, h⟩ ← date? text
  if !date.isValid then some (.error .badDate)
  else
    match timeAfterDate? rest with
    | none => some (.ok ⟨.date date, rest, h⟩)
    | some ⟨time, after, h'⟩ =>
      let (said, ⟨last, h''⟩) := offset after
      some (.ok ⟨.moment ⟨date, time, said⟩, last, by omega⟩)

/-! ## Numbers -/

/-- Digits of some kind, each after at most one underscore, and what follows them. -/
def moreDigits (isDigit : Char → Bool) : (text : List Char) → List Char × Tail text
  | [] => ([], .all [])
  | '_' :: c :: rest =>
    if isDigit c then
      let (digits, tail) := moreDigits isDigit rest
      (c :: digits, (tail.behind c).behind '_')
    else ([], .all ('_' :: c :: rest))
  | c :: rest =>
    if isDigit c then
      let (digits, tail) := moreDigits isDigit rest
      (c :: digits, tail.behind c)
    else ([], .all (c :: rest))

/-- At least one digit of some kind. -/
def digits? (isDigit : Char → Bool) : (text : List Char) → Option (Read (List Char) text)
  | [] => none
  | c :: rest =>
    if isDigit c then
      let (digits, tail) := moreDigits isDigit rest
      some (.ofTail c tail (c :: digits))
    else none

def isOctal (c : Char) : Bool := '0' ≤ c && c ≤ '7'

def isBinary (c : Char) : Bool := c == '0' || c == '1'

def ofBase (base : Nat) (digits : List Char) : Nat :=
  digits.foldl (fun n c => n * base + Url.hexValue c) 0

/-- A whole number in another base: `0x`, `0o` or `0b` and digits. -/
def basedInteger? : (text : List Char) → Option (Read Int text)
  | '0' :: 'x' :: rest =>
    (digits? Url.isHexDigit rest).map fun r => (r.map fun d => (ofBase 16 d : Int)).past ['0', 'x']
  | '0' :: 'o' :: rest =>
    (digits? isOctal rest).map fun r => (r.map fun d => (ofBase 8 d : Int)).past ['0', 'o']
  | '0' :: 'b' :: rest =>
    (digits? isBinary rest).map fun r => (r.map fun d => (ofBase 2 d : Int)).past ['0', 'b']
  | _ => none

/-- The digits after a decimal point, if there are any. -/
def fractionDigits (text : List Char) : List Char × Tail text :=
  match text with
  | '.' :: rest =>
    match digits? Char.isDigit rest with
    | some read => (read.value, read.tail.behind '.')
    | none => ([], .all ('.' :: rest))
  | other => ([], .all other)

/-- The sign in front of a number, and whether it is a minus. -/
def sign (text : List Char) : Bool × Tail text :=
  match text with
  | '-' :: rest => (true, (Tail.all rest).behind '-')
  | '+' :: rest => (false, (Tail.all rest).behind '+')
  | other => (false, .all other)

/-- The power of ten after an `e`, if there is one. -/
def power (text : List Char) : Option Int × Tail text :=
  match text with
  | e :: rest =>
    if e = 'e' ∨ e = 'E' then
      let (negative, ⟨unsigned, h⟩) := sign rest
      match digits? Char.isDigit unsigned with
      | some read =>
        let size : Int := ofBase 10 read.value
        (some (if negative then -size else size), (read.tail.within h).behind e)
      | none => (none, .all (e :: rest))
    else (none, .all (e :: rest))
  | [] => (none, .all [])

/-- The digits of the whole part of a number: a zero alone, or digits that do not start with one. -/
def wholeDigits? : (text : List Char) → Option (Read (List Char) text)
  | '0' :: rest => some (.head '0' rest ['0'])
  | text => digits? Char.isDigit text

/-- A number in decimal. It is a whole number if neither a fraction nor a power of ten follows. -/
def decimal? (text : List Char) : Option (Reading Value text) := do
  let (negative, ⟨unsigned, h⟩) := sign text
  let ⟨whole, afterWhole, h1⟩ ← wholeDigits? unsigned
  let (places, ⟨afterPlaces, h2⟩) := fractionDigits afterWhole
  let (exponent, ⟨after, h3⟩) := power afterPlaces
  if places.isEmpty ∧ exponent.isNone then
    if whole.length > Text.digitLimit then some (.error (.tooManyDigits whole.length))
    else
      let size : Int := ofBase 10 whole
      some (.ok ⟨.integer (if negative then -size else size), after, by omega⟩)
  else
    let digits := ofBase 10 (whole ++ places)
    let number := Binary64.ofDecimal negative digits (exponent.getD 0 - places.length)
    some (.ok ⟨.number number, after, by omega⟩)

/-- The numbers that are spelled as words. -/
def wordNumber? (text : List Char) : Option (Read Binary64 text) :=
  let (negative, ⟨unsigned, h⟩) := sign text
  match unsigned with
  | 'i' :: 'n' :: 'f' :: rest =>
    some ⟨.infinite negative, rest, by simp only [List.length_cons] at h; omega⟩
  | 'n' :: 'a' :: 'n' :: rest =>
    some ⟨.notANumber, rest, by simp only [List.length_cons] at h; omega⟩
  | _ => none

/-- A truth value. -/
def truth? : (text : List Char) → Option (Read Bool text)
  | 't' :: 'r' :: 'u' :: 'e' :: rest => some ⟨true, rest, by simp only [List.length_cons]; omega⟩
  | 'f' :: 'a' :: 'l' :: 's' :: 'e' :: rest =>
    some ⟨false, rest, by simp only [List.length_cons]; omega⟩
  | _ => none

/-- A date, a time or a number. -/
def scalar (text : List Char) : Reading Value text :=
  match moment? text with
  | some reading => reading
  | none =>
    match time? text with
    | some read => .ok (read.map .time)
    | none =>
      match basedInteger? text with
      | some read => .ok (read.map .integer)
      | none =>
        match decimal? text with
        | some reading => reading
        | none =>
          match wordNumber? text with
          | some read => .ok (read.map .number)
          | none => .error (.unexpected "a value")

end JvmClasspath.Toml
