import JvmClasspath.Text.Blank

/-!
# Whole numbers typed by hand

The reader of a whole number is lenient: blanks around it other than the information separators, a
sign, zeros in front, single underscores between digits, and the decimal digits of every script.
-/

namespace JvmClasspath.Text

/-- The zeros of the scripts that have decimal digits, in Unicode 14.0. The digits one to nine
follow each of them. -/
def digitZeros : List Nat := [
  0x30, 0x660, 0x6F0, 0x7C0, 0x966, 0x9E6, 0xA66, 0xAE6, 0xB66, 0xBE6, 0xC66, 0xCE6, 0xD66, 0xDE6,
  0xE50, 0xED0, 0xF20, 0x1040, 0x1090, 0x17E0, 0x1810, 0x1946, 0x19D0, 0x1A80, 0x1A90, 0x1B50,
  0x1BB0, 0x1C40, 0x1C50, 0xA620, 0xA8D0, 0xA900, 0xA9D0, 0xA9F0, 0xAA50, 0xABF0, 0xFF10, 0x104A0,
  0x10D30, 0x11066, 0x110F0, 0x11136, 0x111D0, 0x112F0, 0x11450, 0x114D0, 0x11650, 0x116C0, 0x11730,
  0x118E0, 0x11950, 0x11C50, 0x11D50, 0x11DA0, 0x16A60, 0x16AC0, 0x16B50, 0x1D7CE, 0x1D7D8, 0x1D7E2,
  0x1D7EC, 0x1D7F6, 0x1E140, 0x1E2F0, 0x1E950, 0x1FBF0]

/-- The value of a decimal digit of any script. -/
def digitValue? (c : Char) : Option Nat :=
  (digitZeros.find? fun first => first ≤ c.toNat && c.toNat < first + 10).map (c.toNat - ·)

/-- More digits, each after at most one underscore, added to the number read so far. -/
def digitsAfter (number : Nat) : List Char → Option Nat
  | [] => some number
  | '_' :: c :: rest => do digitsAfter (number * 10 + (← digitValue? c)) rest
  | c :: rest => do digitsAfter (number * 10 + (← digitValue? c)) rest

/-- A digit and what follows it. -/
def natural? : List Char → Option Nat
  | [] => none
  | c :: rest => do digitsAfter (← digitValue? c) rest

/-- How many digits a whole number may have that is read from or written to decimal text. -/
def digitLimit : Nat := 4300

/-- The blanks that may stand around a number. -/
def isPadding (c : Char) : Bool := isBlank c && !(0x1C ≤ c.toNat && c.toNat ≤ 0x1F)

/-- A whole number of at most `digitLimit` digits. -/
def integer? (text : String) : Option Int :=
  let body := strippedOf isPadding text.toList
  if (body.filter fun c => (digitValue? c).isSome).length > digitLimit then none
  else
    match body with
    | '-' :: rest => (natural? rest).map fun number => -(number : Int)
    | '+' :: rest => (natural? rest).map fun number => (number : Int)
    | rest => (natural? rest).map fun number => (number : Int)

example : integer? " -1_0 " = some (-10) := by decide +kernel
example : integer? "1__0" = none ∧ integer? "1\x1c" = none := by decide +kernel

end JvmClasspath.Text
