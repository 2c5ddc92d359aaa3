/-!
# Binary64 numbers

The numbers with 53 significant bits that a decimal numeral rounds to, and their decimal text. All
arithmetic is exact, on natural numbers: a positive number is a fraction, and both directions ask
where a fraction lies on a grid.

Reading takes the nearest number, a tie going to the even significand. Writing takes the fewest
digits that read back, and of several candidates with that many digits the nearest.
-/

namespace JvmClasspath

/-- A finite number is `± significand * 2 ^ exponent`. -/
inductive Binary64 where
  | finite (negative : Bool) (significand : Nat) (exponent : Int)
  | infinite (negative : Bool)
  | notANumber
deriving DecidableEq

/-- A positive fraction. -/
structure Ratio where
  num : Nat
  den : Nat
deriving DecidableEq

namespace Ratio

/-- `base ^ power` as a fraction. -/
def ofPower (base : Nat) (power : Int) : Ratio :=
  if 0 ≤ power then ⟨Nat.pow base power.toNat, 1⟩ else ⟨1, Nat.pow base (-power).toNat⟩

def mul (a b : Ratio) : Ratio := ⟨a.num * b.num, a.den * b.den⟩

def ofNat (n : Nat) : Ratio := ⟨n, 1⟩

def le (a b : Ratio) : Bool := a.num * b.den ≤ b.num * a.den

def lt (a b : Ratio) : Bool := a.num * b.den < b.num * a.den

/-- The distance between two fractions. -/
def distance (a b : Ratio) : Ratio :=
  ⟨(a.num * b.den - b.num * a.den) + (b.num * a.den - a.num * b.den), a.den * b.den⟩

def floor (a : Ratio) : Nat := a.num / a.den

/-- The nearest whole number, a tie going to the even one. -/
def round (a : Ratio) : Nat :=
  let low := a.num / a.den
  let twice := 2 * (a.num % a.den)
  if twice < a.den ∨ (twice = a.den ∧ low % 2 = 0) then low else low + 1

end Ratio

namespace Binary64

/-- The least exponent, that of the numbers close to zero. -/
def leastExponent : Int := -1074

/-- The greatest exponent of a finite number. -/
def greatestExponent : Int := 971

/-- The least significand that is too large: one of 54 bits. -/
def significandLimit : Nat := Nat.pow 2 53

/-- The number of this sign nearest to a positive fraction. -/
def ofRatio (negative : Bool) (a : Ratio) : Binary64 :=
  let start := max leastExponent ((a.num.log2 : Int) - a.den.log2 - 53)
  let candidates := [start, start + 1, start + 2].map fun q =>
    ((a.mul (Ratio.ofPower 2 (-q))).round, q)
  match candidates.find? fun (significand, _) => significand < significandLimit with
  | some (significand, q) =>
    if q > greatestExponent then infinite negative else finite negative significand q
  | none => infinite negative

/-- The number nearest to `± digits * 10 ^ power`. Beyond the range of the format the power is not
computed. -/
def ofDecimal (negative : Bool) (digits : Nat) (power : Int) : Binary64 :=
  if digits = 0 then finite negative 0 leastExponent
  else if power > 400 then infinite negative
  else if power + (Nat.toDigits 10 digits).length < -400 then finite negative 0 leastExponent
  else ofRatio negative ((Ratio.ofNat digits).mul (Ratio.ofPower 10 power))

/-- The fractions that a positive finite number stands for: those that round to it. -/
structure Interval where
  low : Ratio
  high : Ratio
  closed : Bool

def interval (significand : Nat) (exponent : Int) : Interval :=
  let unit := Ratio.ofPower 2 (exponent - 2)
  let below := if significand = significandLimit / 2 ∧ exponent > leastExponent then 1 else 2
  ⟨(Ratio.ofNat (4 * significand - below)).mul unit, (Ratio.ofNat (4 * significand + 2)).mul unit,
    significand % 2 = 0⟩

def Interval.contains (i : Interval) (a : Ratio) : Bool :=
  if i.closed then i.low.le a && a.le i.high else i.low.lt a && a.lt i.high

/-- The power of ten of the leading digit of a positive fraction. -/
def leadingPower (a : Ratio) : Int :=
  if a.den ≤ a.num then ((Nat.toDigits 10 a.floor).length : Int) - 1
  else
    match (List.range 400).find? fun k => a.den ≤ a.num * Nat.pow 10 k with
    | some k => -(k : Int)
    | none => 0

/-- The candidate with this many digits, if one of the two neighbours on that grid reads back: the
digits and the power of ten of the last one. Of two hits the nearer wins, and a tie goes to the even
one. -/
def candidate? (value : Ratio) (range : Interval) (lead : Int) (digits : Nat) :
    Option (Nat × Int) :=
  let power := lead + 1 - digits
  let unit := Ratio.ofPower 10 power
  let low := (value.mul (Ratio.ofPower 10 (-power))).floor
  let ofGrid := fun n => (Ratio.ofNat n).mul unit
  match range.contains (ofGrid low) && low != 0, range.contains (ofGrid (low + 1)) with
  | true, true =>
    let toLow := value.distance (ofGrid low)
    let toHigh := value.distance (ofGrid (low + 1))
    if toLow.lt toHigh || (toLow.le toHigh && low % 2 == 0) then some (low, power)
    else some (low + 1, power)
  | true, false => some (low, power)
  | false, true => some (low + 1, power)
  | false, false => none

/-- The digits of the shortest decimal that reads back as a positive finite number, without zeros at
the end, and the place of the point: the value is `0.digits * 10 ^ point`. -/
def shortest (significand : Nat) (exponent : Int) : List Char × Int :=
  let value := (Ratio.ofNat significand).mul (Ratio.ofPower 2 exponent)
  let range := interval significand exponent
  let lead := leadingPower value
  match (List.range 17).findSome? fun n => candidate? value range lead (n + 1) with
  | some (number, power) =>
    let digits := Nat.toDigits 10 number
    let kept := (digits.reverse.dropWhile (· = '0')).reverse
    (kept, power + digits.length)
  | none => (['0'], 1)

/-- How a number is written: positional while the point lies near the digits, with at least one
digit after it, else with an exponent of a sign and at least two digits. -/
def positionalFrom : Int := -3

def positionalTo : Int := 16

def textOfDigits (digits : List Char) (point : Int) : List Char :=
  if positionalFrom ≤ point ∧ point ≤ positionalTo then
    if point ≤ 0 then ['0', '.'] ++ List.replicate (-point).toNat '0' ++ digits
    else
      let whole := digits.take point.toNat
      let fraction := digits.drop point.toNat
      whole ++ List.replicate (point.toNat - digits.length) '0' ++ ['.'] ++
        (if fraction.isEmpty then ['0'] else fraction)
  else
    let exponent := point - 1
    let size := Nat.toDigits 10 exponent.natAbs
    digits.take 1 ++ (if digits.length > 1 then '.' :: digits.drop 1 else []) ++ ['e'] ++
      [if exponent < 0 then '-' else '+'] ++ List.replicate (2 - size.length) '0' ++ size

/-- The decimal text of a number. -/
def text : Binary64 → String
  | finite negative significand exponent =>
    let body :=
      if significand = 0 then ['0', '.', '0']
      else
        let (digits, point) := shortest significand exponent
        textOfDigits digits point
    String.ofList (if negative then '-' :: body else body)
  | infinite negative => if negative then "-inf" else "inf"
  | notANumber => "nan"

end Binary64

end JvmClasspath
