import JvmClasspath.Text.Utf8
import JvmClasspath.Url.Address

/-!
# Percent encoding

A percent sign and two hexadecimal digits stand for a byte. Decoding a text replaces these triples
and leaves all else, also a percent sign without its digits. The bytes of one unbroken run of ASCII
characters are read together as UTF-8; a character beyond ASCII stands for itself and ends the run.
-/

namespace JvmClasspath.Url

def hexValue (c : Char) : Nat :=
  if c.isDigit then c.toNat - '0'.toNat
  else if 'a' ≤ c then c.toNat - 'a'.toNat + 10
  else c.toNat - 'A'.toNat + 10

/-- The bytes of a text in which triples stand for bytes. -/
def percentBytes : List Char → List UInt8
  | '%' :: a :: b :: rest =>
    if isHexDigit a && isHexDigit b then
      UInt8.ofNat (hexValue a * 16 + hexValue b) :: percentBytes rest
    else 0x25 :: percentBytes (a :: b :: rest)
  | c :: rest => String.utf8EncodeChar c ++ percentBytes rest
  | [] => []

/-- The text with its triples decoded. A character beyond ASCII starts with a byte that continues no
other, so the runs between such characters need not be cut out. -/
def percentDecode (text : List Char) : List Char :=
  Utf8.decodeLossy (percentBytes text)

/-- The characters that stand for themselves in an encoded path. -/
def isUnreserved (c : Char) : Bool :=
  c.isAlphanum || c == '_' || c == '.' || c == '-' || c == '~' || c == '/'

/-- The upper-case hexadecimal digit of a number below sixteen. -/
def hexDigit (n : Nat) : Char :=
  if n < 10 then Char.ofNat ('0'.toNat + n) else Char.ofNat ('A'.toNat + (n - 10))

def percentByte (byte : UInt8) : List Char :=
  ['%', hexDigit (byte.toNat / 16), hexDigit (byte.toNat % 16)]

/-- A path with every character encoded that does not stand for itself. -/
def percentEncode (text : List Char) : List Char :=
  text.flatMap fun c =>
    if isUnreserved c then [c] else (String.utf8EncodeChar c).flatMap percentByte

end JvmClasspath.Url
