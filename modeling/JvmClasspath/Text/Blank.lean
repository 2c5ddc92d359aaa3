/-!
# Blank characters

The characters that count as white space: those with the Unicode property White_Space and the four
information separators U+001C to U+001F.
-/

namespace JvmClasspath.Text

def isBlank (c : Char) : Bool :=
  let code := c.toNat
  (0x09 ≤ code && code ≤ 0x0D) || (0x1C ≤ code && code ≤ 0x20) || code == 0x85 || code == 0xA0 ||
    code == 0x1680 || (0x2000 ≤ code && code ≤ 0x200A) || code == 0x2028 || code == 0x2029 ||
    code == 0x202F || code == 0x205F || code == 0x3000

/-- The characters without those of one class at both ends. -/
def strippedOf (p : Char → Bool) (text : List Char) : List Char :=
  ((text.dropWhile p).reverse.dropWhile p).reverse

/-- The characters without the blank ones at both ends. -/
def stripped (text : List Char) : List Char := strippedOf isBlank text

end JvmClasspath.Text
