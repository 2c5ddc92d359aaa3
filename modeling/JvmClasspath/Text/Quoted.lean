import JvmClasspath.Text.Printable

/-!
# Quoted text

A text in quotes on one line, as error messages show paths and answers, and as lists and tables
show their texts. The quote is an apostrophe, unless the text has apostrophes and no double quotes.
The quote and the backslash are escaped, and so is every character that is not printable.
-/

namespace JvmClasspath.Text

/-- The lower-case hexadecimal digits of a number, with zeros in front up to a width. -/
def hexDigits (width number : Nat) : List Char :=
  let digits := Nat.toDigits 16 number
  List.replicate (width - digits.length) '0' ++ digits

/-- The quote that needs no escape, if there is one. -/
def quoteFor (text : List Char) : Char :=
  if '\'' ∈ text ∧ '"' ∉ text then '"' else '\''

/-- One character between quotes. -/
def quotedChar (quote c : Char) : List Char :=
  if c = quote ∨ c = '\\' then ['\\', c]
  else if c = '\n' then ['\\', 'n']
  else if c = '\r' then ['\\', 'r']
  else if c = '\t' then ['\\', 't']
  else if isPrintable c then [c]
  else if c.toNat < 0x100 then '\\' :: 'x' :: hexDigits 2 c.toNat
  else if c.toNat < 0x10000 then '\\' :: 'u' :: hexDigits 4 c.toNat
  else '\\' :: 'U' :: hexDigits 8 c.toNat

/-- A text in quotes, on one line. -/
def quoted (text : String) : String :=
  let quote := quoteFor text.toList
  String.ofList (quote :: (text.toList.flatMap (quotedChar quote) ++ [quote]))

example : quoted "a'b" = "\"a'b\"" := by decide +kernel
example : quoted "a'\"b\n" = "'a\\'\"b\\n'" := by decide +kernel

end JvmClasspath.Text
