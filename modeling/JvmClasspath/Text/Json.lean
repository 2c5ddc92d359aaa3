import JvmClasspath.Text.Quoted

/-!
# Texts in JSON

A text in double quotes. The quote, the backslash and the control characters are escaped; all other
characters stand as they are.
-/

namespace JvmClasspath.Text

def jsonChar (c : Char) : List Char :=
  if c = '"' then ['\\', '"']
  else if c = '\\' then ['\\', '\\']
  else if c = '\x08' then ['\\', 'b']
  else if c = '\x0c' then ['\\', 'f']
  else if c = '\n' then ['\\', 'n']
  else if c = '\r' then ['\\', 'r']
  else if c = '\t' then ['\\', 't']
  else if c.toNat < 0x20 then '\\' :: 'u' :: hexDigits 4 c.toNat
  else [c]

/-- A text as a JSON string. -/
def json (text : String) : String :=
  String.ofList ('"' :: (text.toList.flatMap jsonChar ++ ['"']))

/-- A text as a JSON string, or `null`. -/
def json? (text : Option String) : String := (text.map json).getD "null"

end JvmClasspath.Text
