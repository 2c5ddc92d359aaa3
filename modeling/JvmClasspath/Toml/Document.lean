import JvmClasspath.Toml.Scalar

/-!
# TOML documents

A document is a sequence of statements, one a line: a header that opens a table or adds one to an
array, or a key with a value, which goes into the table of the last header. Values nest: arrays may
run over several lines, inline tables may not.
-/

namespace JvmClasspath.Toml

/-! ## Keys -/

def isBareKeyChar (c : Char) : Bool := c.isAlphanum || c == '-' || c == '_'

/-- One part of a key: bare, or a text on one line. -/
def keyPart : (text : List Char) → Reading String text
  | '\'' :: rest => (literalLine rest).map fun r => (r.map String.ofList).past ['\'']
  | '"' :: rest => (basicLine rest).map fun r => (r.map String.ofList).past ['"']
  | c :: rest =>
    if isBareKeyChar c then
      let name := String.ofList (c :: rest.takeWhile isBareKeyChar)
      .ok (.ofTail c ((Tail.all rest).dropWhile isBareKeyChar) name)
    else .error (.unexpected "a key")
  | [] => .error (.unexpected "a key")

/-- A key of one or more parts with dots between them, and the blanks after it. -/
def key (text : List Char) : Reading (List String) text := do
  let ⟨part, afterPart, h1⟩ ← keyPart text
  have h2 := skipBlanks_length_le afterPart
  match take? '.' (skipBlanks afterPart) with
  | none => return ⟨[part], skipBlanks afterPart, by omega⟩
  | some ⟨_, rest, h3⟩ =>
    have h4 := skipBlanks_length_le rest
    let ⟨parts, after, h⟩ ← key (skipBlanks rest)
    return ⟨part :: parts, after, by omega⟩
termination_by text.length

/-- A key, the equals sign after it, and the blanks around that. -/
def keyAndSign (text : List Char) : Reading (List String) text := do
  let ⟨parts, afterKey, h1⟩ ← key text
  match take? '=' afterKey with
  | none => throw (.unexpected "'=' after a key")
  | some ⟨_, rest, h2⟩ =>
    have h3 := skipBlanks_length_le rest
    return ⟨parts, skipBlanks rest, by omega⟩

/-! ## Values -/

/-- A text on one line or several. A line break right after three opening quotes does not count. -/
def quotedText? : (text : List Char) → Option (Reading String text)
  | '"' :: '"' :: '"' :: '\n' :: rest =>
    some ((basicLines rest).map fun r => (r.map String.ofList).past ['"', '"', '"', '\n'])
  | '"' :: '"' :: '"' :: rest =>
    some ((basicLines rest).map fun r => (r.map String.ofList).past ['"', '"', '"'])
  | '"' :: rest => some ((basicLine rest).map fun r => (r.map String.ofList).past ['"'])
  | '\'' :: '\'' :: '\'' :: '\n' :: rest =>
    some ((literalLines rest).map fun r => (r.map String.ofList).past ['\'', '\'', '\'', '\n'])
  | '\'' :: '\'' :: '\'' :: rest =>
    some ((literalLines rest).map fun r => (r.map String.ofList).past ['\'', '\'', '\''])
  | '\'' :: rest => some ((literalLine rest).map fun r => (r.map String.ofList).past ['\''])
  | _ => none

mutual

/-- A value. -/
def value (text : List Char) : Reading Value text := do
  if let some ⟨_, rest, h1⟩ := take? '[' text then
    let ⟨start, h2⟩ ← skipLines rest
    match take? ']' start with
    | some ⟨_, after, h3⟩ => return ⟨.array [], after, by omega⟩
    | none =>
      let ⟨items, after, h3⟩ ← arrayItems start
      return ⟨.array items, after, by omega⟩
  else if let some ⟨_, rest, h1⟩ := take? '\x7b' text then
    have h2 := skipBlanks_length_le rest
    match take? '\x7d' (skipBlanks rest) with
    | some ⟨_, after, h3⟩ => return ⟨.table [], after, by omega⟩
    | none =>
      let ⟨entries, after, h3⟩ ← inlineEntries [] (skipBlanks rest)
      return ⟨.table (slotsToEntries entries), after, by omega⟩
  else
    match quotedText? text with
    | some reading => reading.map (·.map .text)
    | none =>
      match truth? text with
      | some read => return read.map .truth
      | none => scalar text
termination_by (text.length, 0)

/-- The items of an array from one of them on, and the bracket that closes it. -/
def arrayItems (text : List Char) : Reading (List Value) text := do
  let ⟨item, afterItem, h1⟩ ← value text
  let ⟨start, h2⟩ ← skipLines afterItem
  if let some ⟨_, after, h3⟩ := take? ']' start then
    return ⟨[item], after, by omega⟩
  else if let some ⟨_, rest, h3⟩ := take? ',' start then
    let ⟨next, h4⟩ ← skipLines rest
    match take? ']' next with
    | some ⟨_, after, h5⟩ => return ⟨[item], after, by omega⟩
    | none =>
      let ⟨items, after, h5⟩ ← arrayItems next
      return ⟨item :: items, after, by omega⟩
  else throw (.unexpected "',' or ']' after an item")
termination_by (text.length, 1)

/-- The entries of an inline table from one of them on, and the brace that closes it. -/
def inlineEntries (entries : Slots) (text : List Char) : Reading Slots text := do
  let ⟨name, afterKey, h1⟩ ← keyAndSign text
  let ⟨given, afterValue, h2⟩ ← value afterKey
  let entries ← Slots.assign given name entries
  have h3 := skipBlanks_length_le afterValue
  if let some ⟨_, after, h4⟩ := take? '\x7d' (skipBlanks afterValue) then
    return ⟨entries, after, by omega⟩
  else if let some ⟨_, rest, h4⟩ := take? ',' (skipBlanks afterValue) then
    have h5 := skipBlanks_length_le rest
    let ⟨all, after, h⟩ ← inlineEntries entries (skipBlanks rest)
    return ⟨all, after, by omega⟩
  else throw (.unexpected "',' or a closing brace after an entry")
termination_by (text.length, 1)

end

/-! ## Statements -/

/-- What has been read of a document, and the header whose table keys go into. -/
structure Draft where
  entries : Slots
  header : List String

/-- The key of a header and the bracket that closes it, and what is to be done about it. -/
def headerKey (change : List String → Except Fault Slots) (text : List Char) :
    Reading Draft text := do
  have h1 := skipBlanks_length_le text
  let ⟨name, afterKey, h2⟩ ← key (skipBlanks text)
  let entries ← change name
  match take? ']' afterKey with
  | some ⟨_, after, h3⟩ => return ⟨⟨entries, name⟩, after, by omega⟩
  | none => throw (.unexpected "']' after a header")

/-- A header, after its first bracket. -/
def header (draft : Draft) (text : List Char) : Reading Draft text := do
  match take? '[' text with
  | none => headerKey draft.entries.declare text
  | some ⟨_, rest, h1⟩ =>
    let ⟨next, afterOne, h2⟩ ← headerKey draft.entries.append rest
    match take? ']' afterOne with
    | some ⟨_, after, h3⟩ => return ⟨next, after, by omega⟩
    | none => throw (.unexpected "']]' after a header")

/-- A key with its value. -/
def assignment (draft : Draft) (text : List Char) : Reading Draft text := do
  let ⟨name, afterKey, h1⟩ ← keyAndSign text
  let ⟨given, after, h2⟩ ← value afterKey
  let entries ← Slots.along draft.header (Slots.assign given name) draft.entries
  return ⟨{ draft with entries := entries }, after, by omega⟩

/-- What a line says before its comment: nothing, a header, or a key with its value. -/
def statement (draft : Draft) (text : List Char) : Except Fault (Draft × Tail text) :=
  match text with
  | [] => .ok (draft, .all [])
  | '\n' :: rest => .ok (draft, .all ('\n' :: rest))
  | '#' :: rest => .ok (draft, .all ('#' :: rest))
  | '[' :: rest => (header draft rest).map fun r => (r.value, r.tail.behind '[')
  | c :: rest => (assignment draft (c :: rest)).map fun r => (r.value, r.tail)

/-- The draft after the statements of a text. -/
def statements (draft : Draft) (text : List Char) : Except Fault Draft := do
  have h1 := skipBlanks_length_le text
  let (next, ⟨afterStatement, h2⟩) ← statement draft (skipBlanks text)
  have h3 := skipBlanks_length_le afterStatement
  let ⟨lineEnd, h4⟩ ← skipComment (skipBlanks afterStatement)
  match take? '\n' lineEnd with
  | some ⟨_, rest, h5⟩ =>
    have : rest.length < text.length := by omega
    statements next rest
  | none =>
    if lineEnd.isEmpty then return next
    else throw (.unexpected "the end of the line after a statement")
termination_by text.length

/-- A text with every carriage return before a line break left out. -/
def withPlainBreaks : List Char → List Char
  | '\r' :: '\n' :: rest => '\n' :: withPlainBreaks rest
  | c :: rest => c :: withPlainBreaks rest
  | [] => []

/-- The entries of the document that a text spells. -/
def parse (text : String) : Except Fault (List (String × Value)) := do
  let draft ← statements ⟨[], []⟩ (withPlainBreaks text.toList)
  return slotsToEntries draft.entries

end JvmClasspath.Toml
