import JvmClasspath.Toml.Value

/-!
# Tables under construction

A document fills one tree of tables, statement by statement. Who opened a table decides who may
still add to it:

- a table that came into being on the way to a header is `implied`: a header may still declare it,
  and dotted keys may pass through it;
- a `declared` table has had its header, and is closed to dotted keys of other tables;
- a `dotted` table was opened by a dotted key: more dotted keys may add to it, a header may not
  declare it, but may open tables inside it;
- an inline table or array is a value, and closed to everything.

Each header of an array of tables opens a new table at its end, and only that one can be reached.
-/

namespace JvmClasspath.Toml

/-- What is wrong with a document. -/
inductive Fault where
  | unexpected (what : String)
  | badCharacter
  | unterminated
  | badEscape
  | badDate
  | declaredTwice (key : String)
  | closed (key : String)
  | duplicate (key : String)
  /-- A whole number with more digits than are read. -/
  | tooManyDigits (count : Nat)
deriving DecidableEq, Repr

def Fault.message : Fault → String
  | unexpected what => "expected " ++ what
  | badCharacter => "a control character is not allowed here"
  | unterminated => "the text is not closed"
  | badEscape => "unknown escape sequence"
  | badDate => "the calendar has no such day"
  | declaredTwice key => "table " ++ key ++ " is declared twice"
  | closed key => key ++ " cannot be extended"
  | duplicate key => "key " ++ key ++ " is given twice"
  | tooManyDigits count => s!"a number has {count} digits"

/-- Who opened a table. -/
inductive Opening where
  | implied
  | declared
  | dotted
deriving DecidableEq, Repr

/-- What a key leads to while the document is read. An array of tables keeps its last apart. -/
inductive Slot where
  | value (value : Value)
  | table (opening : Opening) (entries : List (String × Slot))
  | tables (before : List (List (String × Slot))) (last : List (String × Slot))

abbrev Slots := List (String × Slot)

namespace Slots

/-- The entries with what `change` makes of the one at `key`. A new key comes last. -/
def alter (key : String) (change : Option Slot → Except Fault Slot) : Slots → Except Fault Slots
  | [] => return [(key, ← change none)]
  | (other, slot) :: rest =>
    if other = key then return (key, ← change (some slot)) :: rest
    else return (other, slot) :: (← alter key change rest)

/-- What a header passes through on its way: any table, and the last table of an array. -/
def pass (key : String) (change : Slots → Except Fault Slots) : Option Slot → Except Fault Slot
  | none => return .table .implied (← change [])
  | some (.table opening entries) => return .table opening (← change entries)
  | some (.tables before last) => return .tables before (← change last)
  | some (.value _) => throw (.closed key)

/-- The entries after `change` has been made at the end of a path of keys. -/
def along : (path : List String) → (change : Slots → Except Fault Slots) → Slots →
    Except Fault Slots
  | [], change, entries => change entries
  | key :: rest, change, entries => alter key (pass key (along rest change)) entries

/-- What a header makes of its own table. -/
def declareSlot (key : String) : Option Slot → Except Fault Slot
  | none => return .table .declared []
  | some (.table .implied entries) => return .table .declared entries
  | some _ => throw (.declaredTwice key)

/-- What a header of an array of tables makes of its array. -/
def appendSlot (key : String) : Option Slot → Except Fault Slot
  | none => return .tables [] []
  | some (.tables before last) => return .tables (before ++ [last]) []
  | some _ => throw (.closed key)

/-- What a dotted key passes through: tables that no header has declared. -/
def open? (key : String) (change : Slots → Except Fault Slots) : Option Slot → Except Fault Slot
  | none => return .table .dotted (← change [])
  | some (.table .implied entries) => return .table .dotted (← change entries)
  | some (.table .dotted entries) => return .table .dotted (← change entries)
  | some _ => throw (.closed key)

/-- The entries with a value at a dotted key, which must be new. -/
def assign (value : Value) : (key : List String) → Slots → Except Fault Slots
  | [], entries => return entries
  | [name], entries =>
    alter name (fun
      | none => return .value value
      | some _ => throw (.duplicate name)) entries
  | name :: next :: rest, entries =>
    alter name (open? name (assign value (next :: rest))) entries

/-- The document after a header that declares a table. -/
def declare (entries : Slots) (header : List String) : Except Fault Slots :=
  match header.getLast? with
  | none => return entries
  | some key => along header.dropLast (alter key (declareSlot key)) entries

/-- The document after a header that adds a table to an array. -/
def append (entries : Slots) (header : List String) : Except Fault Slots :=
  match header.getLast? with
  | none => return entries
  | some key => along header.dropLast (alter key (appendSlot key)) entries

end Slots

mutual

/-- The value of what has been read. -/
def Slot.toValue : Slot → Value
  | .value value => value
  | .table _ entries => .table (slotsToEntries entries)
  | .tables before last => .array (tablesToValues before ++ [.table (slotsToEntries last)])

def slotsToEntries : List (String × Slot) → List (String × Value)
  | [] => []
  | (key, slot) :: rest => (key, slot.toValue) :: slotsToEntries rest

def tablesToValues : List (List (String × Slot)) → List Value
  | [] => []
  | entries :: rest => .table (slotsToEntries entries) :: tablesToValues rest

end

end JvmClasspath.Toml
