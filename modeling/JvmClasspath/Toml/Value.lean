import JvmClasspath.Binary64
import JvmClasspath.Text.Integer
import JvmClasspath.Text.Quoted

/-!
# Values of a TOML document

Where a setting lists its locations, each item is taken as text. A text stands for itself, a number
is written in decimal, a date as year, month and day. Inside an item that is itself a list or a
table, values are written in the form that says what they are: texts in quotes, dates and times by
their parts.
-/

namespace JvmClasspath.Toml

structure Date where
  year : Nat
  month : Nat
  day : Nat
deriving DecidableEq

structure Time where
  hour : Nat
  minute : Nat
  second : Nat
  microsecond : Nat
deriving DecidableEq

/-- A moment may say how many minutes its clock is ahead of universal time. -/
structure Moment where
  date : Date
  time : Time
  offset : Option Int
deriving DecidableEq

inductive Value where
  | text (text : String)
  | integer (number : Int)
  | number (number : Binary64)
  | truth (truth : Bool)
  | date (date : Date)
  | time (time : Time)
  | moment (moment : Moment)
  | array (items : List Value)
  | table (entries : List (String × Value))

namespace Date

def isLeapYear (year : Nat) : Bool :=
  year % 4 = 0 && (year % 100 ≠ 0 || year % 400 = 0)

def daysIn (year month : Nat) : Nat :=
  if month = 2 then if isLeapYear year then 29 else 28
  else if month ∈ [4, 6, 9, 11] then 30
  else 31

/-- Whether the calendar has this day. There is no year zero. -/
def isValid (d : Date) : Bool :=
  1 ≤ d.year && 1 ≤ d.month && d.month ≤ 12 && 1 ≤ d.day && d.day ≤ daysIn d.year d.month

end Date

/-! ## Writing -/

/-- A number with zeros in front up to a width. -/
def padded (width number : Nat) : String :=
  let digits := Nat.toDigits 10 number
  String.ofList (List.replicate (width - digits.length) '0' ++ digits)

def Date.plain (d : Date) : String :=
  padded 4 d.year ++ "-" ++ padded 2 d.month ++ "-" ++ padded 2 d.day

def Time.plain (t : Time) : String :=
  padded 2 t.hour ++ ":" ++ padded 2 t.minute ++ ":" ++ padded 2 t.second ++
    if t.microsecond = 0 then "" else "." ++ padded 6 t.microsecond

def plainOffset (minutes : Int) : String :=
  (if minutes < 0 then "-" else "+") ++ padded 2 (minutes.natAbs / 60) ++ ":" ++
    padded 2 (minutes.natAbs % 60)

def Moment.plain (m : Moment) : String :=
  m.date.plain ++ " " ++ m.time.plain ++ (m.offset.map plainOffset).getD ""

def commas (parts : List String) : String := String.intercalate ", " parts

def numbers (parts : List Nat) : List String := parts.map toString

/-- The parts of a time; what is zero at the end is left out, but not the minutes. -/
def Time.parts (t : Time) : List Nat :=
  if t.microsecond ≠ 0 then [t.hour, t.minute, t.second, t.microsecond]
  else if t.second ≠ 0 then [t.hour, t.minute, t.second]
  else [t.hour, t.minute]

def Date.parts (d : Date) : List Nat := [d.year, d.month, d.day]

/-- A length of time in whole days and seconds, the seconds never negative. -/
def shownMinutes (minutes : Int) : String :=
  let seconds := minutes * 60
  let days := seconds.fdiv 86400
  let rest := seconds.fmod 86400
  let parts := (if days = 0 then [] else [s!"days={days}"]) ++
    if rest = 0 then [] else [s!"seconds={rest}"]
  "datetime.timedelta(" ++ (if parts.isEmpty then "0" else commas parts) ++ ")"

def shownOffset (minutes : Int) : String :=
  if minutes = 0 then "datetime.timezone.utc"
  else "datetime.timezone(" ++ shownMinutes minutes ++ ")"

def Moment.shown (m : Moment) : String :=
  let offset := (m.offset.map fun minutes => ["tzinfo=" ++ shownOffset minutes]).getD []
  "datetime.datetime(" ++ commas (numbers (m.date.parts ++ m.time.parts) ++ offset) ++ ")"

def shownTruth (truth : Bool) : String := if truth then "True" else "False"

namespace Value

mutual

/-- A value in the form that says what it is. -/
def shown : Value → String
  | text s => Text.quoted s
  | integer n => toString n
  | number x => x.text
  | truth b => shownTruth b
  | date d => "datetime.date(" ++ commas (numbers d.parts) ++ ")"
  | time t => "datetime.time(" ++ commas (numbers t.parts) ++ ")"
  | moment m => m.shown
  | array items => "[" ++ commas (shownItems items) ++ "]"
  | table entries => "\x7b" ++ commas (shownEntries entries) ++ "\x7d"

def shownItems : List Value → List String
  | [] => []
  | item :: rest => item.shown :: shownItems rest

def shownEntries : List (String × Value) → List String
  | [] => []
  | (key, value) :: rest => (Text.quoted key ++ ": " ++ value.shown) :: shownEntries rest

end

/-- A value as text. -/
def plain : Value → String
  | text s => s
  | date d => d.plain
  | time t => t.plain
  | moment m => m.plain
  | other => other.shown

mutual

/-- Whether no whole number in a value has more digits than are written. -/
def isWritable : Value → Bool
  | integer n => n.natAbs < 10 ^ Text.digitLimit
  | array items => areWritable items
  | table entries => entriesAreWritable entries
  | _ => true

def areWritable : List Value → Bool
  | [] => true
  | item :: rest => item.isWritable && areWritable rest

def entriesAreWritable : List (String × Value) → Bool
  | [] => true
  | (_, value) :: rest => value.isWritable && entriesAreWritable rest

end

end Value

end JvmClasspath.Toml
