/-!
# Star patterns

A pattern is a text in which every star stands for any characters of one line; all else stands for
itself. A pattern fits a name as a whole, except that one line break at the end of the name may be
left over.

Whether a pattern fits is worked out from its end, for every tail of the name at once: the row of a
pattern says, tail by tail, whether the pattern fits that tail, and the row of a longer pattern
follows from it. So the work is the product of the two lengths, however many stars there are.
-/

namespace JvmClasspath.Glob

/-- Whether nothing is left of a name but a line break. -/
def isEnd : List Char → Bool
  | [] => true
  | c :: rest => c = '\n' && rest.isEmpty

/-- Whether a text has a tail of some kind with no line break before it. -/
def afterAny (tail : List Char → Bool) : List Char → Bool
  | [] => tail []
  | c :: rest => tail (c :: rest) || (c ≠ '\n' && afterAny tail rest)

/-- Whether a text starts with a character and goes on with a tail of some kind. -/
def afterChar (p : Char) (tail : List Char → Bool) : List Char → Bool
  | [] => false
  | c :: rest => p = c && tail rest

/-- Whether a pattern fits a text, read off the pattern. -/
def fits : List Char → List Char → Bool
  | [] => isEnd
  | p :: pattern => if p = '*' then afterAny (fits pattern) else afterChar p (fits pattern)

/-- Which tails the empty pattern fits. -/
def endRow : List Char → List Bool
  | [] => [true]
  | c :: rest => (c = '\n' && rest.isEmpty) :: endRow rest

/-- Which tails a pattern fits that starts with a literal character, given the row of what follows
it. -/
def literalRow (p : Char) : List Char → List Bool → List Bool
  | c :: rest, _ :: next => (p = c && next.headD false) :: literalRow p rest next
  | _, _ => [false]

/-- Which tails a pattern fits that starts with a star, given the row of what follows it. -/
def starRow : List Char → List Bool → List Bool
  | c :: rest, here :: next =>
    let later := starRow rest next
    (here || (c ≠ '\n' && later.headD false)) :: later
  | _, row => row

/-- Which tails of a text a pattern fits, the whole text first. -/
def row (text : List Char) (pattern : List Char) : List Bool :=
  pattern.foldr (fun p next => if p = '*' then starRow text next else literalRow p text next)
    (endRow text)

/-- Whether a pattern fits a name. -/
def accepts (pattern name : String) : Bool :=
  (row name.toList pattern.toList).headD false

example : accepts "a*b*" "a-b-c" ∧ accepts "a" "a\n" ∧ ¬ accepts "a*" "a\nb" := by decide +kernel

/-- The tails of a text, the whole text first and the empty one last. -/
def tails : List Char → List (List Char)
  | [] => [[]]
  | c :: rest => (c :: rest) :: tails rest

theorem headD_map_tails (f : List Char → Bool) (text : List Char) :
    ((tails text).map f).headD false = f text := by
  cases text <;> rfl

theorem endRow_eq (text : List Char) : endRow text = (tails text).map isEnd := by
  induction text with
  | nil => rfl
  | cons c rest ih => simp [endRow, tails, isEnd, ih]

theorem literalRow_eq (p : Char) (f : List Char → Bool) (text : List Char) :
    literalRow p text ((tails text).map f) = (tails text).map (afterChar p f) := by
  induction text with
  | nil => rfl
  | cons c rest ih => simp only [tails, List.map_cons, literalRow, ih, headD_map_tails, afterChar]

theorem starRow_eq (f : List Char → Bool) (text : List Char) :
    starRow text ((tails text).map f) = (tails text).map (afterAny f) := by
  induction text with
  | nil => rfl
  | cons c rest ih => simp only [tails, List.map_cons, starRow, ih, headD_map_tails, afterAny]

/-- The row of a pattern says of every tail whether the pattern fits it. -/
theorem row_eq (text pattern : List Char) : row text pattern = (tails text).map (fits pattern) := by
  induction pattern with
  | nil => exact endRow_eq text
  | cons p pattern ih =>
    rw [row] at ih
    rw [row, List.foldr_cons, ih, fits]
    split
    · exact starRow_eq _ text
    · exact literalRow_eq p _ text

theorem accepts_eq_fits (pattern name : String) :
    accepts pattern name = fits pattern.toList name.toList := by
  rw [accepts, row_eq, headD_map_tails]

end JvmClasspath.Glob
