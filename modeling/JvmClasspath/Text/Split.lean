/-!
# Text cut at a separator

Class path strings, dotted names, member names and file paths are all one text cut at one
character. A text with `n` separators has `n + 1` pieces, and some of them may be empty: nothing is
dropped here, so the pieces joined again give the text back. In turn, parts that do not hold the
separator are given back when they have been joined, unless there are none.

The functions on characters carry the definitions; those on `String` only wrap them.
-/

namespace JvmClasspath.Text

/-- The pieces between the occurrences of `separator`, in order. There is always at least one. -/
def pieces (separator : Char) : List Char → List (List Char)
  | [] => [[]]
  | c :: rest =>
    if c = separator then [] :: pieces separator rest
    else
      match pieces separator rest with
      | [] => [[c]]
      | piece :: others => (c :: piece) :: others

theorem pieces_ne_nil (separator : Char) (text : List Char) : pieces separator text ≠ [] := by
  cases text with
  | nil => simp [pieces]
  | cons c rest =>
    simp only [pieces]
    split
    · simp
    · split <;> simp

/-- Pieces written one after the other with `separator` between them. -/
def joined (separator : Char) : List (List Char) → List Char
  | [] => []
  | [piece] => piece
  | piece :: others => piece ++ separator :: joined separator others

/-- Cutting loses nothing. -/
@[simp] theorem joined_pieces (separator : Char) (text : List Char) :
    joined separator (pieces separator text) = text := by
  induction text with
  | nil => rfl
  | cons c rest ih =>
    have nonempty := pieces_ne_nil separator rest
    simp only [pieces]
    split
    · next same =>
      cases cut : pieces separator rest with
      | nil => exact absurd cut nonempty
      | cons piece others => simp [joined, ← cut, ih, same]
    · cases cut : pieces separator rest with
      | nil => exact absurd cut nonempty
      | cons piece others =>
        cases others with
        | nil => simpa [joined, cut] using ih
        | cons next others => simpa [joined, cut] using ih

/-- No piece holds the separator. -/
theorem separator_notMem_of_mem_pieces {separator : Char} {text piece : List Char}
    (mem : piece ∈ pieces separator text) : separator ∉ piece := by
  induction text generalizing piece with
  | nil => simp_all [pieces]
  | cons c rest ih =>
    simp only [pieces] at mem
    split at mem
    · rcases List.mem_cons.1 mem with rfl | later
      · simp
      · exact ih later
    · next differs =>
      split at mem
      · next cut => exact absurd cut (pieces_ne_nil separator rest)
      · next first others cut =>
        rcases List.mem_cons.1 mem with rfl | later
        · have absent := ih (cut ▸ List.mem_cons_self)
          simp [absent, Ne.symm differs]
        · exact ih (cut ▸ List.mem_cons_of_mem first later)

/-- A text without the separator is one piece. -/
theorem pieces_of_notMem {separator : Char} {text : List Char} (absent : separator ∉ text) :
    pieces separator text = [text] := by
  induction text with
  | nil => rfl
  | cons c rest ih =>
    simp only [List.mem_cons, not_or] at absent
    simp [pieces, Ne.symm absent.1, ih absent.2]

/-- What stands before a separator is cut apart from what stands behind it. -/
theorem pieces_append (separator : Char) (before after : List Char) :
    pieces separator (before ++ separator :: after) =
      pieces separator before ++ pieces separator after := by
  induction before with
  | nil => simp [pieces]
  | cons c rest ih =>
    simp only [List.cons_append, pieces, ih]
    split
    · rfl
    · cases cut : pieces separator rest with
      | nil => exact absurd cut (pieces_ne_nil separator rest)
      | cons piece others => rfl

/-- What was joined is cut where it was joined, unless a part holds the separator. -/
theorem pieces_joined {separator : Char} {parts : List (List Char)} (nonempty : parts ≠ [])
    (absent : ∀ part ∈ parts, separator ∉ part) :
    pieces separator (joined separator parts) = parts := by
  induction parts with
  | nil => exact absurd rfl nonempty
  | cons part others ih =>
    cases others with
    | nil => exact pieces_of_notMem (absent part (by simp))
    | cons next others =>
      rw [joined, pieces_append, pieces_of_notMem (absent part (by simp)),
        ih (by simp) fun p mem => absent p (List.mem_cons_of_mem part mem), List.singleton_append]
      simp

/-- The pieces of a text between the occurrences of `separator`. -/
def split (separator : Char) (text : String) : List String :=
  (pieces separator text.toList).map String.ofList

/-- Pieces written one after the other with `separator` between them. -/
def join (separator : Char) (parts : List String) : String :=
  String.ofList (joined separator (parts.map String.toList))

@[simp] theorem join_split (separator : Char) (text : String) :
    join separator (split separator text) = text := by
  simp [join, split, Function.comp_def]

theorem separator_notMem_of_mem_split {separator : Char} {text part : String}
    (mem : part ∈ split separator text) : separator ∉ part.toList := by
  rcases List.mem_map.1 mem with ⟨piece, inPieces, rfl⟩
  rw [String.toList_ofList]
  exact separator_notMem_of_mem_pieces inPieces

/-- Cutting gives back what was joined, provided that something was and that no part holds the
separator. -/
theorem split_join {separator : Char} {parts : List String} (nonempty : parts ≠ [])
    (absent : ∀ part ∈ parts, separator ∉ part.toList) :
    split separator (join separator parts) = parts := by
  have given : ∀ part ∈ parts.map String.toList, separator ∉ part := by
    intro part mem
    rcases List.mem_map.1 mem with ⟨text, inParts, rfl⟩
    exact absent text inParts
  rw [split, join, String.toList_ofList, pieces_joined (by simpa using nonempty) given]
  simp [Function.comp_def]

/-- The text before and after the first `separator`, if there is one. -/
def cutFirst? (separator : Char) : List Char → Option (List Char × List Char)
  | [] => none
  | c :: rest =>
    if c = separator then some ([], rest)
    else (cutFirst? separator rest).map fun (before, after) => (c :: before, after)

/-- The text before and after the last `separator`, if there is one. -/
def cutLast? (separator : Char) : List Char → Option (List Char × List Char)
  | [] => none
  | c :: rest =>
    match cutLast? separator rest with
    | some (before, after) => some (c :: before, after)
    | none => if c = separator then some ([], rest) else none

/-- The text up to the first `separator`, or all of it. -/
def upTo (separator : Char) (text : List Char) : List Char :=
  text.takeWhile (· ≠ separator)

/-- The text after the last `separator`, or all of it. -/
def afterLast (separator : Char) (text : String) : String :=
  match cutLast? separator text.toList with
  | some (_, after) => String.ofList after
  | none => text

def startsWith (start text : String) : Bool :=
  start.toList.isPrefixOf text.toList

def endsWith (ending text : String) : Bool :=
  ending.toList.isSuffixOf text.toList

/-- The text without its last characters, as many as `ending` has. -/
def withoutEnding (ending text : String) : String :=
  String.ofList (text.toList.take (text.toList.length - ending.toList.length))

/-- What a text ends in can be put back. -/
theorem withoutEnding_append {ending text : String} (ends : endsWith ending text = true) :
    withoutEnding ending text ++ ending = text := by
  rcases List.isSuffixOf_iff_suffix.1 ends with ⟨front, spelled⟩
  simp [withoutEnding, ← spelled, ← String.toList_inj]

/-- An upper-case ASCII letter as its lower-case one; any other character as it is. -/
def lowerAscii (text : List Char) : List Char :=
  text.map Char.toLower

/-- Whether a text ends in `ending`, a text of lower-case ASCII, in any letter case. Lower-casing in
full adds nothing here: of the characters beyond ASCII only the Kelvin sign has a lower-case form
that is one ASCII letter, a `k`, and no ending that is asked for has a `k`. -/
def endsWithAnyCase (ending text : String) : Bool :=
  ending.toList.isSuffixOf (lowerAscii text.toList)

end JvmClasspath.Text
