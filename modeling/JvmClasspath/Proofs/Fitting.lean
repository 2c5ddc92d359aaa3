import JvmClasspath.Glob
import JvmClasspath.Text.Split

/-!
# What a pattern fits

Cut at its stars, a pattern is a sequence of literal parts. It fits the texts that are these parts
in their order with a gap in the place of each star, where a gap is any text on one line; and since
a line break may be left over, it fits each of these texts with one line break behind it.

Nothing is asked of the parts. They may be empty, occur in the gaps as well, and hold line breaks,
so a name may be taken apart in several ways; the pattern fits if there is one.
-/

namespace JvmClasspath.Glob

open Text

/-! ## Parts and gaps -/

/-- Parts one after the other, with a gap behind each of them but the last. -/
def woven : List (List Char) → List (List Char) → List Char
  | part :: parts, gap :: gaps => part ++ gap ++ woven parts gaps
  | parts, _ => parts.flatten

/-- Whether a text is made of parts in their order, with a gap of some kind between each two. -/
def Fills (kind : List Char → Prop) (parts : List (List Char)) (text : List Char) : Prop :=
  ∃ gaps, gaps.length + 1 = parts.length ∧ (∀ gap ∈ gaps, kind gap) ∧ text = woven parts gaps

variable {kind : List Char → Prop} {part text : List Char} {parts : List (List Char)}

/-- One part leaves no gap. -/
theorem fills_singleton : Fills kind [part] text ↔ text = part := by
  constructor
  · intro fills
    obtain ⟨gaps, count, -, rfl⟩ := fills
    rw [List.eq_nil_of_length_eq_zero (Nat.succ.inj count)]
    simp [woven]
  · intro same
    subst same
    exact ⟨[], rfl, by simp, by simp [woven]⟩

/-- Of several parts the first one and the gap behind it come first. -/
theorem fills_cons (several : parts ≠ []) :
    Fills kind (part :: parts) text ↔
      ∃ gap rest, kind gap ∧ Fills kind parts rest ∧ text = part ++ (gap ++ rest) := by
  constructor
  · intro fills
    obtain ⟨gaps, count, fitting, rfl⟩ := fills
    cases gaps with
    | nil => exact absurd (List.eq_nil_of_length_eq_zero (Nat.succ.inj count).symm) several
    | cons gap gaps =>
      rw [List.forall_mem_cons] at fitting
      exact ⟨gap, _, fitting.1, ⟨gaps, Nat.succ.inj count, fitting.2, rfl⟩,
        List.append_assoc part gap _⟩
  · intro given
    obtain ⟨gap, _, fits, ⟨gaps, count, fitting, rfl⟩, rfl⟩ := given
    exact ⟨gap :: gaps, congrArg (· + 1) count, List.forall_mem_cons.2 ⟨fits, fitting⟩,
      (List.append_assoc part gap _).symm⟩

/-- What the first part starts with, the text does. -/
theorem fills_cons_char (c : Char) :
    Fills kind ((c :: part) :: parts) text ↔
      ∃ rest, text = c :: rest ∧ Fills kind (part :: parts) rest := by
  have started : ∀ gaps, woven ((c :: part) :: parts) gaps = c :: woven (part :: parts) gaps := by
    intro gaps
    cases gaps <;> rfl
  constructor
  · intro fills
    obtain ⟨gaps, count, fitting, rfl⟩ := fills
    exact ⟨_, started gaps, gaps, count, fitting, rfl⟩
  · intro given
    obtain ⟨_, rfl, gaps, count, fitting, rfl⟩ := given
    exact ⟨gaps, count, fitting, (started gaps).symm⟩

/-- Every gap is a piece of the text. -/
theorem subset_woven {gaps : List (List Char)} (count : gaps.length < parts.length)
    {gap : List Char} (mem : gap ∈ gaps) : gap ⊆ woven parts gaps := by
  induction gaps generalizing parts with
  | nil => simp at mem
  | cons first gaps ih =>
    cases parts with
    | nil => simp at count
    | cons part parts =>
      rcases List.mem_cons.1 mem with rfl | later
      · exact List.subset_append_of_subset_left _ (List.subset_append_right part gap)
      · exact List.subset_append_of_subset_right _ (ih (Nat.lt_of_succ_lt_succ count) later)

/-- In a text on one line, all gaps are on one line. -/
theorem fills_oneLine_iff (oneLine : '\n' ∉ text) :
    Fills ('\n' ∉ ·) parts text ↔ Fills (fun _ => True) parts text := by
  constructor
  · intro fills
    obtain ⟨gaps, count, -, rfl⟩ := fills
    exact ⟨gaps, count, fun _ _ => trivial, rfl⟩
  · intro fills
    obtain ⟨gaps, count, -, rfl⟩ := fills
    refine ⟨gaps, count, ?_, rfl⟩
    intro gap mem broken
    exact oneLine (subset_woven (Nat.lt_of_succ_le (Nat.le_of_eq count)) mem broken)

/-! ## What each step of the matcher asks -/

theorem isEnd_iff : isEnd text = true ↔ text = [] ∨ text = ['\n'] := by
  cases text with
  | nil => simp [isEnd]
  | cons c rest => rw [isEnd, Bool.and_eq_true, decide_eq_true_iff, List.isEmpty_iff]; simp

theorem afterChar_iff {p : Char} {tail : List Char → Bool} :
    afterChar p tail text = true ↔ ∃ rest, text = p :: rest ∧ tail rest = true := by
  cases text with
  | nil => simp [afterChar]
  | cons c rest =>
    rw [afterChar, Bool.and_eq_true, decide_eq_true_iff]
    constructor
    · intro given
      obtain ⟨rfl, fits⟩ := given
      exact ⟨rest, rfl, fits⟩
    · intro given
      obtain ⟨_, ⟨⟩, fits⟩ := given
      exact ⟨rfl, fits⟩

theorem afterAny_iff {tail : List Char → Bool} :
    afterAny tail text = true ↔ ∃ gap rest, text = gap ++ rest ∧ '\n' ∉ gap ∧ tail rest = true := by
  induction text with
  | nil =>
    constructor
    · intro here
      exact ⟨[], [], rfl, by simp, here⟩
    · intro given
      obtain ⟨gap, rest, nothing, -, here⟩ := given
      rw [(List.append_eq_nil_iff.1 nothing.symm).2] at here
      exact here
  | cons c below ih =>
    rw [afterAny, Bool.or_eq_true, Bool.and_eq_true, decide_eq_true_iff, ih]
    constructor
    · intro given
      obtain here | ⟨sameLine, gap, rest, rfl, oneLine, later⟩ := given
      · exact ⟨[], c :: below, rfl, by simp, here⟩
      · refine ⟨c :: gap, rest, rfl, ?_, later⟩
        exact List.not_mem_cons_of_ne_of_not_mem (Ne.symm sameLine) oneLine
    · intro given
      obtain ⟨gap, rest, same, oneLine, later⟩ := given
      cases gap with
      | nil => exact .inl (same ▸ later)
      | cons d gap =>
        rcases List.cons.inj same with ⟨rfl, below⟩
        rw [List.mem_cons, not_or] at oneLine
        exact .inr ⟨Ne.symm oneLine.1, gap, rest, below, oneLine.2, later⟩

/-! ## The matcher -/

/-- The matcher follows the pattern: a star adds a gap, and any other character one to the first
part. -/
theorem fits_iff (pattern text : List Char) :
    fits pattern text = true ↔
      ∃ front rest, Fills ('\n' ∉ ·) (pieces '*' pattern) front ∧ isEnd rest = true ∧
        text = front ++ rest := by
  induction pattern generalizing text with
  | nil =>
    rw [fits, pieces]
    simp [fills_singleton]
  | cons p pattern ih =>
    rw [fits, pieces]
    split
    · simp only [afterAny_iff, ih, fills_cons (pieces_ne_nil '*' pattern), List.nil_append]
      constructor
      · intro given
        obtain ⟨gap, _, rfl, oneLine, front, rest, fills, ends, rfl⟩ := given
        exact ⟨gap ++ front, rest, ⟨gap, front, oneLine, fills, rfl⟩, ends,
          (List.append_assoc ..).symm⟩
      · intro given
        obtain ⟨_, rest, ⟨gap, front, oneLine, fills, rfl⟩, ends, rfl⟩ := given
        exact ⟨gap, _, List.append_assoc .., oneLine, front, rest, fills, ends, rfl⟩
    · cases cut : pieces '*' pattern with
      | nil => exact absurd cut (pieces_ne_nil '*' pattern)
      | cons part parts =>
        simp only [afterChar_iff, ih, fills_cons_char, cut]
        constructor
        · intro given
          obtain ⟨_, rfl, front, rest, fills, ends, rfl⟩ := given
          exact ⟨p :: front, rest, ⟨front, rfl, fills⟩, ends, rfl⟩
        · intro given
          obtain ⟨_, rest, ⟨front, rfl, fills⟩, ends, rfl⟩ := given
          exact ⟨_, rfl, front, rest, fills, ends, rfl⟩

/-- A pattern accepts a name exactly if the name is the literal parts of the pattern in their order,
with gaps between them that hold no line break, or is this with one line break behind it. -/
theorem accepts_iff (pattern name : String) :
    accepts pattern name = true ↔
      ∃ gaps, gaps.length + 1 = (pieces '*' pattern.toList).length ∧ (∀ gap ∈ gaps, '\n' ∉ gap) ∧
        (name.toList = woven (pieces '*' pattern.toList) gaps ∨
          name.toList = woven (pieces '*' pattern.toList) gaps ++ ['\n']) := by
  rw [accepts_eq_fits, fits_iff]
  constructor
  · intro given
    obtain ⟨_, rest, ⟨gaps, count, oneLine, rfl⟩, ends, spelled⟩ := given
    refine ⟨gaps, count, oneLine, ?_⟩
    rcases isEnd_iff.1 ends with rfl | rfl
    · exact .inl (by simpa using spelled)
    · exact .inr spelled
  · intro given
    obtain ⟨gaps, count, oneLine, spelled | spelled⟩ := given
    · exact ⟨_, [], ⟨gaps, count, oneLine, rfl⟩, rfl, by simpa using spelled⟩
    · exact ⟨_, ['\n'], ⟨gaps, count, oneLine, rfl⟩, rfl, spelled⟩

/-- The first `ab` of a name need not be the one that the pattern means. -/
example : accepts "*ab*b" "abxab-b" ∧ ¬ accepts "*ab*b" "ab" ∧ accepts "a\n*" "a\nb\n" := by
  decide +kernel

end JvmClasspath.Glob
