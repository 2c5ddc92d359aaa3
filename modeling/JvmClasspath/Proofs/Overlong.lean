import JvmClasspath.Toml.Document

/-!
# Numbers that are too long

A whole number in decimal is not read if it has more digits than the limit allows. This is the one
fault of a document that has nothing to do with its form, and it says how many digits there are.

That count can be trusted: it is above the limit, and the text has at least so many characters. Each
reader keeps to this, since what it leaves unread is shorter than what it was given, and no reader
but that of numbers in decimal has the fault of its own.
-/

namespace JvmClasspath.Toml

variable {α β : Type} {bound : Nat} {answer : Except Fault α}

/-- Whether an answer, if it is that a number has too many digits, counts more of them than the
limit allows, and no more than `bound`. With the bound zero it is not that answer. -/
def Counts (bound : Nat) (answer : Except Fault α) : Prop :=
  ∀ count, answer = .error (.tooManyDigits count) → Text.digitLimit < count ∧ count ≤ bound

namespace Counts

theorem ok (value : α) : Counts bound (.ok value) := nofun

theorem error {fault : Fault} (other : ∀ count, fault ≠ .tooManyDigits count) :
    Counts bound (.error fault : Except Fault α) :=
  fun count same => absurd (Except.error.inj same) (other count)

theorem mono {wider : Nat} (counts : Counts bound answer) (within : bound ≤ wider) :
    Counts wider answer := by
  intro count failed
  obtain ⟨above, below⟩ := counts count failed
  exact ⟨above, Nat.le_trans below within⟩

/-- A reader that never has the fault may stand where some text is read. -/
theorem silent (counts : Counts 0 answer) : Counts bound answer := counts.mono (Nat.zero_le bound)

/-- A fault that is handed on is counted where it arose. -/
theorem passed {fault : Fault} (counts : Counts bound answer) (failed : answer = .error fault) :
    Counts bound (.error fault : Except Fault β) := by
  intro count same
  cases same
  exact counts count failed

theorem map (counts : Counts bound answer) (f : α → β) : Counts bound (answer.map f) := by
  cases answer with
  | error fault => exact counts.passed rfl
  | ok value => exact .ok (f value)

theorem bind {next : α → Except Fault β} (first : Counts bound answer)
    (second : ∀ value, Counts bound (next value)) : Counts bound (answer >>= next) := by
  cases answer with
  | error fault => exact first.passed rfl
  | ok value => exact second value

end Counts

/-! ## Texts, blanks and keys -/

theorem skipComment_counts (text : List Char) : Counts 0 (skipComment text) := by
  unfold skipComment
  split
  · split
    · exact .error nofun
    · exact .ok _
  · exact .ok _

theorem skipLines_counts (text : List Char) : Counts 0 (skipLines text) := by
  fun_induction skipLines text with
  | case1 => exact .error nofun
  | case2 text rest found clean shorter ih => exact ih.map _
  | case3 => exact .ok _

theorem literalLine_counts (text : List Char) : Counts 0 (literalLine text) := by
  fun_induction literalLine text with
  | case1 => exact .error nofun
  | case2 => exact .ok _
  | case3 => exact .error nofun
  | case4 c rest unclosed allowed ih => exact ih.map _

theorem literalLines_counts (text : List Char) : Counts 0 (literalLines text) := by
  fun_induction literalLines text with
  | case1 => exact .ok _
  | case2 => exact .error nofun
  | case3 => exact .error nofun
  | case4 c rest allowed unclosed ih => exact ih.map _

theorem escapedCode_counts (size : Nat) (text : List Char) : Counts 0 (escapedCode size text) := by
  rw [escapedCode]
  split
  · exact .ok _
  · exact .error nofun

theorem escaped_counts (text : List Char) : Counts 0 (escaped text) := by
  unfold escaped
  split
  all_goals first
    | exact .ok _
    | exact (escapedCode_counts _ _).map _
    | exact .error nofun

theorem escapedLine_counts (text : List Char) : Counts 0 (escapedLine text) := by
  unfold escapedLine
  split
  · exact .ok _
  · exact escaped_counts text

theorem basicLine_counts (text : List Char) : Counts 0 (basicLine text) := by
  fun_induction basicLine text with
  | case1 => exact .error nofun
  | case2 => exact .ok _
  | case3 rest fault refused => exact (escaped_counts rest).passed refused
  | case4 rest chars after shorter read ih => exact ih.map _
  | case5 => exact .error nofun
  | case6 c rest unclosed plain allowed ih => exact ih.map _

theorem basicLines_counts (text : List Char) : Counts 0 (basicLines text) := by
  fun_induction basicLines text with
  | case1 => exact .ok _
  | case2 => exact .error nofun
  | case3 rest fault refused => exact (escapedLine_counts rest).passed refused
  | case4 rest chars after shorter read unclosed ih => exact ih.map _
  | case5 => exact .error nofun
  | case6 c rest plain allowed unclosed ih => exact ih.map _

theorem quotedText?_counts {text : List Char} {reading : Reading String text}
    (quoted : quotedText? text = some reading) : Counts 0 reading := by
  unfold quotedText? at quoted
  split at quoted
  all_goals cases quoted
  all_goals first
    | exact (basicLines_counts _).map _
    | exact (basicLine_counts _).map _
    | exact (literalLines_counts _).map _
    | exact (literalLine_counts _).map _

theorem keyPart_counts (text : List Char) : Counts 0 (keyPart text) := by
  unfold keyPart
  split
  · exact (literalLine_counts _).map _
  · exact (basicLine_counts _).map _
  · simp only
    split
    · exact .ok _
    · exact .error nofun
  · exact .error nofun

theorem key_counts (text : List Char) : Counts 0 (key text) := by
  fun_induction key text with
  | case1 text ih =>
    apply (keyPart_counts text).bind
    rintro ⟨part, afterPart, h1⟩
    simp only
    split
    · exact .ok _
    · next rest h3 found => exact (ih afterPart h1 rest h3).bind fun _ => .ok _

theorem keyAndSign_counts (text : List Char) : Counts 0 (keyAndSign text) := by
  unfold keyAndSign
  apply (key_counts text).bind
  rintro ⟨parts, afterKey, h1⟩
  simp only
  split
  · exact .error nofun
  · exact .ok _

/-! ## Tables -/

namespace Slots

variable {change : Slots → Except Fault Slots}

theorem alter_counts {key : String} {change : Option Slot → Except Fault Slot}
    (each : ∀ slot, Counts 0 (change slot)) (entries : Slots) :
    Counts 0 (alter key change entries) := by
  fun_induction alter key change entries with
  | case1 => exact (each none).bind fun _ => .ok _
  | case2 slot rest => exact (each (some slot)).bind fun _ => .ok _
  | case3 other slot rest differs ih => exact ih.bind fun _ => .ok _

theorem pass_counts {key : String} (each : ∀ entries, Counts 0 (change entries))
    (slot : Option Slot) : Counts 0 (pass key change slot) := by
  unfold pass
  split
  · exact (each _).bind fun _ => .ok _
  · exact (each _).bind fun _ => .ok _
  · exact (each _).bind fun _ => .ok _
  · exact .error nofun

theorem open?_counts {key : String} (each : ∀ entries, Counts 0 (change entries))
    (slot : Option Slot) : Counts 0 (open? key change slot) := by
  unfold open?
  split
  · exact (each _).bind fun _ => .ok _
  · exact (each _).bind fun _ => .ok _
  · exact (each _).bind fun _ => .ok _
  · exact .error nofun

theorem along_counts (each : ∀ entries, Counts 0 (change entries)) (path : List String)
    (entries : Slots) : Counts 0 (along path change entries) := by
  induction path generalizing entries with
  | nil => exact each entries
  | cons key rest ih => exact alter_counts (pass_counts ih) entries

theorem assign_counts (value : Value) (path : List String) (entries : Slots) :
    Counts 0 (assign value path entries) := by
  induction path generalizing entries with
  | nil => exact .ok _
  | cons name rest ih =>
    cases rest with
    | nil =>
      apply alter_counts
      intro slot
      cases slot with
      | none => exact .ok _
      | some slot => exact .error nofun
    | cons next rest => exact alter_counts (open?_counts ih) entries

theorem declare_counts (entries : Slots) (header : List String) :
    Counts 0 (entries.declare header) := by
  unfold declare
  split
  · exact .ok _
  · refine along_counts (alter_counts ?_) _ _
    intro slot
    unfold declareSlot
    split
    · exact .ok _
    · exact .ok _
    · exact .error nofun

theorem append_counts (entries : Slots) (header : List String) :
    Counts 0 (entries.append header) := by
  unfold append
  split
  · exact .ok _
  · refine along_counts (alter_counts ?_) _ _
    intro slot
    unfold appendSlot
    split
    · exact .ok _
    · exact .ok _
    · exact .error nofun

end Slots

/-! ## Numbers -/

theorem moreDigits_length_le (isDigit : Char → Bool) (text : List Char) :
    (moreDigits isDigit text).1.length ≤ text.length := by
  fun_induction moreDigits isDigit text with
  | case1 => exact Nat.le_refl _
  | case2 c rest passes digits tail cut ih =>
    rw [cut] at ih
    exact Nat.le_succ_of_le (Nat.succ_le_succ ih)
  | case3 => exact Nat.zero_le _
  | case4 c rest plain passes digits tail cut ih =>
    rw [cut] at ih
    exact Nat.succ_le_succ ih
  | case5 => exact Nat.zero_le _

theorem digits?_length_le {isDigit : Char → Bool} {text : List Char} {read : Read (List Char) text}
    (found : digits? isDigit text = some read) : read.value.length ≤ text.length := by
  cases text with
  | nil => cases found
  | cons c rest =>
    rw [digits?] at found
    split at found
    · cases found
      exact Nat.succ_le_succ (moreDigits_length_le isDigit rest)
    · cases found

theorem wholeDigits?_length_le {text : List Char} {read : Read (List Char) text}
    (found : wholeDigits? text = some read) : read.value.length ≤ text.length := by
  unfold wholeDigits? at found
  split at found
  · cases found
    simp [Read.head, Read.ofTail]
  · exact digits?_length_le found

/-- The one place where the fault arises: the digits of a whole number are counted as they stand. -/
theorem decimal?_counts {text : List Char} {reading : Reading Value text}
    (found : decimal? text = some reading) : Counts text.length reading := by
  unfold decimal? at found
  generalize sign text = signed at found
  obtain ⟨negative, unsigned, h⟩ := signed
  obtain ⟨⟨whole, afterWhole, h1⟩, digits, found⟩ := Option.bind_eq_some_iff.1 found
  have fits := wholeDigits?_length_le digits
  simp only at found fits
  split at found
  · split at found
    · next above =>
      cases found
      intro count same
      cases same
      exact ⟨above, Nat.le_trans fits h⟩
    · cases found
      exact .ok _
  · cases found
    exact .ok _

theorem moment?_counts {text : List Char} {reading : Reading Value text}
    (found : moment? text = some reading) : Counts 0 reading := by
  unfold moment? at found
  obtain ⟨⟨date, rest, h⟩, spelled, found⟩ := Option.bind_eq_some_iff.1 found
  simp only at found
  split at found
  · cases found
    exact .error nofun
  · split at found
    · cases found
      exact .ok _
    · cases found
      exact .ok _

theorem scalar_counts (text : List Char) : Counts text.length (scalar text) := by
  unfold scalar
  split
  · next reading found => exact (moment?_counts found).silent
  · split
    · exact .ok _
    · split
      · exact .ok _
      · split
        · next reading found => exact decimal?_counts found
        · split
          · exact .ok _
          · exact .error nofun

/-! ## Values and statements -/

-- The induction is on the length of the text, as in the readers: each is called on what the one
-- before it left, and that this is shorter comes with what was read.
mutual

theorem value_counts (text : List Char) : Counts text.length (value text) := by
  unfold value
  simp only
  split
  · next rest h1 _ =>
    apply (skipLines_counts rest).silent.bind
    rintro ⟨start, h2⟩
    simp only
    split
    · exact .ok _
    · have items := arrayItems_counts start
      exact (items.mono (by omega)).bind fun _ => .ok _
  · split
    · next rest h1 _ =>
      split
      · exact .ok _
      · have h2 := skipBlanks_length_le rest
        have entries := inlineEntries_counts [] (skipBlanks rest)
        exact (entries.mono (by omega)).bind fun _ => .ok _
    · split
      · next reading quoted => exact (quotedText?_counts quoted).silent.map _
      · split
        · exact .ok _
        · exact scalar_counts text
termination_by (text.length, 0)

theorem arrayItems_counts (text : List Char) : Counts text.length (arrayItems text) := by
  unfold arrayItems
  apply (value_counts text).bind
  rintro ⟨item, afterItem, h1⟩
  apply (skipLines_counts afterItem).silent.bind
  rintro ⟨start, h2⟩
  simp only
  split
  · exact .ok _
  · split
    · next rest h3 _ =>
      apply (skipLines_counts rest).silent.bind
      rintro ⟨next, h4⟩
      simp only
      split
      · exact .ok _
      · have items := arrayItems_counts next
        exact (items.mono (by omega)).bind fun _ => .ok _
    · exact .error nofun
termination_by (text.length, 1)

theorem inlineEntries_counts (entries : Slots) (text : List Char) :
    Counts text.length (inlineEntries entries text) := by
  unfold inlineEntries
  apply (keyAndSign_counts text).silent.bind
  rintro ⟨name, afterKey, h1⟩
  apply ((value_counts afterKey).mono (by omega)).bind
  rintro ⟨given, afterValue, h2⟩
  apply (Slots.assign_counts given name entries).silent.bind
  intro entries
  simp only
  have h3 := skipBlanks_length_le afterValue
  split
  · exact .ok _
  · split
    · next rest h4 _ =>
      have h5 := skipBlanks_length_le rest
      have later := inlineEntries_counts entries (skipBlanks rest)
      exact (later.mono (by omega)).bind fun _ => .ok _
    · exact .error nofun
termination_by (text.length, 1)

end

theorem headerKey_counts {change : List String → Except Fault Slots}
    (each : ∀ name, Counts 0 (change name)) (text : List Char) :
    Counts 0 (headerKey change text) := by
  unfold headerKey
  apply (key_counts _).bind
  rintro ⟨name, afterKey, h2⟩
  apply (each name).bind
  intro entries
  split
  · exact .ok _
  · exact .error nofun

theorem header_counts (draft : Draft) (text : List Char) : Counts 0 (header draft text) := by
  unfold header
  split
  · exact headerKey_counts (Slots.declare_counts _) text
  · apply (headerKey_counts (Slots.append_counts _) _).bind
    rintro ⟨next, afterOne, h2⟩
    simp only
    split
    · exact .ok _
    · exact .error nofun

theorem assignment_counts (draft : Draft) (text : List Char) :
    Counts text.length (assignment draft text) := by
  unfold assignment
  apply (keyAndSign_counts text).silent.bind
  rintro ⟨name, afterKey, h1⟩
  apply ((value_counts afterKey).mono (by omega)).bind
  rintro ⟨given, after, h2⟩
  exact (Slots.along_counts (Slots.assign_counts given name) _ _).silent.bind fun _ => .ok _

theorem statement_counts (draft : Draft) (text : List Char) :
    Counts text.length (statement draft text) := by
  unfold statement
  split
  · exact .ok _
  · exact .ok _
  · exact .ok _
  · exact (header_counts draft _).silent.map _
  · exact (assignment_counts draft _).map _

theorem statements_counts (draft : Draft) (text : List Char) :
    Counts text.length (statements draft text) := by
  fun_induction statements draft text with
  | case1 draft text h1 ih =>
    apply ((statement_counts draft _).mono h1).bind
    rintro ⟨next, afterStatement, h2⟩
    have h3 := skipBlanks_length_le afterStatement
    apply (skipComment_counts _).silent.bind
    rintro ⟨lineEnd, h4⟩
    simp only
    split
    · next rest h5 _ =>
      have later := ih next afterStatement h2 lineEnd h4 rest h5
      exact later.mono (by omega)
    · split
      · exact .ok _
      · exact .error nofun

theorem length_withPlainBreaks_le (text : List Char) :
    (withPlainBreaks text).length ≤ text.length := by
  fun_induction withPlainBreaks text with
  | case1 rest ih => exact Nat.le_succ_of_le (Nat.succ_le_succ ih)
  | case2 c rest plain ih => exact Nat.succ_le_succ ih
  | case3 => exact Nat.le_refl _

/-- A document with a number that is too long has at least as many characters as it has digits. -/
theorem parse_counts (text : String) : Counts text.length (parse text) := by
  have plain := length_withPlainBreaks_le text.toList
  rw [String.length_toList] at plain
  exact ((statements_counts _ _).mono plain).bind fun _ => .ok _

end JvmClasspath.Toml
