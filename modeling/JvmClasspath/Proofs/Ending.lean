import JvmClasspath.Location
import JvmClasspath.Proofs.ArchiveTree

/-!
# How archives are named

A name ends as archives do, or it has the suffix of an archive. The first compares the end of the
name, the second looks for a dot that has something in front of it, so the two differ on a name that
is an ending and nothing more.
-/

namespace JvmClasspath

namespace Text

/-- No other character has a dot for its lower-case form. -/
theorem eq_dot_of_toLower {c : Char} (lowered : c.toLower = '.') : c = '.' := by
  unfold Char.toLower at lowered
  split at lowered
  · next upper =>
    have code := congrArg (fun c => c.val.toNat) lowered
    rw [ge_iff_le, UInt32.le_iff_toNat_le, UInt32.le_iff_toNat_le] at upper
    change 65 ≤ c.val.toNat ∧ c.val.toNat ≤ 90 at upper
    change (c.val.toNat + 32) % 2 ^ 32 = 46 at code
    omega
  · exact lowered

/-- What a text ends in, in any letter case, stands at its end in some letter case. -/
theorem endsWithAnyCase_iff {ending text : String} :
    endsWithAnyCase ending text = true ↔
      ∃ front last, text.toList = front ++ last ∧ lowerAscii last = ending.toList := by
  rw [endsWithAnyCase, List.isSuffixOf_iff_suffix, lowerAscii]
  constructor
  · intro given
    obtain ⟨lowered, spelled⟩ := given
    obtain ⟨front, last, same, -, lower⟩ := List.map_eq_append_iff.1 spelled.symm
    exact ⟨front, last, same, lower⟩
  · intro given
    obtain ⟨front, last, spelled, lower⟩ := given
    exact ⟨lowerAscii front, by rw [spelled, List.map_append, ← lower]; rfl⟩

end Text

namespace Location

/-- Whether a name ends as archives do, in any letter case. -/
def EndsAsArchive (name : String) : Prop :=
  ∃ ending ∈ archiveEndings, Text.endsWithAnyCase ending name = true

/-- Whether a name is an archive's ending in any letter case, and nothing more. -/
def IsLoneEnding (name : String) : Prop :=
  ∃ ending ∈ archiveEndings, Text.lowerAscii name.toList = ending.toList

instance : DecidablePred IsLoneEnding := fun _ => inferInstanceAs (Decidable (∃ _ ∈ _, _))

/-- An ending is a dot and letters. -/
theorem exists_letters {ending : String} (known : ending ∈ archiveEndings) :
    ∃ letters, ending.toList = '.' :: letters ∧ '.' ∉ letters ∧ letters ≠ [] := by
  rcases List.mem_cons.1 known with rfl | known
  · exact ⟨['j', 'a', 'r'], by decide⟩
  · rw [List.mem_singleton.1 known]
    exact ⟨['z', 'i', 'p'], by decide⟩

/-- The suffix of a name is an ending, in any letter case, if the name ends so behind something. -/
theorem lowerAscii_suffixOf_iff {ending name : String} (known : ending ∈ archiveEndings) :
    Text.lowerAscii (Path.suffixOf name).toList = ending.toList ↔
      ∃ front last, name.toList = front ++ last ∧ front ≠ [] ∧
        Text.lowerAscii last = ending.toList := by
  obtain ⟨letters, spelled, plain, nonempty⟩ := exists_letters known
  rw [spelled, Path.suffixOf]
  constructor
  · intro lowered
    split at lowered
    · next before after cut =>
      split at lowered
      · simp [Text.lowerAscii] at lowered
      · next something =>
        rw [not_or] at something
        rw [String.toList_ofList] at lowered
        have dot : '.' ∈ name.toList := by
          by_contra absent
          rw [Text.cutLast?_of_notMem absent] at cut
          cases cut
        obtain ⟨front, last, name_eq, absent⟩ := Text.exists_last_separator dot
        rw [name_eq, Text.cutLast?_append front absent] at cut
        cases cut
        exact ⟨before, _, name_eq, by simpa using something.1, lowered⟩
    · simp [Text.lowerAscii] at lowered
  · intro given
    obtain ⟨front, last, name_eq, something, lowered⟩ := given
    obtain ⟨dot, rest, rfl, isDot, lowered_rest⟩ := List.map_eq_cons_iff.1 lowered
    rw [Text.eq_dot_of_toLower isDot] at name_eq lowered
    have absent : '.' ∉ rest := by
      intro mem
      apply plain
      rw [← lowered_rest]
      exact List.mem_map_of_mem mem
    have more : rest ≠ [] := by
      rintro rfl
      exact nonempty lowered_rest.symm
    rw [name_eq, Text.cutLast?_append front absent]
    simp only [List.isEmpty_iff, something, more, or_self, if_false, String.toList_ofList]
    exact lowered

/-- All endings are of one length. -/
theorem length_ending {ending : String} (known : ending ∈ archiveEndings) :
    ending.toList.length = 4 := by
  revert ending
  decide

/-- What is opened by its suffix is named as archives are, with something in front of the ending. -/
theorem hasArchiveSuffix_iff {path : Path} :
    hasArchiveSuffix path = true ↔ EndsAsArchive path.name ∧ ¬IsLoneEnding path.name := by
  simp only [hasArchiveSuffix, List.any_eq_true, beq_iff_eq, EndsAsArchive, IsLoneEnding,
    Text.endsWithAnyCase_iff]
  constructor
  · intro given
    obtain ⟨ending, known, lowered⟩ := given
    obtain ⟨front, last, spelled, something, lower⟩ := (lowerAscii_suffixOf_iff known).1 lowered
    refine ⟨⟨ending, known, front, last, spelled, lower⟩, ?_⟩
    rintro ⟨whole, known', alone⟩
    have behind := congrArg List.length lower
    have all := congrArg List.length alone
    rw [spelled] at all
    simp only [Text.lowerAscii, List.length_map, List.length_append, length_ending known,
      length_ending known'] at behind all
    have none : front.length = 0 := by omega
    exact something (List.length_eq_zero_iff.1 none)
  · intro given
    obtain ⟨⟨ending, known, front, last, spelled, lower⟩, notAlone⟩ := given
    refine ⟨ending, known, (lowerAscii_suffixOf_iff known).2 ⟨front, last, spelled, ?_, lower⟩⟩
    rintro rfl
    rw [List.nil_append] at spelled
    exact notAlone ⟨ending, known, by rw [spelled, lower]⟩

end Location

end JvmClasspath
