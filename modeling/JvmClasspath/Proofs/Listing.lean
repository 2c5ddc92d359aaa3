import JvmClasspath.FileSystem
import JvmClasspath.Proofs.Collecting
import Mathlib.Data.List.Sort

/-!
# What a listing shows

A directory's listing ascends strictly, so no name occurs twice, and it holds a name exactly if
something stands at the place of that name.
-/

namespace JvmClasspath.FileSystem

@[simp] theorem mem_withoutRepeats {name : String} {names : List String} :
    name ∈ withoutRepeats names ↔ name ∈ names := by
  fun_induction withoutRepeats names with
  | case1 => rfl
  | case2 => rfl
  | case3 first rest ih => simp [ih]
  | case4 first next rest _ ih => simp [ih]

/-- What is left of an ascending list without its repeats ascends strictly. -/
theorem pairwise_withoutRepeats {names : List String} (ascending : names.Pairwise (· ≤ ·)) :
    (withoutRepeats names).Pairwise (· < ·) := by
  fun_induction withoutRepeats names with
  | case1 => exact .nil
  | case2 name => exact List.pairwise_singleton _ _
  | case3 first rest ih => exact ih ascending.of_cons
  | case4 first next rest differs ih =>
    apply List.pairwise_cons.2 ⟨_, ih ascending.of_cons⟩
    intro name mem
    rw [mem_withoutRepeats] at mem
    rcases List.pairwise_cons.1 ascending with ⟨least, later⟩
    have below : first < next := Std.lt_of_le_of_ne (least next List.mem_cons_self) differs
    rcases List.mem_cons.1 mem with rfl | inRest
    · exact below
    · exact Std.lt_of_lt_of_le below ((List.pairwise_cons.1 later).1 name inRest)

/-- The names in a directory ascend strictly. -/
theorem ascending_namesIn (files : FileSystem) (place : List String) :
    (files.namesIn place).Pairwise (· < ·) := by
  apply pairwise_withoutRepeats
  refine (List.pairwise_mergeSort ?_ ?_ _).imp of_decide_eq_true
  · intro a b c first second
    exact decide_eq_true (String.le_trans (of_decide_eq_true first) (of_decide_eq_true second))
  · intro a b
    simpa using String.le_total a b

/-- A name is listed in a directory exactly if something stands there. -/
theorem mem_namesIn {files : FileSystem} {place : List String} {name : String} :
    name ∈ files.namesIn place ↔ files.entryAt? (place ++ [name]) ≠ none := by
  have present : files.entryAt? (place ++ [name]) ≠ none ↔
      ∃ entry ∈ files.entries, place ++ [name] = entry.1 := by
    simp [entryAt?, List.lookup_eq_none_iff]
  rw [present, namesIn, mem_withoutRepeats, List.mem_mergeSort, List.mem_filterMap]
  constructor
  · intro given
    rcases given with ⟨⟨other, entry⟩, mem, found⟩
    refine ⟨_, mem, ?_⟩
    by_cases parent : other.dropLast = place
    · simp only [parent, if_true] at found
      rcases List.getLast?_eq_some_iff.1 found with ⟨front, rfl⟩
      rw [← parent, List.dropLast_concat]
    · simp [parent] at found
  · intro given
    rcases given with ⟨⟨other, entry⟩, mem, rfl⟩
    exact ⟨_, mem, by simp⟩

/-- An ascending list is the listing of a place if something stands there under each of its names,
and no entry lies there under another name. -/
theorem namesIn_eq_of_entries {files : FileSystem} {place names : List String}
    (ascending : names.Pairwise (· < ·))
    (present : ∀ name ∈ names, files.entryAt? (place ++ [name]) ≠ none)
    (complete : ∀ entry ∈ files.entries, ∀ name ∈ entry.1.getLast?,
      entry.1 = place ++ [name] → name ∈ names) : files.namesIn place = names := by
  apply (files.ascending_namesIn place).eq_of_mem_iff ascending
  intro name
  rw [mem_namesIn]
  constructor
  · intro stands
    obtain ⟨entry, found⟩ := Option.ne_none_iff_exists'.1 stands
    rw [entryAt?, if_neg (by simp)] at found
    obtain ⟨before, after, spelled, -⟩ := List.lookup_eq_some_iff.1 found
    exact complete (place ++ [name], entry) (by simp [spelled]) name (by simp) rfl
  · exact present name

/-- Where a path leads, its names lead, and something stands. -/
theorem resolve_eq_ok {files : FileSystem} {path : Path} {place : List String} {entry : Entry}
    (leads : files.resolve path = .ok (place, entry)) :
    files.walk (files.start path) path.names = .ok place ∧ files.entryAt? place = some entry := by
  rw [resolve] at leads
  split at leads
  · cases leads
  · rcases Collecting.bind_eq_ok.1 leads with ⟨here, walked, leads⟩
    split at leads
    · cases leads
    · split at leads
      · next entry stands =>
        cases leads
        exact ⟨walked, stands⟩
      · cases leads

/-- What a listing answers are the names at the place of a directory that may be listed. -/
theorem list_eq_ok {files : FileSystem} {path : Path} {names : List String}
    (listed : files.list path = .ok names) :
    ∃ place, files.resolve path = .ok (place, .directory) ∧ names = files.namesIn place := by
  rw [list] at listed
  split at listed
  · cases listed
  · split at listed
    · cases listed
    · cases listed
    · next place found =>
      split at listed
      · cases listed
      · cases listed
        exact ⟨place, found, rfl⟩

theorem ascending_of_list {files : FileSystem} {path : Path} {names : List String}
    (listed : files.list path = .ok names) : names.Pairwise (· < ·) := by
  obtain ⟨place, -, rfl⟩ := list_eq_ok listed
  exact files.ascending_namesIn place

theorem hasNull_of_list {files : FileSystem} {path : Path} {names : List String}
    (listed : files.list path = .ok names) : path.hasNull = false := by
  rw [list] at listed
  split at listed
  · cases listed
  · next noNull => simpa using noNull

/-- What can be listed is a directory. -/
theorem lookUp_of_list {files : FileSystem} {path : Path} {names : List String}
    (listed : files.list path = .ok names) : files.lookUp path = .ok (some .directory) := by
  rcases list_eq_ok listed with ⟨place, found, -⟩
  simp [lookUp, hasNull_of_list listed, found]

/-- A listing fails because of the system, unless the path holds a U+0000. -/
theorem list_eq_error {files : FileSystem} {path : Path} {failure : Failure}
    (refused : files.list path = .error failure) :
    (path.hasNull = true ∧ failure = .nullCharacter) ∨
      (path.hasNull = false ∧ ∃ cause, failure = .system cause path.toString) := by
  rw [list] at refused
  split at refused
  · next null =>
    cases refused
    exact .inl ⟨null, rfl⟩
  · next noNull =>
    refine .inr ⟨by simpa using noNull, ?_⟩
    split at refused
    · cases refused
      exact ⟨_, rfl⟩
    · cases refused
      exact ⟨_, rfl⟩
    · split at refused
      · cases refused
        exact ⟨_, rfl⟩
      · cases refused

/-- What is listed has a name that a file can have. -/
theorem isFileName_of_list {files : FileSystem} {path : Path} {names : List String}
    (listed : files.list path = .ok names) {name : String} (mem : name ∈ names) :
    IsFileName name := by
  rcases list_eq_ok listed with ⟨place, -, rfl⟩
  rw [namesIn, mem_withoutRepeats, List.mem_mergeSort, List.mem_filterMap] at mem
  rcases mem with ⟨⟨other, entry⟩, inEntries, found⟩
  by_cases parent : other.dropLast = place
  · simp only [parent, if_true] at found
    exact files.named _ inEntries name (List.mem_of_getLast? found)
  · simp [parent] at found

end JvmClasspath.FileSystem
