import JvmClasspath.Proofs.Opening

/-!
# What expansion asks for

A location with a star is expanded by listing a directory and asking for everything that is listed
there, be it a jar or not. A jar that is found is spelled as the location spells its directory, and
this spelling leads to where it was found.

So when the expansion of a location goes through, all that it stands for can be asked for, and the
only trouble left is a jar that is not supported.
-/

namespace JvmClasspath

/-! ## Spelling -/

namespace Path

theorem anchorOf_cons (c : Char) (rest : List Char) :
    anchorOf (c :: rest) =
      if c ≠ '/' then .here
      else if rest.head? = some '/' ∧ rest.tail.head? ≠ some '/' then .doubleRoot
      else .root := by
  by_cases first : c = '/'
  · subst first
    match rest with
    | [] => rfl
    | [a] => by_cases second : a = '/' <;> simp [anchorOf, second]
    | a :: b :: others =>
      by_cases second : a = '/' <;> by_cases third : b = '/' <;> simp [anchorOf, second, third]
  · simp [anchorOf, first]

/-- The anchor of a text stays when more is written behind it, unless slashes meet there. -/
theorem anchorOf_append {text more : List Char} (nonempty : text ≠ [])
    (apart : text.getLast? = some '/' → more.head? ≠ some '/') :
    anchorOf (text ++ more) = anchorOf text := by
  match text, nonempty with
  | [a], _ =>
    rw [List.singleton_append, anchorOf_cons, anchorOf_cons]
    simp_all
  | [a, b], _ =>
    by_cases second : b = '/'
    · have differs := apart (by simp [second])
      simp [anchorOf_cons, second, differs]
    · simp [anchorOf_cons, second]
  | a :: b :: c :: rest, _ => simp [anchorOf_cons]

/-- A text spells a path from the root exactly if it starts with a slash. -/
theorem isAbsolute_ofString {text : String} :
    (ofString text).isAbsolute = true ↔ text.toList.head? = some '/' := by
  rw [isAbsolute, ofString, decide_eq_true_iff]
  cases spelled : text.toList with
  | nil => simp [anchorOf]
  | cons c rest =>
    rw [anchorOf_cons]
    split
    · next differs => simp [differs]
    · next same =>
      rw [not_not] at same
      split <;> simp [same]

theorem within_child (base : Option Path) (path : Path) (name : String) :
    (path.child name).within base = (path.within base).child name := by
  cases base with
  | none => rfl
  | some directory =>
    by_cases relative : path.anchor = .here
    · simp [within, join, child, isAbsolute, relative]
    · simp [within, join, child, isAbsolute, relative]

/-- What stands behind a slash is one more name. -/
theorem names_ofString_append {text name : String} {front : List Char}
    (spelled : text.toList = front ++ '/' :: name.toList) (named : IsFileName name) :
    (ofString text).names = (ofString (String.ofList front)).names ++ [name] := by
  rcases named with ⟨nonempty, noDot, -, noSlash⟩
  simp only [ofString, Text.split, spelled, Text.pieces_append, Text.pieces_of_notMem noSlash,
    String.toList_ofList, List.map_append, List.filter_append]
  simp [nonempty, noDot]

/-- A slash at the end adds no name. -/
theorem names_ofString_slash {text : String} {front : List Char}
    (spelled : text.toList = front ++ ['/']) :
    (ofString text).names = (ofString (String.ofList front)).names := by
  simp [ofString, Text.split, spelled, Text.pieces_append, Text.pieces]

end Path

namespace Expansion

/-- A jar is spelled so that the spelling leads into the directory. -/
theorem ofString_spelledIn {directory name : String} (nonempty : directory ≠ "")
    (named : IsFileName name) :
    Path.ofString (spelledIn directory name) = (Path.ofString directory).child name := by
  have nonempty' : directory.toList ≠ [] := by simpa using nonempty
  suffices same :
      Path.anchorOf (spelledIn directory name).toList = Path.anchorOf directory.toList ∧
        (Path.ofString (spelledIn directory name)).names =
          (Path.ofString directory).names ++ [name] by
    rw [Path.child, ← same.2]
    simp [Path.ofString, same.1]
  rw [spelledIn]
  split
  · next ends =>
    rcases List.isSuffixOf_iff_suffix.1 ends with ⟨front, spelled⟩
    have noSlash : name.toList.head? ≠ some '/' :=
      fun first => named.2.2.2 (List.mem_of_head? first)
    constructor
    · rw [String.toList_append]
      exact Path.anchorOf_append nonempty' fun _ => noSlash
    · rw [Path.names_ofString_slash spelled.symm, Path.names_ofString_append _ named]
      simp [← spelled]
  · next ends =>
    have open_end : directory.toList.getLast? ≠ some '/' := by
      intro last
      rcases List.getLast?_eq_some_iff.1 last with ⟨front, spelled⟩
      exact ends (List.isSuffixOf_iff_suffix.2 ⟨front, spelled.symm⟩)
    constructor
    · rw [String.append_assoc, String.toList_append]
      exact Path.anchorOf_append nonempty' fun last => absurd last open_end
    · rw [Path.names_ofString_append _ named, String.ofList_toList]
      simp

/-! ## What is asked for -/

section

variable (files : FileSystem) (base : Option Path) (location : String)

/-- Whether it can be told what a location opens as. -/
def Takes : Prop := Location.Takes files ((Path.ofString location).within base)

/-- Whether it can be told of all that is listed at a location what it opens as. -/
def TakesListed : Prop :=
  ∀ names, files.list ((Path.ofString location).within base) = .ok names →
    ∀ name ∈ names, Location.Takes files (((Path.ofString location).within base).child name)

/-- Whether all that is listed at a location can be asked for. -/
def AsksListed : Prop :=
  ∀ names, files.list ((Path.ofString location).within base) = .ok names →
    ∀ name ∈ names, files.Takes (((Path.ofString location).within base).child name)

/-- Whether the directory of a location with a star can be gone through: its path holds no U+0000,
and all that is listed there can be asked for. All jars that the location stands for are
supported. -/
structure TakesStar : Prop where
  valid : ((Path.ofString (cutLocation location).1).within base).hasNull = false
  asked : AsksListed files base (cutLocation location).1
  supported : ∀ jars, expand files base location = .ok jars →
    ∀ jar ∈ jars, Location.Supports files ((Path.ofString jar).within base)

/-- Whether a location can be expanded, and it can be told what it stands for opens as. -/
def TakesExpanded (stars : Bool) : Prop :=
  if stars = true ∧ '*' ∈ location.toList then TakesStar files base location
  else Takes files base location

end

variable {files : FileSystem} {base : Option Path}

/-- The jars in a directory can be told if all that is listed there can be asked for, or if the
directory cannot be listed for another reason than its spelling. -/
theorem exists_jarsIn_iff {directory : String} (test : String → Bool) :
    (∃ jars, jarsIn files base directory test = .ok jars) ↔
      ((Path.ofString directory).within base).hasNull = false ∧
        AsksListed files base directory := by
  rw [jarsIn, AsksListed]
  cases listed : files.list ((Path.ofString directory).within base) with
  | error failure =>
    rcases FileSystem.list_eq_error listed with ⟨null, rfl⟩ | ⟨noNull, cause, rfl⟩
    · simp [null, throw, throwThe, MonadExceptOf.throw]
    · simp [noNull, pure, Except.pure]
  | ok names =>
    simp only [FileSystem.hasNull_of_list listed, Except.ok.injEq, forall_eq', true_and]
    rw [Collecting.exists_bind_pure_eq_ok, Collecting.exists_filterM_iff]
    simp only [Collecting.exists_bind_pure_eq_ok, FileSystem.isFile_eq_ok_iff]

/-- A jar is one of the listed names, and spelled as its directory is. -/
theorem eq_spelledIn_of_mem_jarsIn {directory : String} {test : String → Bool} {jars : List String}
    (found : jarsIn files base directory test = .ok jars) {jar : String} (mem : jar ∈ jars) :
    ∃ names, files.list ((Path.ofString directory).within base) = .ok names ∧
      ∃ name ∈ names, jar = spelledIn directory name := by
  rw [jarsIn] at found
  cases listed : files.list ((Path.ofString directory).within base) with
  | error failure =>
    simp only [listed] at found
    split at found
    · cases found
      simp at mem
    · cases found
    · next same => cases same
  | ok names =>
    simp only [listed] at found
    rcases Collecting.bind_eq_ok.1 found with ⟨kept, filtered, same⟩
    cases same
    rcases Collecting.filterM_eq_ok.1 filtered with ⟨answer, -, rfl⟩
    rcases List.mem_map.1 mem with ⟨name, inKept, rfl⟩
    exact ⟨names, rfl, name, List.mem_of_mem_filter inKept, rfl⟩

theorem spelledIn_ne_empty {directory name : String} (named : directory ≠ "") :
    spelledIn directory name ≠ "" := by
  rw [spelledIn]
  split
  · simp [named]
  · simp

/-- What is told to be a jar can be asked for. -/
theorem asked_of_mem_jarsIn {directory : String} {test : String → Bool} {jars : List String}
    (nonempty : directory ≠ "") (found : jarsIn files base directory test = .ok jars) :
    ∀ jar ∈ jars, jar ≠ "" ∧ files.Takes ((Path.ofString jar).within base) := by
  intro jar mem
  rcases eq_spelledIn_of_mem_jarsIn found mem with ⟨names, listed, name, inNames, rfl⟩
  have named := FileSystem.isFileName_of_list listed inNames
  rw [ofString_spelledIn nonempty named, Path.within_child]
  exact ⟨spelledIn_ne_empty nonempty,
    ((exists_jarsIn_iff test).1 ⟨jars, found⟩).2 names listed name inNames⟩

/-! ## Expanding a class path string -/

theorem cutLocation_ne_empty (location : String) : (cutLocation location).1 ≠ "" := by
  rw [cutLocation]
  split
  · next before after _ =>
    cases before with
    | nil => simp
    | cons c rest => simp
  · simp

/-- A location with a star stands for the jars in its directory that pass some test. -/
theorem expand_of_star (files : FileSystem) (base : Option Path) {location : String}
    (star : '*' ∈ location.toList) :
    ∃ test, expand files base location = jarsIn files base (cutLocation location).1 test := by
  simp only [expand, star, if_true]
  split
  · exact ⟨_, rfl⟩
  · exact ⟨_, rfl⟩

/-- A location with a star can be gone through exactly if it can be expanded and it can be told what
each of its jars opens as. -/
theorem takesStar_iff {location : String} (star : '*' ∈ location.toList) :
    TakesStar files base location ↔
      ∃ jars, expand files base location = .ok jars ∧ ∀ jar ∈ jars, Takes files base jar := by
  rcases expand_of_star files base star with ⟨test, expands⟩
  have asked : ∀ {jars}, expand files base location = .ok jars →
      ∀ jar ∈ jars, jar ≠ "" ∧ files.Takes ((Path.ofString jar).within base) :=
    fun found => asked_of_mem_jarsIn (cutLocation_ne_empty location) (expands.symm.trans found)
  constructor
  · rintro ⟨valid, listed, supported⟩
    obtain ⟨jars, found⟩ := (exists_jarsIn_iff test).2 ⟨valid, listed⟩
    rw [← expands] at found
    exact ⟨jars, found, fun jar mem => ⟨(asked found jar mem).2, supported jars found jar mem⟩⟩
  · rintro ⟨jars, found, taken⟩
    obtain ⟨valid, listed⟩ := (exists_jarsIn_iff test).1 ⟨jars, expands.symm.trans found⟩
    refine ⟨valid, listed, fun jars' found' jar mem => ?_⟩
    cases found.symm.trans found'
    exact (taken jar mem).supported

/-- A location can be expanded so that it can be told what it stands for opens as, exactly if its
star can be gone through or, if it has none, it can be told of the location itself. -/
theorem exists_expand_iff {location : String} :
    (∃ expanded, expand files base location = .ok expanded ∧
        ∀ each ∈ expanded, each ≠ "" → Takes files base each) ↔
      (location ≠ "" → TakesExpanded files base location true) := by
  by_cases star : '*' ∈ location.toList
  · have nonempty : location ≠ "" := by
      rintro rfl
      simp at star
    rcases expand_of_star files base star with ⟨test, expands⟩
    simp only [TakesExpanded, star, and_self, if_true, nonempty, ne_eq, not_false_eq_true,
      forall_const]
    rw [takesStar_iff star]
    refine exists_congr fun jars => and_congr_right fun found => forall₂_congr fun jar mem => ?_
    rw [expands] at found
    have spelled := (asked_of_mem_jarsIn (cutLocation_ne_empty location) found jar mem).1
    simp [spelled]
  · simp [expand, TakesExpanded, star]

/-- A class path string can be expanded so that it can be told what it stands for opens as, exactly
if each of its locations can. -/
theorem exists_expandAll_iff {path : String} {stars : Bool} :
    (∃ expanded, expandAll files base path stars = .ok expanded ∧
        ∀ location ∈ expanded.filter (· ≠ ""), Takes files base location) ↔
      ∀ location ∈ (locations path).filter (· ≠ ""), TakesExpanded files base location stars := by
  simp only [List.mem_filter, decide_eq_true_eq, and_imp]
  cases stars with
  | false => simp [expandAll, TakesExpanded]
  | true =>
    simp only [← exists_expand_iff]
    exact Collecting.exists_gather_iff

end Expansion

end JvmClasspath
