import JvmClasspath.Proofs.Expanding
import JvmClasspath.Proofs.Fitting
import JvmClasspath.Proofs.Unpacking

/-!
# What a star designates

A location with a star is a directory and, behind the last slash, a pattern. It expands to the jars
of this directory that the pattern is for, in the order of their names, and each of them is spelled
so that the spelling opens the very file that was listed.

The pattern that is a star alone is for every jar. Any other pattern is for the jars that it fits.
Since a gap holds no line break, a pattern of two stars is for fewer jars than that of one: a jar
with a line break in its name is designated by a star alone, and by two stars it is not.
-/

namespace JvmClasspath

/-! ## Children by path -/

namespace FileSystem

variable {files : FileSystem} {path : Path} {place : List String}

/-- The path of a child leads to its place, unless it is refused or nothing stands there. -/
theorem resolve_child (leads : files.resolve path = .ok (place, .directory)) {name : String}
    (down : name ≠ "..") :
    (∃ cause, files.resolve (path.child name) = .error cause ∧ cause.meansAbsent = false) ∨
      files.resolve (path.child name) =
        match files.entryAt? (place ++ [name]) with
        | some entry => .ok (place ++ [name], entry)
        | none => .error .notFound := by
  obtain ⟨walked, stands⟩ := resolve_eq_ok leads
  have onward : files.walk (files.start (path.child name)) (path.child name).names =
      if place ∈ files.sealed then .error .permissionDenied
      else if name.utf8ByteSize > nameLimit then .error .nameTooLong
      else .ok (place ++ [name]) := by
    have same : files.start (path.child name) = files.start path := rfl
    rw [same, Path.child, walk_append, walked]
    change files.walk place [name] = _
    rw [walk, stands]
    simp only [if_neg down]
    rfl
  have noDot : path.child name ≠ .current := by simp [Path.child, Path.current]
  by_cases far : (path.child name).toString.utf8ByteSize ≥ pathLimit
  · exact .inl ⟨.nameTooLong, if_pos far, rfl⟩
  by_cases closed : place ∈ files.sealed
  · refine .inl ⟨.permissionDenied, ?_, rfl⟩
    rw [resolve, if_neg far, onward, if_pos closed]
    rfl
  by_cases long : name.utf8ByteSize > nameLimit
  · refine .inl ⟨.nameTooLong, ?_, rfl⟩
    rw [resolve, if_neg far, onward, if_neg closed, if_pos long]
    rfl
  · rw [if_neg closed, if_neg long] at onward
    exact .inr (resolve_of_walk (Nat.lt_of_not_le far) onward fun dot => absurd dot noDot)

theorem hasNull_child (valid : path.hasNull = false) (name : String) :
    (path.child name).hasNull = decide ('\x00' ∈ name.toList) := by
  rw [Path.hasNull] at valid
  simp [Path.hasNull, Path.child, valid]

section

variable {name : String} (leads : files.resolve path = .ok (place, .directory))
  (valid : path.hasNull = false) (down : name ≠ "..") (takes : files.Takes (path.child name))
include leads valid down takes

/-- What can be asked for as a child is found where it stands. -/
theorem resolve_child_of_takes (storable : '\x00' ∉ name.toList) :
    files.resolve (path.child name) =
      match files.entryAt? (place ++ [name]) with
      | some entry => .ok (place ++ [name], entry)
      | none => .error .notFound := by
  refine (resolve_child leads down).resolve_left ?_
  rintro ⟨cause, refused, stays⟩
  have absent := takes.resolve_left (by simp [hasNull_child valid, storable]) cause refused
  rw [stays] at absent
  cases absent

/-- It is a file exactly if a file stands there, under a name that can be stored. -/
theorem isFile_child_iff :
    files.isFile (path.child name) = .ok true ↔
      '\x00' ∉ name.toList ∧ ∃ content,
        files.entryAt? (place ++ [name]) = some (.file content) := by
  by_cases null : '\x00' ∈ name.toList
  · simp [isFile, lookUp, hasNull_child valid, null, Except.map]
  · rw [isFile, lookUp, hasNull_child valid, resolve_child_of_takes leads valid down takes null]
    rcases files.entryAt? (place ++ [name]) with _ | _ | content
    · simp [null, SystemError.meansAbsent, Except.map]
    · simp [null, Except.map]
    · simp [null, Except.map]

end

end FileSystem

namespace Expansion

variable {files : FileSystem} {base : Option Path} {location directory pattern : String}

/-! ## Directory and pattern -/

/-- Whether a location is a pattern for what is in a directory. A pattern alone is for the current
directory, and one with a slash before it and nothing more is for the root. -/
inductive IsCut : String → String → String → Prop where
  | bare {pattern : String} (plain : '/' ∉ pattern.toList) : IsCut pattern "." pattern
  | root {pattern : String} (plain : '/' ∉ pattern.toList) : IsCut ("/" ++ pattern) "/" pattern
  | inside {directory pattern : String} (named : directory ≠ "") (plain : '/' ∉ pattern.toList) :
      IsCut (directory ++ "/" ++ pattern) directory pattern

theorem IsCut.cutLocation_eq (cut : IsCut location directory pattern) :
    cutLocation location = (directory, pattern) := by
  cases cut with
  | bare plain => rw [cutLocation, Text.cutLast?_of_notMem plain]
  | root plain =>
    have spelled : ("/" ++ pattern).toList = [] ++ '/' :: pattern.toList := by simp
    rw [cutLocation, spelled, Text.cutLast?_append [] plain]
    simp
  | inside named plain =>
    have spelled : (directory ++ "/" ++ pattern).toList =
        directory.toList ++ '/' :: pattern.toList := by simp
    rw [cutLocation, spelled, Text.cutLast?_append directory.toList plain]
    simp [named]

/-- Every location is cut in this way. -/
theorem isCut_cutLocation (location : String) :
    IsCut location (cutLocation location).1 (cutLocation location).2 := by
  by_cases slash : '/' ∈ location.toList
  · obtain ⟨before, after, spelled, plain⟩ := Text.exists_last_separator slash
    have same : location = String.ofList before ++ "/" ++ String.ofList after := by
      rw [← String.toList_inj, spelled]
      simp
    rw [cutLocation, spelled, Text.cutLast?_append before plain]
    cases before with
    | nil =>
      rw [same]
      exact .root (by rwa [String.toList_ofList])
    | cons c rest =>
      rw [same]
      exact .inside (by simp) (by rwa [String.toList_ofList])
  · rw [cutLocation, Text.cutLast?_of_notMem slash]
    exact .bare slash

theorem isCut_iff :
    IsCut location directory pattern ↔ cutLocation location = (directory, pattern) := by
  constructor
  · exact IsCut.cutLocation_eq
  · intro same
    have cut := isCut_cutLocation location
    rwa [same] at cut

instance (location directory pattern : String) : Decidable (IsCut location directory pattern) :=
  decidable_of_iff' _ isCut_iff

/-- What stands behind a slash is the pattern, whatever text stands before it. -/
theorem isCut_append (text : String) (plain : '/' ∉ pattern.toList) :
    IsCut (text ++ "/" ++ pattern) (if text = "" then "/" else text) pattern := by
  split
  · next nothing =>
    subst nothing
    exact .root plain
  · next named => exact .inside named plain

theorem IsCut.directory_ne_empty (cut : IsCut location directory pattern) : directory ≠ "" := by
  cases cut with
  | bare plain => decide
  | root plain => decide
  | inside named plain => exact named

theorem IsCut.star (cut : IsCut location directory pattern) (star : '*' ∈ pattern.toList) :
    '*' ∈ location.toList := by
  cases cut with
  | bare plain => exact star
  | root plain => simp [star]
  | inside named plain => simp [star]

/-- Whether a pattern is for files of this name: a star alone is for all. -/
def isFor (pattern name : String) : Bool := pattern = "*" || Glob.accepts pattern name

theorem isFor_iff {name : String} :
    isFor pattern name = true ↔ (pattern ≠ "*" → Glob.accepts pattern name = true) := by
  rw [isFor, Bool.or_eq_true, decide_eq_true_iff]
  exact Decidable.or_iff_not_imp_left

theorem isFor_star : isFor "*" = fun _ => true := by
  funext name
  simp [isFor]

/-- A location with a star stands for the jars in its directory that its pattern is for. -/
theorem expand_of_isCut (files : FileSystem) (base : Option Path)
    (cut : IsCut location directory pattern) (star : '*' ∈ location.toList) :
    expand files base location = jarsIn files base directory (isFor pattern) := by
  rw [expand, if_pos star, cut.cutLocation_eq]
  by_cases all : pattern = "*"
  · subst all
    simp only [if_true, isFor_star]
  · have fitting : isFor pattern = Glob.accepts pattern := by
      funext name
      simp [isFor, all]
    simp only [all, if_false, fitting]

/-! ## Jars -/

/-- A jar is named so in any letter case. -/
theorem isJar_iff {name : String} :
    isJar name = true ↔
      ∃ stem ending, name.toList = stem ++ ending ∧ Text.lowerAscii ending = jarEnding.toList :=
  Text.endsWithAnyCase_iff

/-- No name of a jar ends in a line break. -/
theorem eq_nil_of_isEnd {name : String} (jar : isJar name = true) {front rest : List Char}
    (spelled : name.toList = front ++ rest) (ends : Glob.isEnd rest = true) : rest = [] := by
  rcases Glob.isEnd_iff.1 ends with rfl | rfl
  · rfl
  · rw [isJar, Text.endsWithAnyCase, List.isSuffixOf_iff_suffix, spelled] at jar
    obtain ⟨before, same⟩ := jar
    have last := congrArg List.getLast? same
    simp [Text.lowerAscii, jarEnding] at last

/-- The name of a file that is spelled in a directory. -/
theorem name_spelledIn (named : directory ≠ "") {name : String} (fileName : IsFileName name) :
    (Path.ofString (spelledIn directory name)).name = name := by
  rw [ofString_spelledIn named fileName, Path.name, Path.child, List.getLast?_concat]
  rfl

theorem names_spelledIn (named : directory ≠ "") {names : List String}
    (fileNames : ∀ name ∈ names, IsFileName name) :
    (names.map (spelledIn directory)).map (fun jar => (Path.ofString jar).name) = names := by
  induction names with
  | nil => rfl
  | cons name rest ih =>
    rw [List.forall_mem_cons] at fileNames
    rw [List.map_cons, List.map_cons, name_spelledIn named fileNames.1, ih fileNames.2]

/-- The jars in a directory that a test is for are some of the listed names, in their order: those
of files, with a jar's ending, that pass. -/
theorem jarsIn_eq_ok {names jars : List String} {test : String → Bool}
    (listed : files.list ((Path.ofString directory).within base) = .ok names)
    (found : jarsIn files base directory test = .ok jars) :
    ∃ kept : List String, kept.Sublist names ∧ jars = kept.map (spelledIn directory) ∧
      ∀ name, name ∈ kept ↔ name ∈ names ∧
        files.isFile (((Path.ofString directory).within base).child name) = .ok true ∧
        test name = true ∧ isJar name = true := by
  simp only [jarsIn, listed] at found
  obtain ⟨kept, filtered, same⟩ := Collecting.bind_eq_ok.1 found
  cases same
  refine ⟨kept, Collecting.sublist_of_filterM filtered, rfl, ?_⟩
  intro name
  rw [Collecting.mem_iff_of_filterM filtered]
  apply and_congr_right
  intro _
  cases files.isFile (((Path.ofString directory).within base).child name) with
  | error failure => simp [bind, Except.bind]
  | ok isFile => simp [bind, Except.bind, pure, Except.pure, and_assoc]

/-- A test of names picks from the jars of a directory. -/
theorem jarsIn_eq_filter (files : FileSystem) (base : Option Path) (named : directory ≠ "")
    (test : String → Bool) :
    jarsIn files base directory test =
      (jarsIn files base directory fun _ => true).map
        (List.filter fun jar => test (Path.ofString jar).name) := by
  rw [jarsIn, jarsIn]
  cases listed : files.list ((Path.ofString directory).within base) with
  | error failure =>
    rcases FileSystem.list_eq_error listed with ⟨-, rfl⟩ | ⟨-, cause, rfl⟩
    · rfl
    · rfl
  | ok names =>
    have more : ∀ name, (do
        return (← files.isFile (((Path.ofString directory).within base).child name)) &&
          test name && isJar name : Except Failure Bool) =
        (do
          return (← files.isFile (((Path.ofString directory).within base).child name)) &&
            true && isJar name : Except Failure Bool).map (· && test name) := by
      intro name
      cases files.isFile (((Path.ofString directory).within base).child name) with
      | error failure => rfl
      | ok isFile =>
        simp [bind, Except.bind, pure, Except.pure, Except.map, Bool.and_right_comm _ (test name)]
    simp only [Collecting.filterM_map_and more, Collecting.bind_map, Collecting.map_bind,
      Collecting.map_pure]
    apply Collecting.bind_congr_of_ok
    intro kept filtered
    rw [List.filter_map]
    refine congrArg (fun kept => Except.ok (List.map (spelledIn directory) kept)) ?_
    apply List.filter_congr
    intro name mem
    have inNames := (Collecting.sublist_of_filterM filtered).subset mem
    rw [Function.comp_apply, name_spelledIn named (FileSystem.isFileName_of_list listed inNames)]

/-! ## What is designated -/

/-- Whether a directory, given by its place, holds a jar that a pattern is for: a file that is named
as a jar in any letter case and, unless the pattern is a star alone, is fitted by it. No name that a
file system can store holds U+0000. -/
structure HoldsJar (files : FileSystem) (place : List String) (pattern name : String) : Prop where
  file : ∃ content, files.entryAt? (place ++ [name]) = some (.file content)
  storable : '\x00' ∉ name.toList
  jar : ∃ stem ending, name.toList = stem ++ ending ∧ Text.lowerAscii ending = jarEnding.toList
  fits : pattern ≠ "*" → Glob.accepts pattern name = true

/-- The path at which a location is opened: a relative one is seen from the base directory. -/
def pathOf (base : Option Path) (location : String) : Path := (Path.ofString location).within base

/-- What a location with a star expands to are the names of the jars that its directory holds, in
the order of the listing. -/
theorem expand_eq_ok (cut : IsCut location directory pattern) (star : '*' ∈ location.toList)
    {names jars : List String} (listed : files.list (pathOf base directory) = .ok names)
    (expanded : expand files base location = .ok jars) :
    ∃ place, ∃ kept : List String, files.resolve (pathOf base directory) = .ok (place, .directory) ∧
      kept.Sublist names ∧ jars = kept.map (spelledIn directory) ∧
      (∀ name, name ∈ kept ↔ HoldsJar files place pattern name) ∧
      ∀ name ∈ names, '\x00' ∉ name.toList →
        files.resolve ((pathOf base directory).child name) =
          match files.entryAt? (place ++ [name]) with
          | some entry => .ok (place ++ [name], entry)
          | none => .error .notFound := by
  rw [expand_of_isCut files base cut star] at expanded
  have takes := ((exists_jarsIn_iff _).1 ⟨jars, expanded⟩).2 names listed
  have valid := FileSystem.hasNull_of_list listed
  have down : ∀ name ∈ names, name ≠ ".." :=
    fun name mem => (FileSystem.isFileName_of_list listed mem).2.2.1
  obtain ⟨kept, sublist, rfl, mem_kept⟩ := jarsIn_eq_ok listed expanded
  obtain ⟨place, leads, rfl⟩ := FileSystem.list_eq_ok listed
  have isFile_iff := fun name mem =>
    FileSystem.isFile_child_iff leads valid (down name mem) (takes name mem)
  refine ⟨place, kept, leads, sublist, rfl, ?_, ?_⟩
  · intro name
    rw [mem_kept]
    constructor
    · intro given
      obtain ⟨inNames, isFile, passes, isJar⟩ := given
      obtain ⟨storable, file⟩ := (isFile_iff name inNames).1 isFile
      exact ⟨file, storable, isJar_iff.1 isJar, isFor_iff.1 passes⟩
    · intro holds
      have inNames : name ∈ files.namesIn place := by
        obtain ⟨content, stands⟩ := holds.file
        rw [FileSystem.mem_namesIn, stands]
        exact Option.some_ne_none _
      exact ⟨inNames, (isFile_iff name inNames).2 ⟨holds.storable, holds.file⟩,
        isFor_iff.2 holds.fits, isJar_iff.2 holds.jar⟩
  · intro name inNames storable
    exact FileSystem.resolve_child_of_takes leads valid (down name inNames) (takes name inNames)
      storable

/-- A location with a star, whose directory can be listed, expands to the jars that the directory
holds and the pattern is for, and to all of them, strictly ascending by name. Each is spelled so
that it is opened at the path of the child that was listed, and leads to the place of its file. -/
theorem expand_designates (files : FileSystem) (base : Option Path)
    (cut : IsCut location directory pattern) (star : '*' ∈ location.toList)
    {names jars : List String} (listed : files.list (pathOf base directory) = .ok names)
    (expanded : expand files base location = .ok jars) :
    (jars.map fun jar => (Path.ofString jar).name).Pairwise (· < ·) ∧
    ∃ place, files.resolve (pathOf base directory) = .ok (place, .directory) ∧
      (∀ jar ∈ jars, ∃ name content, HoldsJar files place pattern name ∧
        pathOf base jar = (pathOf base directory).child name ∧
        files.resolve (pathOf base jar) = .ok (place ++ [name], .file content)) ∧
      ∀ name, HoldsJar files place pattern name →
        ∃ jar ∈ jars, pathOf base jar = (pathOf base directory).child name := by
  obtain ⟨place, kept, leads, sublist, rfl, mem_kept, resolved⟩ :=
    expand_eq_ok cut star listed expanded
  have named := cut.directory_ne_empty
  have fileName : ∀ name ∈ kept, IsFileName name :=
    fun name mem => FileSystem.isFileName_of_list listed (sublist.subset mem)
  have opened : ∀ name ∈ kept,
      pathOf base (spelledIn directory name) = (pathOf base directory).child name := by
    intro name mem
    rw [pathOf, ofString_spelledIn named (fileName name mem), Path.within_child, pathOf]
  refine ⟨?_, place, leads, ?_, ?_⟩
  · rw [names_spelledIn named fileName]
    exact (FileSystem.ascending_of_list listed).sublist sublist
  · intro jar mem
    obtain ⟨name, inKept, rfl⟩ := List.mem_map.1 mem
    have holds := (mem_kept name).1 inKept
    obtain ⟨content, stands⟩ := holds.file
    refine ⟨name, content, holds, opened name inKept, ?_⟩
    rw [opened name inKept, resolved name (sublist.subset inKept) holds.storable, stands]
  · intro name holds
    have inKept := (mem_kept name).2 holds
    exact ⟨_, List.mem_map_of_mem inKept, opened name inKept⟩

/-- A shelf of jars, one of them with a line break in its name, beside a directory that is named as
a jar and another archive. -/
def shelf : FileSystem := FileSystem.ofEntries
  [(["w"], .directory), (["w", "lib"], .directory), (["w", "lib", "a-4.jar"], .directory),
    (["w", "lib", "a-3.zip"], .file (.bytes [])), (["w", "lib", "a-2.JAR"], .file (.bytes [])),
    (["w", "lib", "a-1.jar"], .file (.bytes [])), (["w", "lib", "a\n0.jar"], .file (.bytes []))]

/-- The directory that a relative location is seen from. -/
def workshop : Option Path := some (Path.ofString "/w")

theorem list_shelf : shelf.list (pathOf workshop "lib/.") =
    .ok ["a\n0.jar", "a-1.jar", "a-2.JAR", "a-3.zip", "a-4.jar"] := by
  have leads : shelf.resolve (pathOf workshop "lib/.") = .ok (["w", "lib"], .directory) := by
    decide +kernel
  have names : shelf.namesIn ["w", "lib"] =
      ["a\n0.jar", "a-1.jar", "a-2.JAR", "a-3.zip", "a-4.jar"] :=
    FileSystem.namesIn_eq_of_entries (by decide +kernel) (by decide +kernel) (by decide +kernel)
  rw [FileSystem.list_eq_ok_namesIn (by decide +kernel) leads (by decide +kernel), names]

/-- Two jars are designated, whose spelling leads back to the shelf. -/
theorem expand_designates_shelf :
    IsCut "lib/./a-*" "lib/." "a-*" ∧
      expand shelf workshop "lib/./a-*" = .ok ["lib/./a-1.jar", "lib/./a-2.JAR"] ∧
      ∃ name content, shelf.resolve (pathOf workshop "lib/./a-2.JAR") =
        .ok (["w", "lib", name], .file content) := by
  have cut : IsCut "lib/./a-*" "lib/." "a-*" := by decide +kernel
  have expanded : expand shelf workshop "lib/./a-*" = .ok ["lib/./a-1.jar", "lib/./a-2.JAR"] := by
    rw [expand_of_isCut shelf workshop cut (by decide), jarsIn, ← pathOf]
    simp only [list_shelf]
    decide +kernel
  obtain ⟨-, place, leads, found, -⟩ :=
    expand_designates shelf workshop cut (by decide) list_shelf expanded
  have here : shelf.resolve (pathOf workshop "lib/.") = .ok (["w", "lib"], .directory) := by
    decide +kernel
  cases leads.symm.trans here
  obtain ⟨name, content, -, -, opened⟩ := found "lib/./a-2.JAR" (by simp)
  exact ⟨cut, expanded, name, content, opened⟩

/-! ## One star and others -/

/-- A pattern fits a jar if the name is its parts with gaps on one line: there is no line break at
the end that could be left over. -/
theorem accepts_iff_fills {name : String} (jar : isJar name = true) :
    Glob.accepts pattern name = true ↔
      Glob.Fills ('\n' ∉ ·) (Text.pieces '*' pattern.toList) name.toList := by
  rw [Glob.accepts_eq_fits, Glob.fits_iff]
  constructor
  · intro given
    obtain ⟨front, rest, fills, ends, spelled⟩ := given
    rw [eq_nil_of_isEnd jar spelled ends, List.append_nil] at spelled
    exact spelled ▸ fills
  · intro fills
    exact ⟨_, [], fills, rfl, (List.append_nil _).symm⟩

/-- Whether the name of a file has no line break. -/
def OnOneLine (jar : String) : Prop := '\n' ∉ (Path.ofString jar).name.toList

instance : DecidablePred OnOneLine := fun _ => inferInstanceAs (Decidable (_ ∉ _))

/-- Two stars are for what is on one line. -/
theorem isFor_two_stars {jar : String} (named : isJar (Path.ofString jar).name = true) :
    isFor "**" (Path.ofString jar).name = decide (OnOneLine jar) := by
  have parts : Text.pieces '*' "**".toList = [[], [], []] := by decide
  rw [Bool.eq_iff_iff, isFor_iff, decide_eq_true_iff, accepts_iff_fills named, parts, OnOneLine]
  simp only [Glob.fills_cons (List.cons_ne_nil _ _), Glob.fills_singleton, List.nil_append]
  constructor
  · intro fits
    obtain ⟨first, _, oneLine, ⟨second, _, oneLine', rfl, rfl⟩, spelled⟩ := fits (by decide)
    rw [spelled]
    simp [oneLine, oneLine']
  · intro oneLine _
    exact ⟨_, [], oneLine, ⟨[], [], by simp, rfl, rfl⟩, by simp⟩

section

variable {everything : String}

/-- A pattern picks from the jars that a star alone designates. -/
theorem expand_eq_filter (files : FileSystem) (base : Option Path)
    (every : IsCut everything directory "*") (cut : IsCut location directory pattern)
    (star : '*' ∈ pattern.toList) :
    expand files base location =
      (expand files base everything).map
        (List.filter fun jar => isFor pattern (Path.ofString jar).name) := by
  rw [expand_of_isCut files base cut (cut.star star),
    expand_of_isCut files base every (every.star (by decide)), isFor_star,
    jarsIn_eq_filter files base cut.directory_ne_empty]

/-- What a star alone designates is named as jars are. -/
theorem isJar_of_mem (every : IsCut everything directory "*") {jars : List String}
    (expanded : expand files base everything = .ok jars) :
    ∀ jar ∈ jars, isJar (Path.ofString jar).name = true := by
  rw [expand_of_isCut files base every (every.star (by decide))] at expanded
  intro jar mem
  obtain ⟨names, listed, -⟩ := eq_spelledIn_of_mem_jarsIn expanded mem
  obtain ⟨kept, -, rfl, mem_kept⟩ := jarsIn_eq_ok listed expanded
  obtain ⟨name, inKept, rfl⟩ := List.mem_map.1 mem
  obtain ⟨inNames, -, -, isJar⟩ := (mem_kept name).1 inKept
  rwa [name_spelledIn every.directory_ne_empty (FileSystem.isFileName_of_list listed inNames)]

/-- Two stars designate what is on one line among what one star does. -/
theorem expand_two_stars (files : FileSystem) (base : Option Path)
    (every : IsCut everything directory "*") (two : IsCut location directory "**") :
    expand files base location = (expand files base everything).map (List.filter OnOneLine) := by
  rw [expand_eq_filter files base every two (by decide)]
  cases expanded : expand files base everything with
  | error failure => rw [Except.map, Except.map]
  | ok jars =>
    refine congrArg Except.ok (List.filter_congr ?_)
    intro jar mem
    exact isFor_two_stars (isJar_of_mem every expanded jar mem)

/-- Among the jars that a star alone designates, a pattern designates those that are its parts with
a gap on one line in the place of each star, and if it is a star alone, all. -/
theorem mem_iff_of_expand (every : IsCut everything directory "*")
    (cut : IsCut location directory pattern) (star : '*' ∈ pattern.toList) {all jars : List String}
    (whole : expand files base everything = .ok all)
    (expanded : expand files base location = .ok jars) {jar : String} (mem : jar ∈ all) :
    jar ∈ jars ↔ pattern = "*" ∨
      Glob.Fills ('\n' ∉ ·) (Text.pieces '*' pattern.toList) (Path.ofString jar).name.toList := by
  rw [expand_eq_filter files base every cut star, whole] at expanded
  cases expanded
  rw [List.mem_filter, isFor_iff, accepts_iff_fills (isJar_of_mem every whole jar mem),
    and_iff_right mem, Decidable.or_iff_not_imp_left]

end

/-- Behind the same text, a slash and two stars designate what is on one line among what one star
does, and so without a slash. Any other pattern fails as one star does. Else it designates some of
what one star does, in the same order: of the jars that are on one line exactly those that are the
parts of the pattern with any texts in the places of the stars; and a jar with a line break in its
name only if it is so with texts on one line, or if the pattern is one star. -/
theorem expand_patterns (files : FileSystem) (base : Option Path) :
    expand files base "**" = (expand files base "*").map (List.filter OnOneLine) ∧
    ∀ text : String,
      expand files base (text ++ "/" ++ "**") =
        (expand files base (text ++ "/" ++ "*")).map (List.filter OnOneLine) ∧
      ∀ pattern : String, '*' ∈ pattern.toList → '/' ∉ pattern.toList →
        match expand files base (text ++ "/" ++ "*") with
        | .error failure => expand files base (text ++ "/" ++ pattern) = .error failure
        | .ok all => ∃ jars, expand files base (text ++ "/" ++ pattern) = .ok jars ∧
          jars.Sublist all ∧ ∀ jar ∈ all,
            (OnOneLine jar → (jar ∈ jars ↔ Glob.Fills (fun _ => True)
              (Text.pieces '*' pattern.toList) (Path.ofString jar).name.toList)) ∧
            (jar ∈ jars ↔ pattern = "*" ∨ Glob.Fills ('\n' ∉ ·)
              (Text.pieces '*' pattern.toList) (Path.ofString jar).name.toList) := by
  refine ⟨expand_two_stars files base (.bare (by decide)) (.bare (by decide)), ?_⟩
  intro text
  have every : IsCut (text ++ "/" ++ "*") (if text = "" then "/" else text) "*" :=
    isCut_append text (by decide)
  refine ⟨expand_two_stars files base every (isCut_append text (by decide)), ?_⟩
  intro pattern star plain
  have cut := isCut_append text plain
  cases whole : expand files base (text ++ "/" ++ "*") with
  | error failure =>
    change expand files base (text ++ "/" ++ pattern) = .error failure
    rw [expand_eq_filter files base every cut star, whole]
    rfl
  | ok all =>
    have expanded := expand_eq_filter files base every cut star
    rw [whole] at expanded
    refine ⟨_, expanded, List.filter_sublist, ?_⟩
    intro jar mem
    have designated := mem_iff_of_expand every cut star whole expanded mem
    refine ⟨?_, designated⟩
    intro oneLine
    rw [designated, Glob.fills_oneLine_iff oneLine, or_iff_right_iff_imp]
    intro alone
    have parts : Text.pieces '*' "*".toList = [[], []] := by decide
    rw [alone, parts, Glob.fills_cons (List.cons_ne_nil _ _)]
    exact ⟨_, [], trivial, Glob.fills_singleton.2 rfl, (List.append_nil _).symm⟩

/-- One star designates three jars, two stars the two of them that are on one line, and a longer
pattern one of these. -/
theorem expand_patterns_shelf :
    expand shelf workshop "lib/./*" =
        .ok ["lib/./a\n0.jar", "lib/./a-1.jar", "lib/./a-2.JAR"] ∧
      expand shelf workshop "lib/./**" = .ok ["lib/./a-1.jar", "lib/./a-2.JAR"] ∧
      ∃ jars, expand shelf workshop "lib/./a*1*" = .ok jars ∧ "lib/./a-1.jar" ∈ jars ∧
        "lib/./a-2.JAR" ∉ jars := by
  have one : expand shelf workshop "lib/./*" =
      .ok ["lib/./a\n0.jar", "lib/./a-1.jar", "lib/./a-2.JAR"] := by
    have cut : IsCut "lib/./*" "lib/." "*" := by decide +kernel
    rw [expand_of_isCut shelf workshop cut (by decide), jarsIn, ← pathOf]
    simp only [list_shelf]
    decide +kernel
  obtain ⟨two, more⟩ := (expand_patterns shelf workshop).2 "lib/."
  have every : "lib/." ++ "/" ++ "*" = "lib/./*" := by decide
  have longer := more "a*1*" (by decide) (by decide)
  rw [every, one] at two longer
  obtain ⟨jars, expanded, -, picked⟩ := longer
  refine ⟨one, two.trans (by decide +kernel), jars, expanded, ?_, ?_⟩
  · apply ((picked "lib/./a-1.jar" (by simp)).1 (by decide +kernel)).2
    exact ⟨["-".toList, ".jar".toList], by decide +kernel, by simp, by decide +kernel⟩
  · intro mem
    have fits := ((picked "lib/./a-2.JAR" (by simp)).2.1 mem).resolve_left (by decide)
    rw [← accepts_iff_fills (by decide +kernel)] at fits
    revert fits
    decide +kernel

/-- One jar, with a line break in its name. -/
def broken : FileSystem := FileSystem.ofEntries
  [(["lib"], .directory), (["lib", "a\nb.jar"], .file (.bytes []))]

/-- A jar with a line break in its name is designated by one star and not by two, although its name
is nothing, any text, nothing, any text and nothing. -/
theorem two_stars_drop :
    expand broken none "/lib/*" = .ok ["/lib/a\nb.jar"] ∧
      expand broken none "/lib/**" = .ok [] ∧
      Glob.Fills (fun _ => True) (Text.pieces '*' "**".toList) "a\nb.jar".toList := by
  refine ⟨by decide +kernel, by decide +kernel, ?_⟩
  exact ⟨[[], "a\nb.jar".toList], by decide, by simp, by decide⟩

end Expansion

end JvmClasspath
