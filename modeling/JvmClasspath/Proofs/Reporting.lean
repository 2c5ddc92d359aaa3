import JvmClasspath.Proofs.Admitting
import JvmClasspath.Proofs.Joining

/-!
# Segments that come to nothing

A segment is one location of a component, or one token of the codebase. If nothing else is given,
the class path tells what became of it: an entry if it opens, a skip if it does not.

In two places a segment stands for what a directory holds, and where this is nothing there is
nothing to tell: a star in the user path may designate no jar, be it that its directory is empty or
that there is none, and an extension directory may hold nothing that could be an entry. In all other
cases a segment has an outcome of its own.
-/

namespace JvmClasspath

open Session Session.Run

/-! ## Blank ends -/

namespace Text

theorem mem_of_mem_strippedOf {p : Char → Bool} {text : List Char} {c : Char}
    (mem : c ∈ strippedOf p text) : c ∈ text := by
  rw [strippedOf, List.mem_reverse] at mem
  exact (List.dropWhile_sublist p).subset
    (List.mem_reverse.1 ((List.dropWhile_sublist p).subset mem))

/-- What is stripped is empty exactly if all of it is of the class. -/
theorem strippedOf_eq_nil_iff {p : Char → Bool} {text : List Char} :
    strippedOf p text = [] ↔ ∀ c ∈ text, p c = true := by
  rw [strippedOf, List.reverse_eq_nil_iff, List.dropWhile_eq_nil_iff]
  simp only [List.mem_reverse]
  constructor
  · intro all
    -- The first character that is left over after the front would not be of the class.
    have front : text.dropWhile p = [] := by
      by_contra left
      have kept := List.head_dropWhile_not p left
      rw [all _ (List.head_mem left)] at kept
      cases kept
    exact List.dropWhile_eq_nil_iff.1 front
  · intro all c mem
    exact all c ((List.dropWhile_sublist p).subset mem)

end Text

namespace Expansion

variable {files : FileSystem} {base : Option Path} {location directory pattern : String}

/-! ## Single locations -/

theorem locations_of_whole {text : String} (whole : ':' ∉ text.toList) :
    locations text = [text] := by
  rw [locations, Text.split, Text.pieces_of_notMem whole, List.map_singleton, String.ofList_toList]

/-- A text without a colon is expanded as one location. -/
theorem expandAll_of_whole (files : FileSystem) (base : Option Path) {text : String}
    (whole : ':' ∉ text.toList) (stars : Bool) :
    expandAll files base text stars = if stars then expand files base text else .ok [text] := by
  rw [expandAll, locations_of_whole whole]
  cases stars with
  | false => rfl
  | true =>
    simp only [if_true, List.mapM_cons, List.mapM_nil]
    cases expand files base text with
    | error failure => rfl
    | ok locations => exact congrArg Except.ok (List.append_nil locations)

/-! ## Stars that designate nothing -/

/-- Whether there is nothing that a pattern could be for: the directory cannot be listed, or holds
no jar that the pattern is for. -/
def DesignatesNothing (files : FileSystem) (base : Option Path) (directory pattern : String) :
    Prop :=
  ∀ names place, files.list (pathOf base directory) = .ok names →
    files.resolve (pathOf base directory) = .ok (place, .directory) →
      ∀ name, ¬HoldsJar files place pattern name

/-- A location with a star expands to nothing exactly if it designates nothing. -/
theorem eq_nil_iff_of_expand (cut : IsCut location directory pattern)
    (star : '*' ∈ location.toList) {jars : List String}
    (expanded : expand files base location = .ok jars) :
    jars = [] ↔ DesignatesNothing files base directory pattern := by
  cases listed : files.list (pathOf base directory) with
  | error failure =>
    have nothing : DesignatesNothing files base directory pattern := by
      intro names place listed'
      cases listed.symm.trans listed'
    refine iff_of_true ?_ nothing
    apply List.eq_nil_iff_forall_not_mem.2
    intro jar mem
    rw [expand_of_isCut files base cut star] at expanded
    obtain ⟨names, listed', -⟩ := eq_spelledIn_of_mem_jarsIn expanded mem
    cases listed.symm.trans listed'
  | ok names =>
    obtain ⟨place, kept, leads, -, rfl, mem_kept, -⟩ := expand_eq_ok cut star listed expanded
    rw [List.map_eq_nil_iff, List.eq_nil_iff_forall_not_mem]
    simp only [mem_kept]
    constructor
    · intro none names' place' _ leads'
      cases leads.symm.trans leads'
      exact none
    · intro nothing
      exact nothing names place listed leads

end Expansion

namespace Assembly

/-! ## Segments -/

/-- Whether a text is one location of a component, or one token of the codebase. -/
def IsSegment (component : Component) (text : String) : Prop :=
  match component with
  | .codebase => ' ' ∉ text.toList ∧ ∃ c ∈ text.toList, Text.isBlank c = false
  | _ => text ≠ "" ∧ ':' ∉ text.toList

/-- Whether a segment has no outcome: a star in the user path that designates nothing, or an
extension directory that opens and holds nothing that could be an entry. -/
inductive Silent (setup : Setup) : Component → String → Prop where
  | user {location directory pattern : String} (cut : Expansion.IsCut location directory pattern)
      (star : '*' ∈ location.toList)
      (nothing : Expansion.DesignatesNothing setup.world.files setup.base directory pattern) :
      Silent setup .user location
  | ext {location : String} {directory : File} {children : List File}
      (opens : Location.Opens setup.world.files (Expansion.pathOf setup.base location) directory)
      (listed : directory.children setup.world.files = .ok children)
      (noExtension : ∀ child ∈ children, ¬IsExtension setup child) : Silent setup .ext location

variable {setup : Setup} {text : String} {outcomes : List Outcome}

/-- Every outcome is an entry or a skip. -/
theorem halves_eq_nil_iff :
    outcomes.filterMap Outcome.package? = [] ∧ outcomes.filterMap Outcome.skip? = [] ↔
      outcomes = [] := by
  cases outcomes with
  | nil => simp
  | cons outcome rest => cases outcome <;> simp [Outcome.package?, Outcome.skip?]

/-- A token with blanks around it is one token. -/
theorem codebaseTokens_of_segment (whole : ' ' ∉ text.toList)
    (visible : ∃ c ∈ text.toList, Text.isBlank c = false) :
    codebaseTokens text = [String.ofList (Text.stripped text.toList)] := by
  have noSpace : ' ' ∉ Text.stripped text.toList :=
    fun mem => whole (Text.mem_of_mem_strippedOf mem)
  have nonempty : Text.stripped text.toList ≠ [] := by
    rw [Text.stripped, ne_eq, Text.strippedOf_eq_nil_iff]
    obtain ⟨c, mem, shows⟩ := visible
    intro all
    simp [all c mem] at shows
  rw [codebaseTokens, Text.split, String.toList_ofList, Text.pieces_of_notMem noSpace]
  simpa using nonempty

/-! ## What a segment comes to -/

/-- A location without a star to be expanded has an outcome. -/
theorem PathOutcomes.ne_nil {component : Component} {stars : Bool} {role : Role}
    (nonempty : text ≠ "") (whole : ':' ∉ text.toList) (plain : stars = true → '*' ∉ text.toList)
    (fits : PathOutcomes setup component stars role text outcomes) : outcomes ≠ [] := by
  obtain ⟨locations, expanded, each⟩ := fits
  have alone : Expansion.expandAll setup.world.files setup.base text stars = .ok [text] := by
    rw [Expansion.expandAll_of_whole _ _ whole]
    split
    · next expands => rw [Expansion.expand, if_neg (plain expands)]
    · rfl
  cases alone.symm.trans expanded
  rw [List.filter_cons_of_pos (by simpa using nonempty)] at each
  cases each with
  | cons here below => exact List.cons_ne_nil _ _

/-- A location with a star has the outcomes of the jars that it designates. -/
theorem PathOutcomes.eq_nil_iff {location directory pattern : String}
    (whole : ':' ∉ location.toList) (cut : Expansion.IsCut location directory pattern)
    (star : '*' ∈ location.toList)
    (fits : PathOutcomes setup .user true .binaries location outcomes) :
    outcomes = [] ↔
      Expansion.DesignatesNothing setup.world.files setup.base directory pattern := by
  obtain ⟨jars, expanded, each⟩ := fits
  rw [Expansion.expandAll_of_whole _ _ whole, if_pos rfl] at expanded
  have named : jars.filter (· ≠ "") = jars := List.filter_eq_self.2 fun jar mem =>
    decide_eq_true (Expansion.isJar_of_expand star expanded jar mem).1
  rw [named] at each
  rw [← Expansion.eq_nil_iff_of_expand cut star expanded]
  constructor
  · rintro rfl
    exact List.forall₂_nil_right_iff.1 each
  · rintro rfl
    exact List.forall₂_nil_left_iff.1 each

/-- An extension directory has no outcome if it opens and nothing in it could be an entry, in
whichever opening one looks. -/
theorem DirectoryOutcomes.eq_nil_iff {location : String}
    (fits : DirectoryOutcomes setup location outcomes) :
    outcomes = [] ↔ Silent setup .ext location := by
  have yields := openLocation_yields setup location
  cases fits with
  | skip closed =>
    refine iff_of_false (List.cons_ne_nil _ _) ?_
    intro silent
    cases silent with
    | ext opens listed noExtension =>
      obtain ⟨file, returned⟩ :=
        (Location.exists_returns_iff yields fun _ => Location.takes_of_opens).2 ⟨_, opens⟩
      exact closed file returned
  | children opened listed each =>
    obtain ⟨session, returned⟩ := opened
    have opens := yields.good returned
    constructor
    · rintro rfl
      have none := List.filter_eq_nil_iff.1 (List.forall₂_nil_right_iff.1 each)
      exact .ext opens listed fun child mem => by simpa using none child mem
    · intro silent
      cases silent with
      | ext opens' listed' noExtension =>
        have same := children_same (opens'.unnumbered_eq opens) listed' listed
        rw [List.filter_eq_nil_iff.2 ?_] at each
        · exact List.forall₂_nil_left_iff.1 each
        · intro child mem
          obtain ⟨child', mem', sameChild⟩ := Collecting.exists_of_mem_answers same mem
          simpa [← isExtension_iff_of_unnumbered sameChild] using noExtension child' mem'

/-- A segment has an outcome unless it is one of those that have none. -/
theorem ComponentOutcomes.eq_nil_iff {component : Component} (segment : IsSegment component text)
    (fits : ComponentOutcomes setup component text outcomes) :
    outcomes = [] ↔ Silent setup component text := by
  cases component with
  | boot =>
    obtain ⟨nonempty, whole⟩ := segment
    have own : PathOutcomes setup .boot false .binaries text outcomes := fits
    refine iff_of_false (own.ne_nil nonempty whole (by simp)) ?_
    intro silent
    cases silent
  | ext =>
    obtain ⟨nonempty, whole⟩ := segment
    obtain ⟨parts, each, rfl⟩ := fits
    rw [Expansion.locations_of_whole whole, List.filter_cons_of_pos (by simpa using nonempty)]
      at each
    cases each with
    | cons here below =>
      cases below
      rw [List.flatten_singleton]
      exact here.eq_nil_iff
  | user =>
    obtain ⟨nonempty, whole⟩ := segment
    have own : PathOutcomes setup .user true .binaries text outcomes := fits
    by_cases star : '*' ∈ text.toList
    · constructor
      · intro none
        have cut := Expansion.isCut_cutLocation text
        exact .user cut star ((own.eq_nil_iff whole cut star).1 none)
      · intro silent
        cases silent with
        | user cut star nothing => exact (own.eq_nil_iff whole cut star).2 nothing
    · refine iff_of_false (own.ne_nil nonempty whole fun _ => star) ?_
      intro silent
      cases silent with
      | user cut star' nothing => exact star star'
  | codebase =>
    obtain ⟨whole, visible⟩ := segment
    rw [ComponentOutcomes, codebaseTokens_of_segment whole visible] at fits
    cases fits with
    | cons here below =>
      refine iff_of_false (List.cons_ne_nil _ _) ?_
      intro silent
      cases silent
  | source =>
    obtain ⟨nonempty, whole⟩ := segment
    have own : PathOutcomes setup .source false .sources text outcomes := fits
    refine iff_of_false (own.ne_nil nonempty whole (by simp)) ?_
    intro silent
    cases silent

/-- A class path of one segment has neither an entry nor a skip exactly if the segment is one of
those that have no outcome. -/
theorem unreported_iff {component : Component} {session : Session} {package : Package}
    (segment : IsSegment component text)
    (returned : ((assemble setup (.alone component text)).run.run session).1 = .ok package) :
    package.entries? = some [] ∧ package.skipped? = some [] ↔ Silent setup component text := by
  obtain ⟨built, all, fits, rfl⟩ := (assemble_alone_yields setup component text).good returned
  rw [← fits.eq_nil_iff segment, ← halves_eq_nil_iff, ofOutcomes, Package.entries?,
    Package.skipped?, Option.some_inj, Option.some_inj]

/-- A directory without a jar in it, and one without anything that could be an entry. -/
def quietSetup : Setup where
  world :=
    ⟨FileSystem.ofEntries [(["ext"], .directory), (["ext", "notes.txt"], .file (.bytes [])),
      (["lib"], .directory), (["lib", "a.zip"], .file (.archive []))], ⟨[]⟩⟩
  base := none
  policy := .showAll

/-- A class path with nothing in it and nothing left out. -/
def nothing : Package := .merged 0 (.wholeClassPath []) [] .showAll

theorem unreported_iff_quiet :
    (IsSegment .user "lib/*" ∧
      ((assemble quietSetup (.alone .user "lib/*")).run.run .start).1 = .ok nothing ∧
      Silent quietSetup .user "lib/*") ∧
    IsSegment .ext "ext" ∧
      ((assemble quietSetup (.alone .ext "ext")).run.run .start).1 = .ok nothing ∧
      Silent quietSetup .ext "ext" := by
  have star : IsSegment .user "lib/*" := ⟨by decide, by decide⟩
  have directory : IsSegment .ext "ext" := ⟨by decide, by decide⟩
  have ofStar : ((assemble quietSetup (.alone .user "lib/*")).run.run .start).1 = .ok nothing := by
    decide +kernel
  have ofDirectory : ((assemble quietSetup (.alone .ext "ext")).run.run .start).1 =
      .ok nothing := by decide +kernel
  exact ⟨⟨star, ofStar, (unreported_iff star ofStar).1 ⟨rfl, rfl⟩⟩,
    directory, ofDirectory, (unreported_iff directory ofDirectory).1 ⟨rfl, rfl⟩⟩

/-- A star in a directory that does not exist and an extension directory without extensions leave no
trace in the class path. -/
theorem segments_unreported :
    (IsSegment .user "gone/*" ∧
      ((assemble quietSetup (.alone .user "gone/*")).run.run .start).1 = .ok nothing) ∧
    (IsSegment .ext "ext" ∧
      ((assemble quietSetup (.alone .ext "ext")).run.run .start).1 = .ok nothing) ∧
    nothing.entries? = some [] ∧ nothing.skipped? = some [] := by
  refine ⟨⟨⟨by decide, by decide⟩, ?_⟩, ⟨⟨by decide, by decide⟩, ?_⟩, rfl, rfl⟩
  · decide +kernel
  · decide +kernel

end Assembly

end JvmClasspath
