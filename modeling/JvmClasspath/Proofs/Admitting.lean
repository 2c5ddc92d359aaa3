import JvmClasspath.Proofs.Designating
import JvmClasspath.Proofs.Outcomes

/-!
# Archives that are let in

Three tests decide on the way whether a file is an archive by its name: a star designates what ends
as jars do, a child of an extension directory could be an entry if it ends as archives do, and what
is opened must have an archive's suffix. The first two compare the end of the name, the last one
looks for a dot that has something in front of it.

They agree on every name but the shortest: a file that is named by the ending alone has no suffix.
So a readable archive that is let through in front is opened and becomes an entry, unless its name
is the ending and nothing more; then it is left out as if it were no archive.
-/

namespace JvmClasspath

namespace Location

/-! ## Readable archives -/

section

variable {files : FileSystem} {path : Path} {members : List Member}

/-- What can be read as an archive is a file. -/
theorem lookUp_of_members (read : (Archive.Source.path path).members files = .ok members) :
    ∃ content, files.lookUp path = .ok (some (.file content)) := by
  obtain ⟨content, read, -⟩ := Collecting.bind_eq_ok.1 read
  exact ⟨content, FileSystem.lookUp_of_read read⟩

/-- A readable archive opens if it has an archive's suffix, and as nothing else. -/
theorem opens_iff_of_members (read : (Archive.Source.path path).members files = .ok members)
    {file : File} :
    Opens files path file ↔ hasArchiveSuffix path = true ∧ ∃ opening, file =
      .archive ⟨opening, .path path, path.name, path.toString, Archive.index members⟩ := by
  obtain ⟨content, found⟩ := lookUp_of_members read
  constructor
  · intro opens
    cases opens with
    | directory found' => cases found.symm.trans found'
    | archive opening found' named read' =>
      cases read.symm.trans read'
      exact ⟨named, opening, rfl⟩
  · rintro ⟨named, opening, rfl⟩
    exact .archive opening found named read

end

end Location

/-! ## What stars let through -/

namespace Expansion

variable {files : FileSystem} {base : Option Path} {location : String} {jars : List String}

/-- What a star designates is named as jars are, and opened under that name. -/
theorem isJar_of_expand (star : '*' ∈ location.toList)
    (expanded : expand files base location = .ok jars) :
    ∀ jar ∈ jars, jar ≠ "" ∧ isJar (pathOf base jar).name = true := by
  have named := cutLocation_ne_empty location
  rw [expand_of_isCut files base (isCut_cutLocation location) star] at expanded
  intro jar mem
  obtain ⟨names, listed, -⟩ := eq_spelledIn_of_mem_jarsIn expanded mem
  obtain ⟨kept, -, rfl, mem_kept⟩ := jarsIn_eq_ok listed expanded
  obtain ⟨name, inKept, rfl⟩ := List.mem_map.1 mem
  obtain ⟨inNames, -, -, isJar⟩ := (mem_kept name).1 inKept
  have opened : (pathOf base (spelledIn (cutLocation location).1 name)).name = name := by
    rw [pathOf, ofString_spelledIn named (FileSystem.isFileName_of_list listed inNames),
      Path.within_child, Path.name, Path.child, List.getLast?_concat]
    rfl
  rw [opened]
  exact ⟨spelledIn_ne_empty named, isJar⟩

end Expansion

/-! ## What is let in -/

/-- The children of a plain file are plain files. -/
theorem File.exists_paths_of_children {files : FileSystem} {path : Path} {children : List File}
    (listed : (plain path).children files = .ok children) :
    ∃ paths : List Path, children = paths.map plain := by
  rcases children_plain_eq_ok listed with rfl | ⟨names, -, rfl⟩
  · exact ⟨[], rfl⟩
  · exact ⟨names.map path.child, by rw [List.map_map]; rfl⟩

namespace Assembly

/-- An entry over the archive at a path, in one opening or another. -/
inductive Outcome.OverArchive (policy : Policy) (path : Path) (members : List Member) :
    Outcome → Prop where
  | entry (built opening : Nat) :
      OverArchive policy path members (.entry (.directory built .binaries
        (.archive ⟨opening, .path path, path.name, path.toString, Archive.index members⟩) policy))

variable (setup : Setup)

/-- What becomes of a file that was let through by its name, if it is a readable archive: an entry
over it, or a skip if its name is an ending and nothing more. -/
def Admits (path : Path) (skip : Skip) (outcome : Outcome) : Prop :=
  ∀ members, (Archive.Source.path path).members setup.world.files = .ok members →
    if Location.IsLoneEnding path.name then outcome = .skip skip
    else outcome.OverArchive setup.policy path members

/-- The outcomes of a location of the user path: its own, or with a star in it one for each jar that
it stands for, and each of these is let in. -/
inductive UserAdmits (location : String) : List Outcome → Prop where
  | plain {outcomes : List Outcome} (starless : '*' ∉ location.toList)
      (each : List.Forall₂ (LocationOutcome setup .user .binaries)
        ([location].filter (· ≠ "")) outcomes) : UserAdmits location outcomes
  | star {jars : List String} {outcomes : List Outcome} (star : '*' ∈ location.toList)
      (expanded : Expansion.expand setup.world.files setup.base location = .ok jars)
      (each : List.Forall₂ (fun jar outcome =>
        LocationOutcome setup .user .binaries jar outcome ∧
          Admits setup (Expansion.pathOf setup.base jar) ⟨.user, jar, .notOpenable⟩ outcome)
        jars outcomes) : UserAdmits location outcomes

/-- The outcomes of an extension directory: one for each child that could be an entry, or a single
skip. Each child is let in, unless the directory is itself inside an archive. -/
inductive DirectoryAdmits (location : String) : List Outcome → Prop where
  | skip (closed : ∀ file, ¬(openLocation setup location).Returns (some file)) :
      DirectoryAdmits location [.skip ⟨.ext, location, .notOpenable⟩]
  | plain {directory : Path} {children : List Path} {outcomes : List Outcome}
      (opened : (openLocation setup location).Returns (some (.plain directory)))
      (listed : (File.plain directory).children setup.world.files = .ok (children.map .plain))
      (each : List.Forall₂ (fun child outcome =>
        ExtensionOutcome setup (.plain child) outcome ∧
          Admits setup child ⟨.ext, child.toString, .unreadableArchive⟩ outcome)
        (children.filter fun child => IsExtension setup (.plain child)) outcomes) :
      DirectoryAdmits location outcomes
  | archive {archive : Archive} {children : List File} {outcomes : List Outcome}
      (opened : (openLocation setup location).Returns (some (.archive archive)))
      (listed : (File.archive archive).children setup.world.files = .ok children)
      (each :
        List.Forall₂ (ExtensionOutcome setup) (children.filter (IsExtension setup)) outcomes) :
      DirectoryAdmits location outcomes

/-- The outcomes of all components, in their order. -/
inductive AllAdmitted (components : Components) : List Outcome → Prop where
  | inOrder {boot codebase source : List Outcome} {ext user : List (List Outcome)}
      (ofBoot : PathOutcomes setup .boot false .binaries components.boot boot)
      (ofExt : List.Forall₂ (DirectoryAdmits setup)
        ((Expansion.locations components.ext).filter (· ≠ "")) ext)
      (ofUser : List.Forall₂ (UserAdmits setup) (Expansion.locations components.user) user)
      (ofCodebase : List.Forall₂ (TokenOutcome setup) (codebaseTokens components.codebase) codebase)
      (ofSource : PathOutcomes setup .source false .sources components.source source) :
      AllAdmitted components (boot ++ ext.flatten ++ user.flatten ++ codebase ++ source)

variable {setup}

/-- A file that ends as archives do is let in when its path is opened. -/
theorem admits_of_outcome {path : Path} {skip : Skip} {outcome : Outcome}
    (named : Location.EndsAsArchive path.name)
    (fits : Outcome.Of
      (fun file => (Location.openPath? setup.world.files path).Returns (some file)) .binaries
      setup.policy (· = skip) outcome) : Admits setup path skip outcome := by
  intro members read
  have opens_iff := @Location.opens_iff_of_members _ _ _ read
  cases fits with
  | entry built opened =>
    obtain ⟨session, returned⟩ := opened
    obtain ⟨suffix, opening, rfl⟩ :=
      opens_iff.1 ((Location.openPath?_yields setup.world.files path).good returned)
    rw [if_neg (Location.hasArchiveSuffix_iff.1 suffix).2]
    exact .entry built opening
  | skip closed record =>
    subst record
    split
    · rfl
    · next something =>
      have suffix := Location.hasArchiveSuffix_iff.2 ⟨named, something⟩
      have yields := Location.openPath?_yields setup.world.files path
      obtain ⟨file, returned⟩ := (Location.exists_returns_iff yields fun _ =>
        Location.takes_of_opens).2 ⟨_, opens_iff.2 ⟨suffix, 0, rfl⟩⟩
      exact absurd returned (closed file)

/-- The outcomes of a location of the user path are so, whatever it stands for. -/
theorem userAdmits_of_outcomes {location : String} {expanded : List String}
    {outcomes : List Outcome}
    (known : Expansion.expand setup.world.files setup.base location = .ok expanded)
    (each : List.Forall₂ (LocationOutcome setup .user .binaries) (expanded.filter (· ≠ ""))
      outcomes) : UserAdmits setup location outcomes := by
  by_cases star : '*' ∈ location.toList
  · have jars := Expansion.isJar_of_expand star known
    have all : expanded.filter (· ≠ "") = expanded :=
      List.filter_eq_self.2 fun jar mem => decide_eq_true (jars jar mem).1
    have ends : ∀ jar ∈ expanded,
        Location.EndsAsArchive (Expansion.pathOf setup.base jar).name :=
      fun jar mem => ⟨Expansion.jarEnding, by decide, (jars jar mem).2⟩
    rw [all] at each
    refine .star star known (((List.forall₂_and_left _ _).2 ⟨ends, each⟩).imp ?_)
    rintro jar outcome ⟨named, fits⟩
    exact ⟨fits, admits_of_outcome named fits⟩
  · rw [Expansion.expand, if_neg star] at known
    cases known
    exact .plain star each

theorem userAdmits_of_pathOutcomes {path : String} {outcomes : List Outcome}
    (fits : PathOutcomes setup .user true .binaries path outcomes) :
    ∃ each, List.Forall₂ (UserAdmits setup) (Expansion.locations path) each ∧
      outcomes = each.flatten := by
  obtain ⟨locations, expanded, answered⟩ := fits
  obtain ⟨lists, expansions, rfl⟩ := Collecting.gather_eq_ok.1 expanded
  rw [List.filter_flatten] at answered
  obtain ⟨parts, each, rfl⟩ := Collecting.exists_flatten_of_answers answered
  rw [List.forall₂_map_left_iff] at each
  refine ⟨parts, (Collecting.answers_in_steps expansions each).imp ?_, rfl⟩
  rintro location part ⟨list, known, each⟩
  exact userAdmits_of_outcomes known each

/-- A child that could be an entry and is a readable archive ends as archives do. -/
theorem endsAsArchive_of_isExtension {path : Path} {members : List Member}
    (extension : IsExtension setup (.plain path))
    (read : (Archive.Source.path path).members setup.world.files = .ok members) :
    Location.EndsAsArchive path.name := by
  rcases extension with named | directory
  · exact named
  · obtain ⟨content, found⟩ := Location.lookUp_of_members read
    rw [File.isDirectory, FileSystem.isDirectory, found] at directory
    cases directory

theorem directoryAdmits_of_outcomes {location : String} {outcomes : List Outcome}
    (fits : DirectoryOutcomes setup location outcomes) :
    DirectoryAdmits setup location outcomes := by
  cases fits with
  | skip closed => exact .skip closed
  | @children directory children _ opened listed each =>
    have opens := opened
    obtain ⟨session, returned⟩ := opens
    cases (openLocation_yields setup location).good returned with
    | archive opening found named read => exact .archive opened listed each
    | directory found =>
      obtain ⟨paths, rfl⟩ := File.exists_paths_of_children listed
      rw [List.filter_map, List.forall₂_map_left_iff] at each
      have extensions : ∀ path ∈ paths.filter fun child => IsExtension setup (.plain child),
          IsExtension setup (.plain path) :=
        fun path mem => of_decide_eq_true (List.mem_filter.1 mem).2
      refine .plain opened listed (((List.forall₂_and_left _ _).2 ⟨extensions, each⟩).imp ?_)
      rintro path outcome ⟨extension, fits⟩
      refine ⟨fits, ?_⟩
      intro members read
      exact admits_of_outcome (endsAsArchive_of_isExtension extension read) fits members read

/-- In every class path that is assembled, each readable archive that was let through by its name,
be it designated by a star of the user path or a child of an extension directory, has an entry over
it for its one outcome. The exception is a name that is nothing but the ending: it is left out. -/
theorem archives_admitted {components : Components} {session : Session} {package : Package}
    (returned : ((assemble setup components).run.run session).1 = .ok package) :
    ∃ built all, AllAdmitted setup components all ∧ package = ofOutcomes setup built all := by
  obtain ⟨built, all, fits, rfl⟩ := (assemble_yields setup components).good returned
  refine ⟨built, all, ?_, rfl⟩
  cases fits with
  | inOrder ofBoot ofExt ofUser ofCodebase ofSource =>
    obtain ⟨ext, directories, rfl⟩ := ofExt
    obtain ⟨user, locations, rfl⟩ := userAdmits_of_pathOutcomes ofUser
    exact .inOrder ofBoot (directories.imp fun _ _ => directoryAdmits_of_outcomes) locations
      ofCodebase ofSource

/-- Archives of which two are named by their endings alone. -/
def stubSetup : Setup where
  world :=
    ⟨FileSystem.ofEntries [(["lib"], .directory), (["lib", "a.JAR"], .file (.archive [])),
      (["odd"], .directory), (["odd", ".jar"], .file (.archive [])),
      (["ext"], .directory), (["ext", "..Zip"], .file (.archive [])),
      (["off"], .directory), (["off", ".ZIP"], .file (.archive []))],
    ⟨[]⟩⟩
  base := none
  policy := .showAll

def stubComponents : Components := ⟨"", "/ext:/off", "/lib/*:/odd/*", "", ""⟩

/-- What is assembled there. -/
def stubs : Package :=
  .merged 4
    (.wholeClassPath [⟨.ext, "/off/.ZIP", .unreadableArchive⟩, ⟨.user, "/odd/.jar", .notOpenable⟩])
    [.directory 1 .binaries
        (.archive ⟨0, .path ⟨.root, ["ext", "..Zip"]⟩, "..Zip", "/ext/..Zip", []⟩) .showAll,
      .directory 3 .binaries
        (.archive ⟨2, .path ⟨.root, ["lib", "a.JAR"]⟩, "a.JAR", "/lib/a.JAR", []⟩) .showAll]
    .showAll

/-- The two that have a name in front of the ending are entries. -/
theorem archives_admitted_stubs :
    ((assemble stubSetup stubComponents).run.run .start).1 = .ok stubs ∧
      ∃ built all, AllAdmitted stubSetup stubComponents all ∧
        stubs = ofOutcomes stubSetup built all := by
  have returned : ((assemble stubSetup stubComponents).run.run .start).1 = .ok stubs := by
    decide +kernel
  exact ⟨returned, archives_admitted returned⟩

/-- A readable archive that is named by the ending alone is designated by a star and could be an
entry of its directory, but is left out of the user path as well as of the extension path. -/
theorem lone_endings_left_out :
    Expansion.expand stubSetup.world.files none "/odd/*" = .ok ["/odd/.jar"] ∧
      (Archive.Source.path (Path.ofString "/odd/.jar")).members stubSetup.world.files = .ok [] ∧
      ∃ package,
        ((assemble stubSetup ⟨"", "/odd", "/odd/*", "", ""⟩).run.run .start).1 = .ok package ∧
          package.entries? = some [] ∧
          package.skipped? = some [⟨.ext, "/odd/.jar", .unreadableArchive⟩,
            ⟨.user, "/odd/.jar", .notOpenable⟩] := by
  refine ⟨by decide +kernel, by decide +kernel, .merged 0 (.wholeClassPath
    [⟨.ext, "/odd/.jar", .unreadableArchive⟩, ⟨.user, "/odd/.jar", .notOpenable⟩]) [] .showAll,
    by decide +kernel, rfl, rfl⟩

end Assembly

end JvmClasspath
