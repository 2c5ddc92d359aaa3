import JvmClasspath.Proofs.Outcomes

/-!
# Components written one after the other

The locations of a component are independent of each other: each is expanded, opened and recorded by
itself, and none looks at what its neighbours came to. So a component that is two texts with a colon
between them stands for what the first stands for and then for what the second does, and a class
path that is assembled from it has the entries and the skips of the one followed by those of the
other.

The entries are not the very same, because every archive is opened anew and every entry is built
anew. What a location comes to is therefore compared without the numbers that a session gives out;
but for these there is only one thing that it can come to.
-/

namespace JvmClasspath

open Session Session.Run

variable {files : FileSystem}

/-! ## Openings of one file -/

/-- An archive without the number of its opening. -/
def Archive.unnumbered (archive : Archive) : Archive := { archive with opening := 0 }

namespace File

/-- A file without the number of the opening that it was found in. -/
def unnumbered : File → File
  | plain path => plain path
  | archive a => archive a.unnumbered
  | folder a member children => folder a.unnumbered member children
  | entry a member => entry a.unnumbered member

@[simp] theorem name_unnumbered (file : File) : file.unnumbered.name = file.name := by
  cases file <;> rfl

@[simp] theorem display_unnumbered (file : File) : file.unnumbered.display = file.display := by
  cases file <;> rfl

@[simp] theorem isDirectory_unnumbered (file : File) :
    file.unnumbered.isDirectory files = file.isDirectory files := by
  cases file <;> rfl

theorem ofTree_unnumbered (archive : Archive) (above : String) (child : String × Archive.Tree) :
    ofTree archive.unnumbered above child = (ofTree archive above child).unnumbered := by
  rcases child with ⟨name, member | children⟩ <;> rfl

/-- Only what lies in an archive is found by an opening. -/
theorem eq_plain_of_unnumbered {file : File} {path : Path}
    (same : file.unnumbered = .plain path) : file = .plain path := by
  cases file with
  | plain other => exact same
  | archive a => cases same
  | folder a member children => cases same
  | entry a member => cases same

/-- What a file holds is the same in every opening. -/
theorem children_unnumbered (file : File) :
    file.unnumbered.children files = (file.children files).map (List.map unnumbered) := by
  cases file with
  | plain path =>
    rw [unnumbered, children]
    cases files.isDirectory path with
    | error failure => rfl
    | ok isDirectory =>
      cases isDirectory with
      | false => rfl
      | true =>
        cases files.list path with
        | error failure => rfl
        | ok names => exact congrArg Except.ok (by rw [List.map_map]; rfl)
  | archive a =>
    refine congrArg Except.ok ?_
    rw [List.map_map]
    exact List.map_congr_left fun child _ => ofTree_unnumbered a "" child
  | folder a member inner =>
    refine congrArg Except.ok ?_
    rw [List.map_map]
    exact List.map_congr_left fun child _ => ofTree_unnumbered a member child
  | entry a member => rfl

end File

namespace Location

/-- There is one thing that a path opens as. -/
theorem Opens.unnumbered_eq {path : Path} {file file' : File} (opens : Opens files path file)
    (opens' : Opens files path file') : file.unnumbered = file'.unnumbered := by
  cases opens with
  | directory found =>
    cases opens' with
    | directory found' => rfl
    | archive opening found' named read => cases found.symm.trans found'
  | archive opening found named read =>
    cases opens' with
    | directory found' => cases found.symm.trans found'
    | archive opening' found' named' read' =>
      cases read.symm.trans read'
      rfl

theorem takesFile_of_extensionOpens {child file : File} (opens : ExtensionOpens files child file) :
    TakesFile files child := by
  cases child with
  | plain path => exact takes_of_opens opens
  | archive a => trivial
  | folder a member inner => trivial
  | entry a member => trivial

theorem extensionOpens_iff_of_inner {child file : File} (inner : ∀ path, child ≠ .plain path) :
    ExtensionOpens files child file ↔ child.isDirectory files = .ok true ∧ file = child := by
  cases child with
  | plain path => exact absurd rfl (inner path)
  | archive a => exact Iff.rfl
  | folder a member children => exact Iff.rfl
  | entry a member => exact Iff.rfl

/-- There is one thing that a child of an extension directory opens as. -/
theorem unnumbered_eq_of_extensionOpens {child file file' : File}
    (opens : ExtensionOpens files child file) (opens' : ExtensionOpens files child file') :
    file.unnumbered = file'.unnumbered := by
  by_cases plain : ∃ path, child = .plain path
  · obtain ⟨path, rfl⟩ := plain
    exact opens.unnumbered_eq opens'
  · have inner := not_exists.1 plain
    obtain ⟨-, rfl⟩ := (extensionOpens_iff_of_inner inner).1 opens
    obtain ⟨-, rfl⟩ := (extensionOpens_iff_of_inner inner).1 opens'
    rfl

/-- What a child of an extension directory opens as, it also opens as in every other opening of the
directory. -/
theorem exists_extensionOpens {child child' file : File}
    (same : child.unnumbered = child'.unnumbered) (opens : ExtensionOpens files child file) :
    ∃ file', ExtensionOpens files child' file' ∧ file.unnumbered = file'.unnumbered := by
  by_cases plain : ∃ path, child = .plain path
  · obtain ⟨path, rfl⟩ := plain
    obtain rfl := File.eq_plain_of_unnumbered same.symm
    exact ⟨file, opens, rfl⟩
  · have inner := not_exists.1 plain
    have inner' : ∀ path, child' ≠ .plain path := by
      rintro path rfl
      exact inner path (File.eq_plain_of_unnumbered same)
    obtain ⟨found, rfl⟩ := (extensionOpens_iff_of_inner inner).1 opens
    rw [← File.isDirectory_unnumbered, same, File.isDirectory_unnumbered] at found
    exact ⟨child', (extensionOpens_iff_of_inner inner').2 ⟨found, rfl⟩, same⟩

end Location

/-! ## What locations come to -/

/-- Whether two packages show one directory, or openings of one archive, in the same role and by the
same policy. -/
inductive Package.ShowsSame : Package → Package → Prop where
  | directory (built built' : Nat) (role : Role) {file file' : File}
      (same : file.unnumbered = file'.unnumbered) (policy : Policy) :
      ShowsSame (.directory built role file policy) (.directory built' role file' policy)

namespace Assembly

/-- Whether two outcomes differ in numbers at most. -/
inductive Outcome.Same : Outcome → Outcome → Prop where
  | entry {package package' : Package} (same : package.ShowsSame package') :
      Same (.entry package) (.entry package')
  | skip (skip : Skip) : Same (.skip skip) (.skip skip)

/-- Where one thing opens, in one opening or another, there is one outcome. -/
theorem Outcome.Of.same {opens opens' : File → Prop} {role : Role} {policy : Policy} {skip : Skip}
    (both : (∃ file, opens file) ↔ ∃ file, opens' file)
    (one : ∀ {file file'}, opens file → opens' file' → file.unnumbered = file'.unnumbered)
    {outcome outcome' : Outcome} (fits : Outcome.Of opens role policy (· = skip) outcome)
    (fits' : Outcome.Of opens' role policy (· = skip) outcome') : outcome.Same outcome' := by
  cases fits with
  | entry built opened =>
    cases fits' with
    | entry built' opened' =>
      exact .entry (.directory built built' role (one opened opened') policy)
    | skip closed record =>
      obtain ⟨file, opened'⟩ := both.1 ⟨_, opened⟩
      exact absurd opened' (closed file)
  | skip closed record =>
    cases fits' with
    | entry built' opened' =>
      obtain ⟨file, opened⟩ := both.2 ⟨_, opened'⟩
      exact absurd opened (closed file)
    | skip closed' record' =>
      subst record record'
      exact .skip _

variable {setup : Setup}

theorem unnumbered_eq_of_openLocation {location : String} {file file' : File}
    (returned : (openLocation setup location).Returns (some file))
    (returned' : (openLocation setup location).Returns (some file')) :
    file.unnumbered = file'.unnumbered := by
  obtain ⟨session, returned⟩ := returned
  obtain ⟨session', returned'⟩ := returned'
  exact ((openLocation_yields setup location).good returned).unnumbered_eq
    ((openLocation_yields setup location).good returned')

theorem LocationOutcome.same {component : Component} {role : Role} {location : String}
    {outcome outcome' : Outcome} (fits : LocationOutcome setup component role location outcome)
    (fits' : LocationOutcome setup component role location outcome') : outcome.Same outcome' :=
  Outcome.Of.same Iff.rfl unnumbered_eq_of_openLocation fits fits'

theorem PathOutcomes.same {component : Component} {stars : Bool} {role : Role} {path : String}
    {outcomes outcomes' : List Outcome}
    (fits : PathOutcomes setup component stars role path outcomes)
    (fits' : PathOutcomes setup component stars role path outcomes') :
    List.Forall₂ Outcome.Same outcomes outcomes' := by
  obtain ⟨locations, expanded, each⟩ := fits
  obtain ⟨locations', expanded', each'⟩ := fits'
  cases expanded.symm.trans expanded'
  apply Collecting.repeated_answers _ each each'
  intro location outcome outcome' fits fits'
  exact fits.same fits'

/-! ### Extension directories -/

theorem ExtensionOutcome.same {child child' : File} {outcome outcome' : Outcome}
    (fits : ExtensionOutcome setup child outcome) (same : child.unnumbered = child'.unnumbered)
    (fits' : ExtensionOutcome setup child' outcome') : outcome.Same outcome' := by
  have shown : child.display = child'.display := by
    rw [← File.display_unnumbered child, ← File.display_unnumbered child', same]
  rw [ExtensionOutcome, ← shown] at fits'
  have yields := Location.openExtension_yields setup.world.files
  refine Outcome.Of.same ?_ ?_ fits fits'
  · rw [Location.exists_returns_iff (yields child) fun _ => Location.takesFile_of_extensionOpens,
      Location.exists_returns_iff (yields child') fun _ => Location.takesFile_of_extensionOpens]
    constructor
    · rintro ⟨file, opens⟩
      obtain ⟨file', opens', -⟩ := Location.exists_extensionOpens same opens
      exact ⟨file', opens'⟩
    · rintro ⟨file', opens'⟩
      obtain ⟨file, opens, -⟩ := Location.exists_extensionOpens same.symm opens'
      exact ⟨file, opens⟩
  · rintro file file' ⟨session, returned⟩ ⟨session', returned'⟩
    obtain ⟨other, opens, fileSame⟩ :=
      Location.exists_extensionOpens same ((yields child).good returned)
    exact fileSame.trans
      (Location.unnumbered_eq_of_extensionOpens opens ((yields child').good returned'))

theorem isExtension_iff_of_unnumbered {child child' : File}
    (same : child.unnumbered = child'.unnumbered) :
    IsExtension setup child ↔ IsExtension setup child' := by
  rw [IsExtension, IsExtension, ← File.name_unnumbered child, ← File.name_unnumbered child',
    ← File.isDirectory_unnumbered child, ← File.isDirectory_unnumbered child', same]

/-- Openings of one directory list the same. -/
theorem children_same {directory directory' : File} {children children' : List File}
    (same : directory.unnumbered = directory'.unnumbered)
    (listed : directory.children files = .ok children)
    (listed' : directory'.children files = .ok children') :
    List.Forall₂ (fun child child' => child.unnumbered = child'.unnumbered) children children' := by
  have spelled : directory.unnumbered.children files = directory'.unnumbered.children files := by
    rw [same]
  rw [File.children_unnumbered, File.children_unnumbered, listed, listed'] at spelled
  have each : List.Forall₂ Eq (children.map File.unnumbered) (children'.map File.unnumbered) := by
    rw [List.forall₂_eq_eq_eq]
    exact Except.ok.inj spelled
  simpa using each

theorem DirectoryOutcomes.same {location : String} {outcomes outcomes' : List Outcome}
    (fits : DirectoryOutcomes setup location outcomes)
    (fits' : DirectoryOutcomes setup location outcomes') :
    List.Forall₂ Outcome.Same outcomes outcomes' := by
  cases fits with
  | skip closed =>
    cases fits' with
    | skip closed' => exact .cons (.skip _) .nil
    | children opened' listed' each' => exact absurd opened' (closed _)
  | children opened listed each =>
    cases fits' with
    | skip closed' => exact absurd opened (closed' _)
    | children opened' listed' each' =>
      have kept := List.rel_filter
        (p := fun child => decide (IsExtension setup child))
        (q := fun child => decide (IsExtension setup child))
        (fun child child' same => by simpa using isExtension_iff_of_unnumbered same)
        (children_same (unnumbered_eq_of_openLocation opened opened') listed listed')
      apply Collecting.related_answers _ kept each each'
      intro child outcome child' outcome' same fits fits'
      exact fits.same same fits'

theorem ExtOutcomes.same {path : String} {outcomes outcomes' : List Outcome}
    (fits : ExtOutcomes setup path outcomes) (fits' : ExtOutcomes setup path outcomes') :
    List.Forall₂ Outcome.Same outcomes outcomes' := by
  obtain ⟨parts, each, rfl⟩ := fits
  obtain ⟨parts', each', rfl⟩ := fits'
  apply List.rel_flatten
  apply Collecting.repeated_answers _ each each'
  intro location outcomes outcomes' fits fits'
  exact fits.same fits'

end Assembly

/-! ## One component and no other -/

/-- What is configured for a component. -/
def Components.text (components : Components) : Component → String
  | .boot => components.boot
  | .ext => components.ext
  | .user => components.user
  | .codebase => components.codebase
  | .source => components.source

/-- The components of which only one is given. -/
def Components.alone (component : Component) (text : String) : Components :=
  match component with
  | .boot => ⟨text, "", "", "", ""⟩
  | .ext => ⟨"", text, "", "", ""⟩
  | .user => ⟨"", "", text, "", ""⟩
  | .codebase => ⟨"", "", "", "", text⟩
  | .source => ⟨"", "", "", text, ""⟩

theorem Components.text_alone_self (component : Component) (text : String) :
    (alone component text).text component = text := by
  cases component <;> rfl

theorem Components.text_alone_of_ne {component other : Component} (differs : other ≠ component)
    (text : String) : (alone component text).text other = "" := by
  cases component <;> cases other <;> first | rfl | exact absurd rfl differs

namespace Assembly

variable {setup : Setup} {outcomes : List Outcome}

/-- The outcomes of a component. -/
def ComponentOutcomes (setup : Setup) (component : Component) (text : String) :
    List Outcome → Prop :=
  match component with
  | .boot => PathOutcomes setup .boot false .binaries text
  | .ext => ExtOutcomes setup text
  | .user => PathOutcomes setup .user true .binaries text
  | .codebase => List.Forall₂ (TokenOutcome setup) (codebaseTokens text)
  | .source => PathOutcomes setup .source false .sources text

/-- Whether it can be told what all that a component names opens as. -/
def TakesComponent (setup : Setup) (component : Component) (text : String) : Prop :=
  match component with
  | .boot => TakesPath setup text false
  | .ext => ∀ location ∈ (Expansion.locations text).filter (· ≠ ""), TakesDirectory setup location
  | .user => TakesPath setup text true
  | .codebase => ∀ token ∈ codebaseTokens text, TakesToken setup token
  | .source => TakesPath setup text false

theorem exists_componentOutcomes {components : Components}
    (fits : AllOutcomes setup components outcomes) :
    ∃ lists : Component → List Outcome,
      (∀ component, ComponentOutcomes setup component (components.text component)
        (lists component)) ∧
      outcomes =
        lists .boot ++ lists .ext ++ lists .user ++ lists .codebase ++ lists .source := by
  obtain @⟨boot, ext, user, codebase, source, ofBoot, ofExt, ofUser, ofCodebase, ofSource⟩ := fits
  refine ⟨fun
    | .boot => boot
    | .ext => ext
    | .user => user
    | .codebase => codebase
    | .source => source, ?_, rfl⟩
  intro component
  cases component with
  | boot => exact ofBoot
  | ext => exact ofExt
  | user => exact ofUser
  | codebase => exact ofCodebase
  | source => exact ofSource

theorem takesAll_iff_components {components : Components} :
    TakesAll setup components ↔
      ∀ component, TakesComponent setup component (components.text component) := by
  rw [takesAll_iff]
  constructor
  · rintro ⟨boot, ext, user, codebase, source⟩ component
    cases component with
    | boot => exact boot
    | ext => exact ext
    | user => exact user
    | codebase => exact codebase
    | source => exact source
  · intro taken
    exact ⟨taken .boot, taken .ext, taken .user, taken .codebase, taken .source⟩

theorem PathOutcomes.eq_nil {component : Component} {stars : Bool} {role : Role}
    (fits : PathOutcomes setup component stars role "" outcomes) : outcomes = [] := by
  obtain ⟨locations, expanded, each⟩ := fits
  have one : locations = [""] := by
    cases stars <;> exact (Except.ok.inj expanded).symm
  rw [one] at each
  exact List.forall₂_nil_left_iff.1 each

theorem filter_locations_empty : (Expansion.locations "").filter (· ≠ "") = [] := rfl

theorem takesPath_empty (setup : Setup) (stars : Bool) : TakesPath setup "" stars := by
  rw [TakesPath, filter_locations_empty]
  exact nofun

/-- What is not given has no outcomes. -/
theorem ComponentOutcomes.eq_nil {component : Component}
    (fits : ComponentOutcomes setup component "" outcomes) : outcomes = [] := by
  cases component with
  | boot => exact PathOutcomes.eq_nil fits
  | ext =>
    obtain ⟨parts, each, rfl⟩ := fits
    rw [List.forall₂_nil_left_iff.1 each, List.flatten_nil]
  | user => exact PathOutcomes.eq_nil fits
  | codebase =>
    rw [ComponentOutcomes, codebaseTokens_empty] at fits
    exact List.forall₂_nil_left_iff.1 fits
  | source => exact PathOutcomes.eq_nil fits

theorem takesComponent_empty (setup : Setup) (component : Component) :
    TakesComponent setup component "" := by
  cases component with
  | boot => exact takesPath_empty setup false
  | ext =>
    rw [TakesComponent, filter_locations_empty]
    exact nofun
  | user => exact takesPath_empty setup true
  | codebase =>
    rw [TakesComponent, codebaseTokens_empty]
    exact nofun
  | source => exact takesPath_empty setup false

/-- A class path of one component has the outcomes of this component. -/
theorem componentOutcomes_of_alone {component : Component} {text : String}
    (fits : AllOutcomes setup (.alone component text) outcomes) :
    ComponentOutcomes setup component text outcomes := by
  obtain ⟨lists, each, rfl⟩ := exists_componentOutcomes fits
  have empty : ∀ other, other ≠ component → lists other = [] := by
    intro other differs
    have others := each other
    rw [Components.text_alone_of_ne differs] at others
    exact others.eq_nil
  have own := each component
  rw [Components.text_alone_self] at own
  cases component <;> simpa [empty] using own

theorem takesAll_alone_iff {component : Component} {text : String} :
    TakesAll setup (.alone component text) ↔ TakesComponent setup component text := by
  rw [takesAll_iff_components]
  constructor
  · intro taken
    have own := taken component
    rwa [Components.text_alone_self] at own
  · intro taken other
    by_cases same : other = component
    · subst same
      rwa [Components.text_alone_self]
    · rw [Components.text_alone_of_ne same]
      exact takesComponent_empty setup other

/-- A class path is assembled of one component if it can be told what all that this names opens as,
and has its outcomes. -/
theorem assemble_alone_yields (setup : Setup) (component : Component) (text : String) :
    (assemble setup (.alone component text)).Yields (TakesComponent setup component text)
      fun package => ∃ built all, ComponentOutcomes setup component text all ∧
        package = ofOutcomes setup built all := by
  apply ((assemble_yields setup _).congr takesAll_alone_iff).imp
  rintro package - ⟨built, all, fits, rfl⟩
  exact ⟨built, all, componentOutcomes_of_alone fits, rfl⟩

/-- What a component comes to does not depend on when it is asked. -/
theorem ComponentOutcomes.same {component : Component} (isPath : component ≠ .codebase)
    {text : String} {outcomes' : List Outcome}
    (fits : ComponentOutcomes setup component text outcomes)
    (fits' : ComponentOutcomes setup component text outcomes') :
    List.Forall₂ Outcome.Same outcomes outcomes' := by
  cases component with
  | boot => exact PathOutcomes.same fits fits'
  | ext => exact ExtOutcomes.same fits fits'
  | user => exact PathOutcomes.same fits fits'
  | codebase => exact absurd rfl isPath
  | source => exact PathOutcomes.same fits fits'

end Assembly

/-! ## Two texts with a colon between them -/

namespace Expansion

/-- The locations of the first text come first, and none goes over the colon. -/
theorem locations_append (first second : String) :
    locations (first ++ ":" ++ second) = locations first ++ locations second := by
  simp [locations, Text.split, Text.pieces_append]

/-- What the texts stand for is one after the other too, whether stars are expanded or not. -/
theorem expandAll_append (files : FileSystem) (base : Option Path) (first second : String)
    (stars : Bool) :
    expandAll files base (first ++ ":" ++ second) stars = do
      let here ← expandAll files base first stars
      let there ← expandAll files base second stars
      return here ++ there := by
  cases stars with
  | false => exact congrArg Except.ok (locations_append first second)
  | true =>
    simp only [expandAll, if_true, locations_append]
    exact Collecting.gather_append _ _ _

end Expansion

namespace Assembly

variable {setup : Setup} {first second : String} {outcomes : List Outcome}

theorem PathOutcomes.exists_append {component : Component} {stars : Bool} {role : Role}
    (fits : PathOutcomes setup component stars role (first ++ ":" ++ second) outcomes) :
    ∃ here there, PathOutcomes setup component stars role first here ∧
      PathOutcomes setup component stars role second there ∧ outcomes = here ++ there := by
  obtain ⟨locations, expanded, each⟩ := fits
  rw [Expansion.expandAll_append] at expanded
  obtain ⟨ofFirst, expandedFirst, rest⟩ := Collecting.bind_eq_ok.1 expanded
  obtain ⟨ofSecond, expandedSecond, same⟩ := Collecting.bind_eq_ok.1 rest
  cases same
  rw [List.filter_append] at each
  obtain ⟨here, there, eachFirst, eachSecond, rfl⟩ := Collecting.exists_append_of_answers each
  exact ⟨here, there, ⟨ofFirst, expandedFirst, eachFirst⟩, ⟨ofSecond, expandedSecond, eachSecond⟩,
    rfl⟩

theorem ExtOutcomes.exists_append (fits : ExtOutcomes setup (first ++ ":" ++ second) outcomes) :
    ∃ here there, ExtOutcomes setup first here ∧ ExtOutcomes setup second there ∧
      outcomes = here ++ there := by
  obtain ⟨parts, each, rfl⟩ := fits
  rw [Expansion.locations_append, List.filter_append] at each
  obtain ⟨here, there, eachFirst, eachSecond, rfl⟩ := Collecting.exists_append_of_answers each
  exact ⟨here.flatten, there.flatten, ⟨here, eachFirst, rfl⟩, ⟨there, eachSecond, rfl⟩,
    List.flatten_append⟩

theorem takesPath_append {stars : Bool} :
    TakesPath setup (first ++ ":" ++ second) stars ↔
      TakesPath setup first stars ∧ TakesPath setup second stars := by
  rw [TakesPath, Expansion.locations_append, List.filter_append, List.forall_mem_append]
  exact Iff.rfl

theorem ComponentOutcomes.exists_append {component : Component} (isPath : component ≠ .codebase)
    (fits : ComponentOutcomes setup component (first ++ ":" ++ second) outcomes) :
    ∃ here there, ComponentOutcomes setup component first here ∧
      ComponentOutcomes setup component second there ∧ outcomes = here ++ there := by
  cases component with
  | boot => exact PathOutcomes.exists_append fits
  | ext => exact ExtOutcomes.exists_append fits
  | user => exact PathOutcomes.exists_append fits
  | codebase => exact absurd rfl isPath
  | source => exact PathOutcomes.exists_append fits

theorem takesComponent_append {component : Component} (isPath : component ≠ .codebase) :
    TakesComponent setup component (first ++ ":" ++ second) ↔
      TakesComponent setup component first ∧ TakesComponent setup component second := by
  cases component with
  | boot => exact takesPath_append
  | ext =>
    simp only [TakesComponent]
    rw [Expansion.locations_append, List.filter_append, List.forall_mem_append]
  | user => exact takesPath_append
  | codebase => exact absurd rfl isPath
  | source => exact takesPath_append

end Assembly

/-! ## Joined class paths -/

/-- Whether a class path has the entries and the skips of one followed by those of another. -/
inductive Package.Joins : Package → Package → Package → Prop where
  | wholeClassPath (built built₁ built₂ : Nat) (policy : Policy) (skips₁ skips₂ : List Skip)
      {entries entries₁ entries₂ : List Package}
      (each : List.Forall₂ Package.ShowsSame entries (entries₁ ++ entries₂)) :
      Joins (.merged built (.wholeClassPath (skips₁ ++ skips₂)) entries policy)
        (.merged built₁ (.wholeClassPath skips₁) entries₁ policy)
        (.merged built₂ (.wholeClassPath skips₂) entries₂ policy)

namespace Assembly

/-- Outcomes that are the same have the same skips, and entries that show the same. -/
theorem halves_of_same {outcomes outcomes' : List Outcome}
    (each : List.Forall₂ Outcome.Same outcomes outcomes') :
    outcomes.filterMap Outcome.skip? = outcomes'.filterMap Outcome.skip? ∧
      List.Forall₂ Package.ShowsSame (outcomes.filterMap Outcome.package?)
        (outcomes'.filterMap Outcome.package?) := by
  induction each with
  | nil => exact ⟨rfl, .nil⟩
  | cons here below ih =>
    cases here with
    | entry same => exact ⟨ih.1, .cons same ih.2⟩
    | skip record => exact ⟨congrArg (record :: ·) ih.1, ih.2⟩

theorem joins_ofOutcomes {setup : Setup} {all here there : List Outcome} (built built₁ built₂ : Nat)
    (each : List.Forall₂ Outcome.Same all (here ++ there)) :
    (ofOutcomes setup built all).Joins (ofOutcomes setup built₁ here)
      (ofOutcomes setup built₂ there) := by
  obtain ⟨skips, entries⟩ := halves_of_same each
  rw [List.filterMap_append] at skips entries
  rw [ofOutcomes, skips]
  exact .wholeClassPath built built₁ built₂ setup.policy _ _ entries

/-- Two texts with a colon between them expand to what each expands to, one after the other. As a
component other than the codebase they are assembled if each of them alone is, and then the class
path joins those of the two. -/
theorem assemble_joined (setup : Setup) (first second : String) :
    (∀ stars,
      Expansion.expandAll setup.world.files setup.base (first ++ ":" ++ second) stars = do
        let here ← Expansion.expandAll setup.world.files setup.base first stars
        let there ← Expansion.expandAll setup.world.files setup.base second stars
        return here ++ there) ∧
    ∀ {component : Component} {session₁ session₂ : Session} {package₁ package₂ : Package},
      component ≠ .codebase →
      ((assemble setup (.alone component first)).run.run session₁).1 = .ok package₁ →
      ((assemble setup (.alone component second)).run.run session₂).1 = .ok package₂ →
      ∀ session : Session, ∃ whole,
        ((assemble setup (.alone component (first ++ ":" ++ second))).run.run session).1 =
          .ok whole ∧ whole.Joins package₁ package₂ := by
  refine ⟨Expansion.expandAll_append _ _ first second, ?_⟩
  intro component session₁ session₂ package₁ package₂ isPath returned₁ returned₂ session
  have yields := assemble_alone_yields setup component
  have taken := (takesComponent_append isPath).2
    ⟨((yields first).returns_iff session₁).1 ⟨_, returned₁⟩,
      ((yields second).returns_iff session₂).1 ⟨_, returned₂⟩⟩
  obtain ⟨whole, returned⟩ := ((yields (first ++ ":" ++ second)).returns_iff session).2 taken
  refine ⟨whole, returned, ?_⟩
  obtain ⟨built, all, fits, rfl⟩ := (yields _).good returned
  obtain ⟨built₁, all₁, fits₁, rfl⟩ := (yields _).good returned₁
  obtain ⟨built₂, all₂, fits₂, rfl⟩ := (yields _).good returned₂
  obtain ⟨here, there, ofFirst, ofSecond, rfl⟩ := fits.exists_append isPath
  exact joins_ofOutcomes built built₁ built₂
    (List.rel_append (ofFirst.same isPath fits₁) (ofSecond.same isPath fits₂))

/-- What a user path of one star comes to, where one jar can be opened. -/
def starred : Package :=
  .merged 2 (.wholeClassPath [])
    [.directory 1 .binaries
      (.archive ⟨0, .path ⟨.here, ["lib", "u.jar"]⟩, "u.jar", "lib/u.jar", []⟩) .showAll]
    .showAll

/-- What comes to be there of a file, of nothing and of a directory. -/
def unstarred : Package :=
  .merged 3 (.wholeClassPath [⟨.user, "gone", .notOpenable⟩])
    [.directory 1 .binaries
        (.archive ⟨0, .path ⟨.here, ["rt.jar"]⟩, "rt.jar", "rt.jar", []⟩) .showAll,
      .directory 2 .binaries (.plain ⟨.here, ["src"]⟩) .showAll]
    .showAll

/-- Both are joined, with a location between them that is empty. -/
theorem assemble_joined_starred :
    ((assemble mixedSetup (.alone .user "lib/*")).run.run .start).1 = .ok starred ∧
      ((assemble mixedSetup (.alone .user ":rt.jar:gone:src")).run.run .start).1 =
        .ok unstarred ∧
      ∃ whole,
        ((assemble mixedSetup (.alone .user "lib/*::rt.jar:gone:src")).run.run .start).1 =
          .ok whole ∧ whole.Joins starred unstarred := by
  have first : ((assemble mixedSetup (.alone .user "lib/*")).run.run .start).1 = .ok starred := by
    decide +kernel
  have second : ((assemble mixedSetup (.alone .user ":rt.jar:gone:src")).run.run .start).1 =
      .ok unstarred := by decide +kernel
  exact ⟨first, second,
    (assemble_joined mixedSetup "lib/*" ":rt.jar:gone:src").2 (by decide) first second .start⟩

end Assembly

end JvmClasspath
