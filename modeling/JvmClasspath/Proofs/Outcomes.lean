import JvmClasspath.Proofs.Expanding
import JvmClasspath.Proofs.Opened

/-!
# One outcome each

A class path is assembled from one sequence of outcomes: those of the boot path, of the extension
path, of the user path, of the codebase and of the source path, in this order. Every location that
is configured has its outcome there, and stands at its place; in an extension directory every child
that could be an entry has one instead.

The outcome is an entry if the location opens, and a skip if it does not. Which of the two it is
does not depend on the session.

What does not exist, cannot be read or cannot be downloaded has a skip as its outcome. Three things
have none: a path that the system refuses to look up, because it is too long or leads through a
directory that may not be searched; an archive that is not supported; and a U+0000 in a directory
that a star stands in. They are refused, and then there is no class path at all.
-/

namespace JvmClasspath

open Session Session.Run

namespace Assembly

/-! ## What the outcomes are -/

/-- What becomes of a location: an entry over what it opens as, or, if nothing opens, a skip. -/
inductive Outcome.Of (opens : File → Prop) (role : Role) (policy : Policy)
    (recorded : Skip → Prop) : Outcome → Prop where
  | entry (built : Nat) {file : File} (opened : opens file) :
      Of opens role policy recorded (.entry (.directory built role file policy))
  | skip {skip : Skip} (closed : ∀ file, ¬opens file) (record : recorded skip) :
      Of opens role policy recorded (.skip skip)

variable (setup : Setup)

/-- The outcome of a location that is itself an entry. -/
def LocationOutcome (component : Component) (role : Role) (location : String) : Outcome → Prop :=
  Outcome.Of (fun file => (openLocation setup location).Returns (some file)) role setup.policy
    (· = ⟨component, location, .notOpenable⟩)

/-- The outcomes of a path component: one for each location that is not empty. -/
def PathOutcomes (component : Component) (stars : Bool) (role : Role) (path : String)
    (outcomes : List Outcome) : Prop :=
  ∃ locations, Expansion.expandAll setup.world.files setup.base path stars = .ok locations ∧
    List.Forall₂ (LocationOutcome setup component role) (locations.filter (· ≠ "")) outcomes

/-- Whether a child of an extension directory could be an entry. -/
def IsExtension (child : File) : Prop :=
  (∃ ending ∈ Location.archiveEndings, Text.endsWithAnyCase ending child.name = true) ∨
    child.isDirectory setup.world.files = .ok true

instance : DecidablePred (IsExtension setup) :=
  fun _ => inferInstanceAs (Decidable (_ ∨ _))

/-- The outcome of a child of an extension directory. -/
def ExtensionOutcome (child : File) : Outcome → Prop :=
  Outcome.Of (fun file => (openExtension setup.world.files child).Returns (some file)) .binaries
    setup.policy (· = ⟨.ext, child.display, .unreadableArchive⟩)

/-- The outcomes of one extension directory: one for each child that could be an entry, or a single
skip if the directory does not open. -/
inductive DirectoryOutcomes (location : String) : List Outcome → Prop where
  | skip (closed : ∀ file, ¬(openLocation setup location).Returns (some file)) :
      DirectoryOutcomes location [.skip ⟨.ext, location, .notOpenable⟩]
  | children {directory : File} {children : List File} {outcomes : List Outcome}
      (opened : (openLocation setup location).Returns (some directory))
      (listed : directory.children setup.world.files = .ok children)
      (each :
        List.Forall₂ (ExtensionOutcome setup) (children.filter (IsExtension setup)) outcomes) :
      DirectoryOutcomes location outcomes

/-- The outcomes of the extension path: those of each location that is not empty. -/
def ExtOutcomes (path : String) (outcomes : List Outcome) : Prop :=
  ∃ each, List.Forall₂ (DirectoryOutcomes setup) ((Expansion.locations path).filter (· ≠ "")) each ∧
    outcomes = each.flatten

/-- Why a token of a codebase is left out. -/
inductive TokenFault (token : String) : SkipReason → Prop where
  | malformed (refused : Expansion.isCodebaseUrl token = false) : TokenFault token .malformedUrl
  | url {fault : UrlFault} (known : Expansion.isCodebaseUrl token = true)
      (returned : (Location.openUrl setup.world token).Returns (.error fault)) :
      TokenFault token (.url fault)

/-- The outcome of a token of the codebase: an entry if it is a URL that a codebase may name, and
opens. -/
def TokenOutcome (token : String) : Outcome → Prop :=
  Outcome.Of
    (fun file => Expansion.isCodebaseUrl token = true ∧
      (Location.openUrl setup.world token).Returns (.ok file))
    .binaries setup.policy
    (fun skip => ∃ reason, skip = ⟨.codebase, token, reason⟩ ∧ TokenFault setup token reason)

/-! ## Each step gives its outcome -/

variable {setup} {opens : File → Prop} {recorded : Skip → Prop} {fine : Prop}

theorem enter_yields {file : File} (role : Role) (opened : opens file) :
    (enter setup role file).Yields True (Outcome.Of opens role setup.policy recorded) :=
  yields_fresh.followed fun built _ => yields_pure (.entry built opened)

theorem leaveOut_yields {component : Component} {location : String} {reason : SkipReason}
    {good : Outcome → Prop} (fits : good (.skip ⟨component, location, reason⟩)) :
    (leaveOut component location reason).Yields True good :=
  (yields_note _).followed fun _ _ => yields_pure fits

/-- A run whose answers tell what opens, whatever the session, tells which files it can return. -/
theorem tells_returns {α : Type} {run : Run α} {see : α → Option File} {answerOf : File → α}
    (seen : ∀ {answer file}, see answer = some file ↔ answer = answerOf file)
    (yields : run.Yields fine fun answer => Location.Tells opens (see answer)) :
    run.Yields fine fun answer => run.Returns answer ∧
      Location.Tells (fun file => run.Returns (answerOf file)) (see answer) := by
  apply yields.imp
  intro answer returned tells
  refine ⟨returned, ?_⟩
  cases answered : see answer with
  | some file =>
    rw [seen.1 answered] at returned
    exact returned
  | none =>
    rw [answered] at tells
    rintro file ⟨session, other⟩
    have opened := yields.good other
    rw [seen.2 rfl] at opened
    exact tells file opened

/-- The outcome of opening what stands at one location. -/
theorem outcome_yields (setup : Setup) (role : Role) (component : Component) (location : String)
    (reason : SkipReason) {run : Run (Option File)}
    (yields : run.Yields fine (Location.Tells opens)) :
    Yields (do
        match ← run with
        | some file => enter setup role file
        | none => leaveOut component location reason)
      fine
      (Outcome.Of (fun file => run.Returns (some file)) role setup.policy
        (· = ⟨component, location, reason⟩)) := by
  apply (tells_returns Iff.rfl yields).followed
  rintro answer ⟨-, tells⟩
  cases answer with
  | some file => exact enter_yields role tells
  | none => exact leaveOut_yields (.skip tells rfl)

theorem openLocation_yields (setup : Setup) (location : String) :
    (openLocation setup location).Yields (Expansion.Takes setup.world.files setup.base location)
      (Location.Tells (Location.Opens setup.world.files
        ((Path.ofString location).within setup.base))) :=
  Location.openPath?_yields _ _

theorem locationOutcome_yields (setup : Setup) (component : Component) (role : Role)
    (location : String) :
    (locationOutcome setup component role location).Yields
      (Expansion.Takes setup.world.files setup.base location)
      (LocationOutcome setup component role location) :=
  outcome_yields setup role component location .notOpenable (openLocation_yields setup location)

/-- Whether a path component can be gone through: its stars can be expanded, and it can be told what
its locations open as. -/
def TakesPath (setup : Setup) (path : String) (stars : Bool) : Prop :=
  ∀ location ∈ (Expansion.locations path).filter (· ≠ ""),
    Expansion.TakesExpanded setup.world.files setup.base location stars

theorem pathOutcomes_yields (setup : Setup) (component : Component) (stars : Bool) (role : Role)
    (path : String) :
    (pathOutcomes setup component stars role path).Yields (TakesPath setup path stars)
      (PathOutcomes setup component stars role path) := by
  apply Yields.congr _ Expansion.exists_expandAll_iff
  apply yields_lift_bind
  intro locations expanded
  apply (yields_mapM (locationOutcome_yields setup component role) _).imp
  intro outcomes _ each
  exact ⟨locations, expanded, each⟩

/-! ### Extension directories -/

theorem isExtension_iff {child : File} {answer : Bool}
    (known : isExtension setup.world.files child = .ok answer) :
    answer = true ↔ IsExtension setup child := by
  rw [isExtension] at known
  rw [IsExtension, ← List.any_eq_true]
  split at known
  · next named =>
    cases known
    simp [named]
  · next unnamed => simp [unnamed, known]

/-- Where it can be told what a child opens as, it can be told to be an extension or not. -/
theorem isExtension_of_takesFile {child : File}
    (taken : Location.TakesFile setup.world.files child) :
    ∃ answer, isExtension setup.world.files child = .ok answer := by
  rw [isExtension]
  split
  · exact ⟨true, rfl⟩
  · exact Location.isDirectory_of_takesFile taken

/-- What is no extension was looked at, and is not named as an archive. -/
theorem takesFile_of_isExtension {child : File}
    (known : isExtension setup.world.files child = .ok false) :
    Location.TakesFile setup.world.files child := by
  rw [isExtension] at known
  split at known
  · cases known
  · next unnamed =>
    rw [List.any_eq_true] at unnamed
    exact Location.takesFile_of_isDirectory unnamed known

theorem extensionOutcome_yields (setup : Setup) (child : File) :
    (extensionOutcome setup child).Yields (Location.TakesFile setup.world.files child)
      (ExtensionOutcome setup child) :=
  outcome_yields setup .binaries .ext child.display .unreadableArchive
    (Location.openExtension_yields setup.world.files child)

theorem extensionOutcomes_yields (setup : Setup) (children : List File) :
    (extensionOutcomes setup children).Yields
      (∀ child ∈ children, Location.TakesFile setup.world.files child)
      (List.Forall₂ (ExtensionOutcome setup) (children.filter (IsExtension setup))) := by
  induction children with
  | nil => exact (yields_pure .nil).congr (by simp)
  | cons child rest ih =>
    rw [extensionOutcomes, List.forall_mem_cons]
    have asked : (∃ answer, isExtension setup.world.files child = .ok answer ∧
          (Location.TakesFile setup.world.files child ∧
            ∀ other ∈ rest, Location.TakesFile setup.world.files other)) ↔
        Location.TakesFile setup.world.files child ∧
          ∀ other ∈ rest, Location.TakesFile setup.world.files other := by
      constructor
      · rintro ⟨_, -, taken⟩
        exact taken
      · intro taken
        rcases isExtension_of_takesFile taken.1 with ⟨answer, known⟩
        exact ⟨answer, known, taken⟩
    apply Yields.congr _ asked
    apply yields_lift_bind
    intro answer known
    have extension := isExtension_iff known
    cases answer with
    | true =>
      rw [List.filter_cons_of_pos (by simpa using extension)]
      apply (extensionOutcome_yields setup child).bind
      intro outcome here
      apply ih.followed
      intro outcomes below
      exact yields_pure (.cons here below)
    | false =>
      rw [List.filter_cons_of_neg (by simpa using extension)]
      exact ih.congr (and_iff_right (takesFile_of_isExtension known)).symm

/-- Whether an extension directory can be gone through: it can be told what it opens as, and also
what all that is listed in it opens as. -/
def TakesDirectory (setup : Setup) (location : String) : Prop :=
  Expansion.Takes setup.world.files setup.base location ∧
    Expansion.TakesListed setup.world.files setup.base location

theorem directoryOutcomes_yields (setup : Setup) (location : String) :
    (directoryOutcomes setup location).Yields (TakesDirectory setup location)
      (DirectoryOutcomes setup location) := by
  have opening := openLocation_yields setup location
  apply (opening.and (tells_returns Iff.rfl opening)).bind
  rintro answer ⟨opens, -, returns⟩
  cases answer with
  | none =>
    have nothingListed :
        Expansion.TakesListed setup.world.files setup.base location := by
      intro names listed
      exact absurd (.directory (FileSystem.lookUp_of_list listed)) (opens _)
    apply Yields.congr _ (iff_true_intro nothingListed).symm
    have left : (leaveOut .ext location .notOpenable).Yields True
        (· = .skip ⟨.ext, location, .notOpenable⟩) := leaveOut_yields rfl
    apply left.followed
    rintro _ rfl
    exact yields_pure (.skip returns)
  | some directory =>
    apply Yields.congr _ (Location.takes_children_iff opens)
    apply yields_lift_bind
    intro children listed
    apply (extensionOutcomes_yields setup children).imp
    intro outcomes _ each
    exact .children returns listed each

theorem extOutcomes_yields (setup : Setup) (path : String) :
    (extOutcomes setup path).Yields
      (∀ location ∈ (Expansion.locations path).filter (· ≠ ""), TakesDirectory setup location)
      (ExtOutcomes setup path) := by
  apply (yields_mapM (directoryOutcomes_yields setup) _).followed
  intro each all
  exact yields_pure ⟨each, all, rfl⟩

/-! ### Codebase -/

theorem codebaseTokens_empty : codebaseTokens "" = [] := rfl

/-- Whether it can be told what a token of a codebase opens as, if it is a URL that a codebase may
name. -/
def TakesToken (setup : Setup) (token : String) : Prop :=
  Expansion.isCodebaseUrl token = true → Location.TakesUrl setup.world token

theorem urlOutcome_yields (setup : Setup) (token : String) :
    (urlOutcome setup token).Yields (TakesToken setup token) (TokenOutcome setup token) := by
  rw [urlOutcome, TakesToken]
  cases known : Expansion.isCodebaseUrl token with
  | true =>
    simp only [if_true, forall_const]
    have seen : ∀ {answer : Except UrlFault File} {file : File},
        answer.toOption = some file ↔ answer = .ok file := by
      intro answer file
      cases answer <;> simp [Except.toOption]
    apply (tells_returns seen (Location.openUrl_yields setup.world token)).followed
    rintro answer ⟨returned, tells⟩
    cases answer with
    | ok file => exact enter_yields .binaries ⟨known, tells⟩
    | error fault =>
      apply leaveOut_yields
      exact .skip (fun file opened => tells file opened.2) ⟨_, rfl, .url known returned⟩
  | false =>
    apply (leaveOut_yields _).congr (by simp)
    refine .skip ?_ ⟨_, rfl, .malformed known⟩
    rintro file ⟨known', -⟩
    cases known.symm.trans known'

/-! ## The whole class path -/

/-- The outcomes of all components, in the order of their precedence. -/
inductive AllOutcomes (setup : Setup) (components : Components) : List Outcome → Prop where
  | inOrder {boot ext user codebase source : List Outcome}
      (ofBoot : PathOutcomes setup .boot false .binaries components.boot boot)
      (ofExt : ExtOutcomes setup components.ext ext)
      (ofUser : PathOutcomes setup .user true .binaries components.user user)
      (ofCodebase : List.Forall₂ (TokenOutcome setup) (codebaseTokens components.codebase) codebase)
      (ofSource : PathOutcomes setup .source false .sources components.source source) :
      AllOutcomes setup components (boot ++ ext ++ user ++ codebase ++ source)

/-- Whether it can be told what all that the components name opens as, were it nothing. -/
structure TakesAll (setup : Setup) (components : Components) : Prop where
  boot : TakesPath setup components.boot false
  ext : ∀ location ∈ (Expansion.locations components.ext).filter (· ≠ ""),
    TakesDirectory setup location
  user : TakesPath setup components.user true
  codebase : ∀ token ∈ codebaseTokens components.codebase, TakesToken setup token
  source : TakesPath setup components.source false

theorem takesAll_iff {components : Components} :
    TakesAll setup components ↔ TakesPath setup components.boot false ∧
      (∀ location ∈ (Expansion.locations components.ext).filter (· ≠ ""),
        TakesDirectory setup location) ∧
      TakesPath setup components.user true ∧
      (∀ token ∈ codebaseTokens components.codebase, TakesToken setup token) ∧
      TakesPath setup components.source false :=
  ⟨fun ⟨boot, ext, user, codebase, source⟩ => ⟨boot, ext, user, codebase, source⟩,
    fun ⟨boot, ext, user, codebase, source⟩ => ⟨boot, ext, user, codebase, source⟩⟩

theorem outcomes_yields (setup : Setup) (components : Components) :
    (outcomes setup components).Yields (TakesAll setup components)
      (AllOutcomes setup components) := by
  rw [outcomes, takesAll_iff]
  apply (pathOutcomes_yields setup .boot false .binaries components.boot).bind
  intro boot ofBoot
  apply (extOutcomes_yields setup components.ext).bind
  intro ext ofExt
  apply (pathOutcomes_yields setup .user true .binaries components.user).bind
  intro user ofUser
  apply (yields_mapM (urlOutcome_yields setup) (codebaseTokens components.codebase)).bind
  intro codebase ofCodebase
  apply (pathOutcomes_yields setup .source false .sources components.source).followed
  intro source ofSource
  exact yields_pure (.inOrder ofBoot ofExt ofUser ofCodebase ofSource)

/-- The class path whose entries and skips are the two halves of a sequence of outcomes. -/
def ofOutcomes (setup : Setup) (built : Nat) (all : List Outcome) : Package :=
  .merged built (.wholeClassPath (all.filterMap Outcome.skip?)) (all.filterMap Outcome.package?)
    setup.policy

theorem assemble_yields (setup : Setup) (components : Components) :
    (assemble setup components).Yields (TakesAll setup components) fun package =>
      ∃ built all, AllOutcomes setup components all ∧ package = ofOutcomes setup built all := by
  apply (outcomes_yields setup components).followed
  intro all each
  apply (yields_note _).followed
  intro _ _
  apply yields_fresh.followed
  intro built _
  exact yields_pure ⟨built, all, each, rfl⟩

/-- Every class path that is assembled has for its entries and its skips the two halves of one
sequence, in which each location, extension and token has its one outcome, in the order of the
components and of what stands in them. -/
theorem assemble_outcomes {setup : Setup} {components : Components} {session : Session}
    {package : Package}
    (returned : ((assemble setup components).run.run session).1 = .ok package) :
    ∃ built all, AllOutcomes setup components all ∧ package = ofOutcomes setup built all :=
  (assemble_yields setup components).good returned

/-- A world in which some of what is configured opens. -/
def mixedSetup : Setup where
  world :=
    ⟨FileSystem.ofEntries [(["rt.jar"], .file (.archive [])), (["ext"], .directory),
      (["ext", "broken.ZIP"], .file (.bytes [1])), (["lib"], .directory),
      (["lib", "u.jar"], .file (.archive [])), (["src"], .directory)],
    ⟨[("http://h/c.jar", .answer 200 "" (.archive [⟨"X.class", []⟩]))]⟩⟩
  base := none
  policy := .showAll

def mixedComponents : Components where
  boot := "gone:rt.jar:"
  ext := "ext"
  user := "lib/*"
  source := "src"
  codebase := "here  http://h/c.jar"

/-- What is assembled there: one entry for each component but the extension path, whose only archive
cannot be read, and skips for what is gone or no URL. -/
def mixed : Package :=
  .merged 8
    (.wholeClassPath [⟨.boot, "gone", .notOpenable⟩, ⟨.ext, "ext/broken.ZIP", .unreadableArchive⟩,
      ⟨.codebase, "here", .malformedUrl⟩])
    [.directory 1 .binaries
        (.archive ⟨0, .path ⟨.here, ["rt.jar"]⟩, "rt.jar", "rt.jar", []⟩) .showAll,
      .directory 4 .binaries
        (.archive ⟨3, .path ⟨.here, ["lib", "u.jar"]⟩, "u.jar", "lib/u.jar", []⟩) .showAll,
      .directory 6 .binaries
        (.archive ⟨5, .memory [⟨"X.class", []⟩], "c.jar", "http://h/c.jar",
          [("X.class", .file "X.class")]⟩) .showAll,
      .directory 7 .sources (.plain ⟨.here, ["src"]⟩) .showAll]
    .showAll

/-- There every location has its outcome at its place. -/
theorem assemble_outcomes_mixed :
    ((assemble mixedSetup mixedComponents).run.run .start).1 = .ok mixed ∧
      ∃ built all, AllOutcomes mixedSetup mixedComponents all ∧
        mixed = ofOutcomes mixedSetup built all := by
  have returned : ((assemble mixedSetup mixedComponents).run.run .start).1 = .ok mixed := by
    decide +kernel
  exact ⟨returned, assemble_outcomes returned⟩

/-! ## What it is built over -/

theorem opened_of_opens {files : FileSystem} {path : Path} {file : File}
    (opens : Location.Opens files path file) : file.Opened := by
  cases opens with
  | directory found => exact .plain path
  | archive opening found named read => exact .archive _ rfl

theorem opened_of_extensionOpens {files : FileSystem} {child file : File} (known : child.Opened)
    (opens : Location.ExtensionOpens files child file) : file.Opened := by
  cases child with
  | plain path => exact opened_of_opens opens
  | archive archive => exact opens.2 ▸ known
  | folder archive member children => exact opens.2 ▸ known
  | entry archive member => exact opens.2 ▸ known

theorem opened_of_urlOpens {world : World} {text : String} {file : File}
    (opens : Location.UrlOpens world text file) : file.Opened := by
  cases opens with
  | «local» parsed scheme opens => exact opened_of_opens opens
  | web opening parsed scheme downloaded read => exact .archive _ rfl

/-- Whether a property of files is had by all that opens: at a location, or where a child of an
extension directory is opened that has it. -/
structure Given (setup : Setup) (P : File → Prop) : Prop where
  inherited : File.Inherited P
  location : ∀ {location : String} {file : File}, Location.Opens setup.world.files
    ((Path.ofString location).within setup.base) file → P file
  extension : ∀ {child file : File}, P child →
    Location.ExtensionOpens setup.world.files child file → P file

theorem given_opened (setup : Setup) : Given setup File.Opened :=
  ⟨File.inherited_opened, opened_of_opens, opened_of_extensionOpens⟩

/-- Whether an outcome is a skip or a package of this policy over a file with a property. -/
def Outcome.IsOver (policy : Policy) (P : File → Prop) (outcome : Outcome) : Prop :=
  ∀ package, outcome.package? = some package →
    ∃ built role file, package = .directory built role file policy ∧ P file

section

variable {P : File → Prop}

theorem Outcome.Of.isOver {role : Role} {policy : Policy} {outcome : Outcome}
    (fits : Outcome.Of opens role policy recorded outcome) (given : ∀ file, opens file → P file) :
    outcome.IsOver policy P := by
  intro package entry
  cases fits with
  | entry built opened =>
    cases entry
    exact ⟨built, role, _, rfl, given _ opened⟩
  | skip closed record => cases entry

theorem Given.openLocation (given : Given setup P) {location : String} {file : File}
    (returned : (openLocation setup location).Returns (some file)) : P file := by
  rcases returned with ⟨session, returned⟩
  exact given.location ((openLocation_yields setup location).good returned)

theorem PathOutcomes.isOver (given : Given setup P) {component : Component} {stars : Bool}
    {role : Role} {path : String} {outcomes : List Outcome}
    (fits : PathOutcomes setup component stars role path outcomes) :
    ∀ outcome ∈ outcomes, outcome.IsOver setup.policy P := by
  rcases fits with ⟨locations, -, each⟩
  intro outcome mem
  rcases Collecting.exists_of_mem_answers each mem with ⟨location, -, fits⟩
  exact Outcome.Of.isOver fits fun file => given.openLocation

theorem DirectoryOutcomes.isOver (given : Given setup P) {location : String}
    {outcomes : List Outcome} (fits : DirectoryOutcomes setup location outcomes) :
    ∀ outcome ∈ outcomes, outcome.IsOver setup.policy P := by
  intro outcome mem
  cases fits with
  | skip closed =>
    rw [List.mem_singleton.1 mem]
    exact nofun
  | children opened listed each =>
    rcases Collecting.exists_of_mem_answers each mem with ⟨child, inChildren, fits⟩
    have known := given.inherited (given.openLocation opened) listed child
      (List.mem_of_mem_filter inChildren)
    refine Outcome.Of.isOver fits ?_
    rintro file ⟨session, returned⟩
    exact given.extension known
      ((Location.openExtension_yields setup.world.files child).good returned)

theorem TokenOutcome.isOver {token : String} {outcome : Outcome}
    (givenUrl : ∀ file, Location.UrlOpens setup.world token file → P file)
    (fits : TokenOutcome setup token outcome) : outcome.IsOver setup.policy P := by
  refine Outcome.Of.isOver fits ?_
  rintro file ⟨-, session, returned⟩
  exact givenUrl file ((Location.openUrl_yields setup.world token).good returned)

theorem AllOutcomes.isOver (given : Given setup P) {components : Components}
    {all : List Outcome}
    (givenUrl : ∀ token ∈ codebaseTokens components.codebase, ∀ file,
      Location.UrlOpens setup.world token file → P file)
    (fits : AllOutcomes setup components all) :
    ∀ outcome ∈ all, outcome.IsOver setup.policy P := by
  rcases fits with ⟨ofBoot, ⟨parts, each, rfl⟩, ofUser, ofCodebase, ofSource⟩
  simp only [List.forall_mem_append]
  refine ⟨⟨⟨⟨ofBoot.isOver given, ?_⟩, ofUser.isOver given⟩, ?_⟩,
    ofSource.isOver given⟩
  · intro outcome mem
    rcases Collecting.exists_of_mem_flatten each mem with ⟨location, -, part, fits, mem⟩
    exact fits.isOver given outcome mem
  · intro outcome mem
    rcases Collecting.exists_of_mem_answers ofCodebase mem with ⟨token, inTokens, fits⟩
    exact TokenOutcome.isOver (givenUrl token inTokens) fits

/-- What is assembled is over files with any property that all that opens has, and of the policy
that it is assembled with. -/
theorem over_of_assemble (given : Given setup P) {components : Components}
    (givenUrl : ∀ token ∈ codebaseTokens components.codebase, ∀ file,
      Location.UrlOpens setup.world token file → P file)
    {session : Session} {package : Package}
    (returned : ((assemble setup components).run.run session).1 = .ok package) :
    package.Over P (· = setup.policy) := by
  rcases (assemble_yields setup components).good returned with ⟨built, all, fits, rfl⟩
  refine .merged built _ rfl ?_
  intro entry mem
  rcases List.mem_filterMap.1 mem with ⟨outcome, inAll, entry⟩
  rcases fits.isOver given givenUrl outcome inAll _ entry with ⟨built, role, file, rfl, fits⟩
  exact .directory built role fits rfl

end

/-- What is assembled is built, so all that holds of built packages holds of it. -/
theorem built_of_assemble {components : Components} {session : Session} {package : Package}
    (returned : ((assemble setup components).run.run session).1 = .ok package) : package.Built :=
  (over_of_assemble (given_opened setup) (fun _ _ _ => opened_of_urlOpens) returned).isBuilt

/-! ## What is refused -/

/-- A class path is assembled exactly if it can be told what all that the components name opens as.
Whether anything opens does not matter. -/
theorem assemble_returns_iff (setup : Setup) (components : Components) (session : Session) :
    (∃ package, ((assemble setup components).run.run session).1 = .ok package) ↔
      TakesAll setup components :=
  (assemble_yields setup components).returns_iff session

/-- In a directory that exists, a name over the limit is refused. -/
theorem resolve_of_long {files : FileSystem} {name : String}
    (here : files.entryAt? files.current = some .directory)
    (searched : files.current ∉ files.sealed)
    (long : FileSystem.nameLimit < name.utf8ByteSize) :
    files.resolve ⟨.here, [name]⟩ = .error .nameTooLong := by
  have noParent : name ≠ ".." := by
    rintro rfl
    exact absurd long (by decide)
  rw [FileSystem.resolve]
  split
  · rfl
  · simp [FileSystem.start, Path.isAbsolute, FileSystem.walk, here, searched, noParent, long,
      bind, Except.bind]

/-- A name of this many letters. -/
def letters (count : Nat) : String := String.ofList (List.replicate count 'a')

theorem utf8ByteSize_letters (count : Nat) : (letters count).utf8ByteSize = count := by
  induction count with
  | zero => rfl
  | succ count ih =>
    have letter : "a".utf8ByteSize = 1 := rfl
    rw [letters] at ih ⊢
    rw [List.replicate_succ, String.ofList_cons, String.utf8ByteSize_append, ih]
    simp [letter, Nat.add_comm]

theorem letters_ne {count : Nat} {text : String} (differs : text.utf8ByteSize ≠ count) :
    letters count ≠ text := by
  rintro rfl
  exact differs (utf8ByteSize_letters count)

theorem split_letters {separator : Char} (differs : separator ≠ 'a') (count : Nat) :
    Text.split separator (letters count) = [letters count] := by
  rw [Text.split, letters, String.toList_ofList, Text.pieces_of_notMem]
  · rfl
  · intro mem
    exact differs (List.eq_of_mem_replicate mem)

/-- Nothing exists, neither files nor URLs. -/
def nowhere : Setup := ⟨⟨.empty, ⟨[]⟩⟩, none, .showAll⟩

theorem not_takes_letters :
    ¬Expansion.Takes nowhere.world.files nowhere.base (letters 256) := by
  have long : FileSystem.nameLimit < (letters 256).utf8ByteSize := by
    rw [utf8ByteSize_letters]
    decide
  have noNull : '\x00' ∉ (letters 256).toList := by
    rw [letters, String.toList_ofList]
    intro mem
    exact absurd (List.eq_of_mem_replicate mem) (by decide)
  have path : Path.ofString (letters 256) = ⟨.here, [letters 256]⟩ := by
    have anchor : Path.anchorOf (letters 256).toList = .here := by
      rw [letters, String.toList_ofList]
      rfl
    have kept : letters 256 ≠ "" ∧ letters 256 ≠ "." :=
      ⟨letters_ne (by decide), letters_ne (by decide)⟩
    rw [Path.ofString, split_letters (by decide), anchor]
    simp [kept]
  intro taken
  have asked := taken.asked
  rw [path, nowhere, Path.within_none, FileSystem.Takes, resolve_of_long rfl List.not_mem_nil long]
    at asked
  simp [Path.hasNull, noNull, SystemError.meansAbsent] at asked

/-- A directory that may not be searched with an archive in it, and beside it, as on the web, an
archive that asks for a later version of its format than is read. -/
def guarded : Setup where
  world :=
    ⟨{ FileSystem.ofEntries [(["d"], .directory), (["d", "a.jar"], .file (.archive [])),
        (["b.jar"], .file (.unsupported [] (.laterVersion 99)))] with sealed := [["d"]] },
      ⟨[("http://h/c.jar", .answer 200 "" (.unsupported [] (.laterVersion 99)))]⟩⟩
  base := none
  policy := .showAll

/-- What is refused: a name that is one byte too long, a U+0000 in front of a star, what lies in a
directory that may not be searched, and an archive that is not supported. -/
theorem assemble_refuses :
    (¬∃ package,
      ((assemble nowhere ⟨letters 256, "", "", "", ""⟩).run.run .start).1 = .ok package) ∧
    ((assemble nowhere ⟨"", "", "\x00/*", "", ""⟩).run.run .start).1 = .error .nullCharacter ∧
    ((assemble guarded ⟨"/d/a.jar", "", "", "", ""⟩).run.run .start).1 =
      .error (.system .permissionDenied "/d/a.jar") ∧
    ((assemble guarded ⟨"/b.jar", "", "", "", ""⟩).run.run .start).1 =
      .error (.unsupportedArchive (.laterVersion 99)) := by
  refine ⟨?_, by decide +kernel, by decide +kernel, by decide +kernel⟩
  rw [(assemble_yields _ _).returns_iff]
  intro taken
  apply not_takes_letters
  have configured : letters 256 ∈ (Expansion.locations (letters 256)).filter (· ≠ "") := by
    rw [Expansion.locations, split_letters (by decide)]
    simpa using letters_ne (by decide)
  simpa [Expansion.TakesExpanded] using taken.boot (letters 256) configured

end Assembly

end JvmClasspath
