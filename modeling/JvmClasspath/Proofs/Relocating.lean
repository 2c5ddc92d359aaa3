import JvmClasspath.Proofs.Anchored
import JvmClasspath.Proofs.Outcomes

/-!
# Runs in different directories

A class path that is assembled in a base directory which starts at the root, without a codebase,
opens nothing from the current directory: stars are expanded in the base directory, what they stand
for is opened there, and so is what an extension directory holds. So it is assembled in the same way
wherever one stands, and is over anchored files.

Main statement: two runs that see the same tree, each from a directory of its own that may change at
any moment, build the same class paths and are given the same answers.
-/

namespace JvmClasspath

variable {files files' : FileSystem}

/-! ## Opening -/

namespace Location

theorem openPath?_congr (same : files.SameTree files') {path : Path}
    (absolute : path.isAbsolute = true) : openPath? files path = openPath? files' path := by
  have read :
      (Archive.Source.path path).members files = (Archive.Source.path path).members files' :=
    Archive.Source.Anchored.members_eq same absolute
  rw [openPath?, openPath?, same.isDirectory_eq absolute, same.isFile_eq absolute]
  simp only [Archive.openPath, Archive.open, read]

theorem anchored_of_opens {path : Path} (absolute : path.isAbsolute = true) {file : File}
    (opens : Opens files path file) : file.Anchored := by
  cases opens with
  | directory found => exact absolute
  | archive opening found named read => exact absolute

end Location

/-! ## Expanding -/

namespace Expansion

variable {base : Path} (absolute : base.isAbsolute = true)

include absolute

theorem jarsIn_congr (same : files.SameTree files') (directory : String) (test : String → Bool) :
    jarsIn files (some base) directory test = jarsIn files' (some base) directory test := by
  have within := Path.isAbsolute_within absolute (Path.ofString directory)
  have child : ∀ name, files.isFile (((Path.ofString directory).within (some base)).child name) =
      files'.isFile (((Path.ofString directory).within (some base)).child name) :=
    fun name => same.isFile_eq within
  simp only [jarsIn, same.list_eq within, child]

theorem expandAll_congr (same : files.SameTree files') (path : String) (stars : Bool) :
    expandAll files (some base) path stars = expandAll files' (some base) path stars := by
  have each : expand files (some base) = expand files' (some base) := by
    funext location
    simp only [expand, jarsIn_congr absolute same]
  rw [expandAll, expandAll, each]

end Expansion

/-! ## Assembling -/

namespace Assembly

/-- Where locations are opened if the files are seen from some directory, and the base directory is
given. -/
def seen (web : Web) (base : Path) (policy : Policy) (files : FileSystem) : Setup :=
  ⟨⟨files, web⟩, some base, policy⟩

variable {web : Web} {base : Path} {policy : Policy} (absolute : base.isAbsolute = true)

include absolute

theorem given_anchored (files : FileSystem) : Given (seen web base policy files) File.Anchored where
  inherited := File.inherited_anchored
  location := Location.anchored_of_opens (Path.isAbsolute_within absolute _)
  extension := by
    intro child file anchored opens
    cases child with
    | plain path => exact Location.anchored_of_opens anchored opens
    | archive a => exact opens.2 ▸ anchored
    | folder a member children => exact opens.2 ▸ anchored
    | entry a member => exact opens.2 ▸ anchored

variable (same : files.SameTree files')

include same

theorem openLocation_congr (location : String) :
    openLocation (seen web base policy files) location =
      openLocation (seen web base policy files') location :=
  Location.openPath?_congr same (Path.isAbsolute_within absolute _)

theorem pathOutcomes_congr (component : Component) (stars : Bool) (role : Role) (path : String) :
    pathOutcomes (seen web base policy files) component stars role path =
      pathOutcomes (seen web base policy files') component stars role path := by
  have each : locationOutcome (seen web base policy files) component role =
      locationOutcome (seen web base policy files') component role := by
    funext location
    rw [locationOutcome, locationOutcome, openLocation_congr absolute same]
    rfl
  have expanded := Expansion.expandAll_congr absolute same path stars
  rw [pathOutcomes, pathOutcomes, each]
  exact congrArg (fun answer => liftM answer >>= _) expanded

omit absolute in
theorem isExtension_congr {child : File} (anchored : child.Anchored) :
    isExtension files child = isExtension files' child := by
  rw [isExtension, isExtension, anchored.isDirectory_eq same]

omit absolute in
theorem openExtension_congr {child : File} (anchored : child.Anchored) :
    openExtension files child = openExtension files' child := by
  cases child with
  | plain path => exact Location.openPath?_congr same anchored
  | archive archive => rfl
  | folder archive member children => rfl
  | entry archive member => rfl

omit absolute in
theorem extensionOutcomes_congr {children : List File}
    (anchored : ∀ child ∈ children, child.Anchored) :
    extensionOutcomes (seen web base policy files) children =
      extensionOutcomes (seen web base policy files') children := by
  induction children with
  | nil => rfl
  | cons child rest ih =>
    rw [List.forall_mem_cons] at anchored
    have asked : isExtension (seen web base policy files).world.files child =
        isExtension (seen web base policy files').world.files child :=
      isExtension_congr same anchored.1
    have here : extensionOutcome (seen web base policy files) child =
        extensionOutcome (seen web base policy files') child := by
      rw [extensionOutcome, extensionOutcome]
      exact congrArg (· >>= _) (openExtension_congr same anchored.1)
    rw [extensionOutcomes, extensionOutcomes, asked, here, ih anchored.2]

theorem directoryOutcomes_congr (location : String) :
    directoryOutcomes (seen web base policy files) location =
      directoryOutcomes (seen web base policy files') location := by
  rw [directoryOutcomes, directoryOutcomes, ← openLocation_congr absolute same]
  apply Session.Run.bind_congr_of_returns
  intro answer opened
  cases answer with
  | none => rfl
  | some directory =>
    have anchored := (given_anchored absolute files).openLocation opened
    have alike : directory.children (seen web base policy files).world.files =
        directory.children (seen web base policy files').world.files :=
      anchored.children_eq same
    simp only [← alike]
    apply Session.Run.bind_congr_of_returns
    rintro children ⟨session, listed⟩
    exact extensionOutcomes_congr same
      (File.inherited_anchored anchored ((Session.Run.yields_lift _).good listed))

theorem outcomes_congr {components : Components}
    (offline : codebaseTokens components.codebase = []) :
    outcomes (seen web base policy files) components =
      outcomes (seen web base policy files') components := by
  have paths := @pathOutcomes_congr _ _ web base policy absolute same
  have directories : directoryOutcomes (seen web base policy files) =
      directoryOutcomes (seen web base policy files') :=
    funext (directoryOutcomes_congr absolute same)
  have ext : extOutcomes (seen web base policy files) components.ext =
      extOutcomes (seen web base policy files') components.ext := by
    rw [extOutcomes, extOutcomes, directories]
  simp only [outcomes, paths, ext, offline, List.mapM_nil]

/-- A class path without a codebase is assembled in the same way from everywhere. -/
theorem assemble_congr {components : Components}
    (offline : codebaseTokens components.codebase = []) :
    assemble (seen web base policy files) components =
      assemble (seen web base policy files') components := by
  rw [assemble, assemble, outcomes_congr absolute same offline]
  rfl

omit same in
/-- It is over anchored files. -/
theorem anchored_of_assemble {components : Components}
    (offline : codebaseTokens components.codebase = []) {session : Session} {package : Package}
    (returned :
      ((assemble (seen web base policy files) components).run.run session).1 = .ok package) :
    package.Anchored :=
  (over_of_assemble (given_anchored absolute files) (by simp [offline]) returned).imp
    fun _ _ => trivial

end Assembly

/-! ## Plans -/

/-- Plans that open nothing from the current directory: packages over anchored files or anchored
packages, and whole class paths that are assembled in a base directory which starts at the root,
from any components but a codebase. -/
inductive Plan.Anchored : Plan → Prop where
  | directory (role : Role) {file : File} (policy : Policy) (anchored : file.Anchored) :
      Plan.Anchored (.directory role file policy)
  | merged {entries : List Package} (policy : Policy)
      (each : ∀ entry ∈ entries, entry.Anchored) : Plan.Anchored (.merged entries policy)
  | wholeClassPath (web : Web) {base : Path} (absolute : base.isAbsolute = true) (policy : Policy)
      {components : Components} (offline : Assembly.codebaseTokens components.codebase = []) :
      Plan.Anchored (.wholeClassPath web (some base) policy components)

theorem Plan.Anchored.build_congr (same : files.SameTree files') {plan : Plan}
    (anchored : plan.Anchored) : plan.build files = plan.build files' := by
  cases anchored with
  | directory role policy anchored => rfl
  | merged policy each => rfl
  | wholeClassPath web absolute policy offline =>
    exact Assembly.assemble_congr absolute same offline

theorem Plan.Anchored.package {plan : Plan} (anchored : plan.Anchored) {session : Session}
    {package : Package} (returned : ((plan.build files).run.run session).1 = .ok package) :
    package.Anchored := by
  cases anchored with
  | directory role policy anchored =>
    cases returned
    exact .directory _ role anchored trivial
  | merged policy each =>
    cases returned
    exact .merged _ .part trivial each
  | wholeClassPath web absolute policy offline =>
    exact Assembly.anchored_of_assemble absolute offline returned

/-! ## Two runs -/

namespace Moment

/-- The package, or failure, that a plan comes to at this moment. -/
def outcome (moment : Moment) (plan : Plan) : Except Failure Package :=
  ((plan.build moment.files).run.run moment.session).1

/-- Two moments that are reached side by side, from starts that see the same tree. At each step the
files may change in both runs, as long as the tree stays the same, so either may move to another
directory; or both build by the same anchored plan; or both ask the same anchored package. -/
inductive Tandem : Moment → Moment → Prop where
  | start {files files' : FileSystem} (same : files.SameTree files') (session : Session) :
      Tandem ⟨files, session, .empty⟩ ⟨files', session, .empty⟩
  | change {left right : Moment} (tandem : Tandem left right) {edit edit' : FileSystem → FileSystem}
      (same : (edit left.files).SameTree (edit' right.files)) :
      Tandem (left.step (.change edit)) (right.step (.change edit'))
  | build {left right : Moment} (tandem : Tandem left right) {plan : Plan}
      (anchored : plan.Anchored) : Tandem (left.step (.build plan)) (right.step (.build plan))
  | ask {left right : Moment} (tandem : Tandem left right) {package : Package}
      (anchored : package.Anchored) (question : Question) :
      Tandem (left.step (.ask package question)) (right.step (.ask package question))

/-- Whether two moments differ in the current directory at most. -/
structure Alike (left right : Moment) : Prop where
  files : left.files.SameTree right.files
  session : left.session = right.session
  scans : left.scans = right.scans

theorem Alike.ask_eq {left right : Moment} (alike : left.Alike right) (sound : left.scans.Sound)
    {package : Package} (anchored : package.Anchored) (question : Question) :
    (package.ask left.files question).run.run left.scans =
      (package.ask right.files question).run.run right.scans := by
  rw [← alike.scans]
  exact anchored.ask_alike alike.files question left.scans sound

/-- Side by side, two runs stay alike, and what they remember is sound. -/
theorem Tandem.alike {left right : Moment} (tandem : Tandem left right) :
    left.Alike right ∧ left.scans.Sound := by
  induction tandem with
  | start same session => exact ⟨⟨same, rfl, rfl⟩, Scans.sound_empty⟩
  | change tandem same ih => exact ⟨⟨same, ih.1.session, ih.1.scans⟩, sound_step ih.2 _⟩
  | build tandem anchored ih =>
    refine ⟨⟨ih.1.files, ?_, ih.1.scans⟩, sound_step ih.2 _⟩
    rw [step, step, anchored.build_congr ih.1.files, ih.1.session]
  | ask tandem anchored question ih =>
    refine ⟨⟨ih.1.files, ih.1.session, ?_⟩, sound_step ih.2 _⟩
    rw [step, step, ih.1.ask_eq ih.2 anchored question]

/-- Two runs that see the same tree, from wherever they stand, build the same packages by anchored
plans or are refused alike; they are given the same answers to all questions about these packages
and about what the answers tell of; and the files they are told of have the same content. -/
theorem indifferent {left right : Moment} (tandem : Tandem left right) :
    (∀ plan : Plan, plan.Anchored → left.outcome plan = right.outcome plan ∧
      ∀ package, left.outcome plan = .ok package → package.Anchored) ∧
    (∀ package : Package, package.Anchored → ∀ question : Question,
      left.answer package question = right.answer package question ∧
      ∀ answer, left.answer package question = .ok answer → answer.Anchored) ∧
    ∀ file : File, file.Anchored → file.read left.files = file.read right.files := by
  rcases tandem.alike with ⟨alike, sound⟩
  refine ⟨fun plan anchored => ⟨?_, ?_⟩, fun package anchored question => ⟨?_, ?_⟩, ?_⟩
  · rw [outcome, outcome, anchored.build_congr alike.files, alike.session]
  · exact fun package returned => anchored.package returned
  · rw [answer, answer, alike.ask_eq sound anchored question]
  · intro answer answered
    exact anchored.mayAnswer ((package.ask_gives left.files question).good sound answered)
  · exact fun file anchored => anchored.read_eq alike.files

/-- A base directory with a compiled class in one directory and a jar in another. -/
def homestead : FileSystem :=
  FileSystem.ofEntries [(["b"], .directory), (["b", "c"], .directory),
    (["b", "c", "X.class"], .file (.bytes [1])), (["b", "lib"], .directory),
    (["b", "lib", "u.jar"], .file (.archive [⟨"p/Y.class", [2]⟩]))]

/-- The class path of the two, each named from the base directory. -/
def homely : Plan :=
  .wholeClassPath ⟨[]⟩ (some ⟨.root, ["b"]⟩) .showAll ⟨"c", "", "lib/*", "", ""⟩

theorem anchored_homely : homely.Anchored := .wholeClassPath _ rfl _ (by decide)

/-- The jar, which is read from the root. -/
def homeJar : Archive where
  opening := 1
  source := .path ⟨.root, ["b", "lib", "u.jar"]⟩
  name := "u.jar"
  location := "/b/lib/u.jar"
  children := [("p", .directory [("Y.class", .file "p/Y.class")])]

/-- The class path as it is built first. -/
def home : Package :=
  .merged 3 (.wholeClassPath [])
    [.directory 0 .binaries (.plain ⟨.root, ["b", "c"]⟩) .showAll,
      .directory 2 .binaries (.archive homeJar) .showAll] .showAll

/-- The class in the jar. -/
def homeClass : ClassRep := ⟨some (.entry homeJar "p/Y.class"), none, "Y", rfl⟩

/-- A run that stands at the root. The class path is built, and then the class is removed. -/
def homebound : Moment :=
  ((⟨homestead, .start, .empty⟩ : Moment).step (.build homely)).step
    (.change (·.remove ["b", "c", "X.class"]))

/-- A run that stands in the base directory, and goes to a place that does not exist after the same
has happened. -/
def astray : Moment :=
  ((⟨homestead.changeDirectory ["b"], .start, .empty⟩ : Moment).step (.build homely)).step
    (.change fun files => (files.remove ["b", "c", "X.class"]).changeDirectory ["gone"])

theorem tandem_astray : homebound.Tandem astray :=
  ((Tandem.start (homestead.sameTree_changeDirectory ["b"]) .start).build anchored_homely).change
    ⟨fun _ => rfl, fun _ => Iff.rfl, fun _ => Iff.rfl⟩

/-- The other run is given the same class path, finds the same class of the jar and reads the same
from its file. -/
theorem indifferent_astray :
    homebound.Tandem astray ∧ homebound.files.current ≠ astray.files.current ∧
      (⟨homestead.changeDirectory ["b"], .start, .empty⟩ : Moment).outcome homely = .ok home ∧
      astray.answer home (.findClass "p.Y") = .ok (.foundClass (some homeClass)) ∧
      (File.entry homeJar "p/Y.class").read astray.files = .ok [2] := by
  have built : (⟨homestead, .start, .empty⟩ : Moment).outcome homely = .ok home := by
    decide +kernel
  have found : homebound.answer home (.findClass "p.Y") =
      .ok (.foundClass (some homeClass)) := by
    decide +kernel
  have content : (File.entry homeJar "p/Y.class").read homebound.files = .ok [2] := by
    decide +kernel
  have atStart := indifferent (.start (homestead.sameTree_changeDirectory ["b"]) .start)
  have later := indifferent tandem_astray
  rcases atStart.1 homely anchored_homely with ⟨sameOutcome, anchored⟩
  rcases later.2.1 home (anchored home built) (.findClass "p.Y") with ⟨sameAnswer, reaches⟩
  have anchoredClass : homeClass.Anchored := reaches _ found homeClass rfl
  have sameContent := later.2.2 _ (anchoredClass.binary _ rfl)
  exact ⟨tandem_astray, by decide, sameOutcome ▸ built, sameAnswer ▸ found,
    sameContent ▸ content⟩

end Moment

end JvmClasspath
