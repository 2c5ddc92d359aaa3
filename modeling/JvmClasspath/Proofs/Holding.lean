import JvmClasspath.Proofs.Lasting
import JvmClasspath.Proofs.Opened

/-!
# What packages may hold

A package is asked at moments that lie apart, and the files may change between them. A merged
package has its answer put together from those of its entries, of which some were given long ago, so
there need be no state of the files in which a scan would find it.

What there is to an answer all the same: each directory was looked at in some state of the files.
Lists of which this can be said are lists that a package may hold. While only such lists are
remembered, queries answer with nothing else and remember nothing else, and a scan fails for one
reason alone: the system refuses to look up a path.
-/

namespace JvmClasspath

variable {files : FileSystem} {α β : Type}

/-! ## What a scan of a directory refuses -/

/-- Whether a failure is the system's refusal to look up a path. That nothing stands there is an
answer and no refusal. -/
def Failure.IsRefusal (failure : Failure) : Prop :=
  ∃ cause path, failure = .system cause path ∧ cause.meansAbsent = false

theorem FileSystem.lookUp_eq_error {path : Path} {failure : Failure}
    (refused : files.lookUp path = .error failure) : failure.IsRefusal := by
  rw [lookUp] at refused
  split at refused
  · cases refused
  · split at refused
    · cases refused
    · next cause _ =>
      split at refused
      · cases refused
      · next stays =>
        cases refused
        exact ⟨cause, _, rfl, by simpa using stays⟩

theorem FileSystem.isDirectory_eq_error {path : Path} {failure : Failure}
    (refused : files.isDirectory path = .error failure) : failure.IsRefusal := by
  rw [isDirectory] at refused
  cases found : files.lookUp path with
  | error cause =>
    rw [found] at refused
    cases refused
    exact lookUp_eq_error found
  | ok entry =>
    rw [found] at refused
    cases refused

namespace File

theorem isDirectory_eq_error {file : File} {failure : Failure}
    (refused : file.isDirectory files = .error failure) : failure.IsRefusal := by
  cases file with
  | plain path => exact FileSystem.isDirectory_eq_error refused
  | archive archive => cases refused
  | folder archive member children => cases refused
  | entry archive member => cases refused

theorem children_eq_error {file : File} {failure : Failure}
    (refused : file.children files = .error failure) : failure.IsRefusal := by
  cases file with
  | plain path =>
    rw [children] at refused
    rcases Collecting.bind_eq_error.1 refused with asked | ⟨answer, -, impossible⟩
    · exact FileSystem.isDirectory_eq_error asked
    · cases answer with
      | false => cases impossible
      | true => cases listed : files.list path <;> simp [listed, pure, Except.pure] at impossible
  | archive archive => cases refused
  | folder archive member children => cases refused
  | entry archive member => cases refused

end File

/-! ## What a directory shows -/

namespace ClassRep

/-- A class that can be had has the files it was given. -/
theorem ofFiles_eq_ok {binary source : Option File} {rep : ClassRep}
    (had : ofFiles binary source = .ok rep) : rep.binary = binary ∧ rep.source = source := by
  rw [ofFiles] at had
  split at had
  · cases had
    exact ⟨rfl, rfl⟩
  · cases had

theorem ofFiles_eq_ok_of_nameOf {binary source : Option File} {name : String}
    (named : nameOf binary source = .ok name) :
    ofFiles binary source = .ok ⟨binary, source, name, named⟩ := by
  rw [ofFiles]
  split
  · next found =>
    rw [named] at found
    cases found
    rfl
  · next failed =>
    rw [named] at failed
    cases failed

end ClassRep

namespace Package

/-- What a file is called decides whether it is shown, and then as a class of which name. -/
theorem represent_of_shows {role : Role} {policy : Policy} {name : String}
    (shown : shows role policy name = true) :
    ∃ simple, ∀ file : File, file.name = name →
      ∃ rep, represent role file = .ok rep ∧ rep.name = simple := by
  cases role with
  | binaries =>
    have ends : Text.endsWith Naming.classEnding name = true := (Bool.and_eq_true_iff.1 shown).1
    refine ⟨Text.withoutEnding Naming.classEnding name, ?_⟩
    rintro file rfl
    have named : ClassRep.nameOf (some file) none =
        .ok (Text.withoutEnding Naming.classEnding file.name) := by
      rw [ClassRep.nameOf, Naming.classOfBinary, if_pos ends]
    exact ⟨_, ClassRep.ofFiles_eq_ok_of_nameOf named, rfl⟩
  | sources =>
    obtain ⟨ending, found⟩ : ∃ ending,
        Naming.sourceEndings.find? (Text.endsWith · name) = some ending := by
      rw [← Option.isSome_iff_exists, List.find?_isSome]
      simpa [shows, Naming.isSourceFile] using shown
    refine ⟨Text.withoutEnding ending name, ?_⟩
    rintro file rfl
    have named : ClassRep.nameOf none (some file) = .ok (Text.withoutEnding ending file.name) := by
      rw [ClassRep.nameOf, Naming.classOfSource, found]
    exact ⟨_, ClassRep.ofFiles_eq_ok_of_nameOf named, rfl⟩

theorem name_of_represent_binaries {file : File} {rep : ClassRep}
    (shown : represent .binaries file = .ok rep) : file.name = rep.name ++ Naming.classEnding := by
  have named := rep.named
  rw [(ClassRep.ofFiles_eq_ok shown).1, ClassRep.nameOf] at named
  exact Naming.eq_of_classOfBinary named

theorem source_of_represent_sources {file : File} {rep : ClassRep}
    (shown : represent .sources file = .ok rep) :
    rep.source = some file ∧ ∃ ending ∈ Naming.sourceEndings, file.name = rep.name ++ ending := by
  rcases ClassRep.ofFiles_eq_ok shown with ⟨binary, source⟩
  have named := rep.named
  rw [binary, source, ClassRep.nameOf] at named
  exact ⟨source, Naming.eq_of_classOfSource named⟩

/-- What is shown passes the test of its name. -/
theorem shows_of_filterM {kinds : Bool → Bool} {test : String → Bool} {children shown : List File}
    (filtered : (children.filterM fun child => do
      return kinds (← child.isDirectory files) && test child.name) = .ok shown) :
    ∀ child ∈ shown, test child.name = true := by
  intro child mem
  rcases Collecting.bind_eq_ok.1 (Collecting.passed_of_filterM filtered child mem) with
    ⟨kind, -, passed⟩
  exact (Bool.and_eq_true_iff.1 (Except.ok.inj passed)).2

/-- Children are told apart unless the path of one is refused. -/
theorem isRefusal_of_filterM {kinds : Bool → Bool} {test : String → Bool} {children : List File}
    {failure : Failure}
    (failed : (children.filterM fun child => do
      return kinds (← child.isDirectory files) && test child.name) = .error failure) :
    failure.IsRefusal := by
  rcases Collecting.exists_of_filterM_eq_error failed with ⟨child, -, refused⟩
  rcases Collecting.bind_eq_error.1 refused with asked | ⟨kind, -, impossible⟩
  · exact File.isDirectory_eq_error asked
  · cases impossible

/-- The classes of a directory are those of the children that it shows. -/
theorem classesIn_eq_ok {role : Role} {file : File} {policy : Policy} {reps : List ClassRep}
    (found : classesIn files role file policy = .ok reps) :
    ∃ children shown : List File, file.children files = .ok children ∧ shown.Sublist children ∧
      (∀ child ∈ shown, shows role policy child.name = true) ∧
      List.Forall₂ (fun child rep => represent role child = .ok rep) shown reps := by
  rw [classesIn] at found
  rcases Collecting.bind_eq_ok.1 found with ⟨children, listed, found⟩
  rcases Collecting.bind_eq_ok.1 found with ⟨shown, filtered, found⟩
  exact ⟨children, shown, listed, Collecting.sublist_of_filterM filtered,
    shows_of_filterM filtered, Collecting.mapM_eq_ok.1 found⟩

/-- The packages of a directory are those over the children that are named as packages are. -/
theorem packagesIn_eq_ok {built : Nat} {role : Role} {file : File} {policy : Policy}
    {packages : List Package} (found : packagesIn files built role file policy = .ok packages) :
    ∃ children shown : List File, file.children files = .ok children ∧ shown.Sublist children ∧
      (∀ child ∈ shown, Naming.isPackage child.name = true) ∧
      packages = shown.map fun child => directory built role child policy := by
  rw [packagesIn] at found
  rcases Collecting.bind_eq_ok.1 found with ⟨children, listed, found⟩
  rcases Collecting.bind_eq_ok.1 found with ⟨shown, filtered, found⟩
  exact ⟨children, shown, listed, Collecting.sublist_of_filterM filtered,
    shows_of_filterM filtered, (Except.ok.inj found).symm⟩

/-- No file that is shown fails to be a class, so a directory fails to show its classes only where a
path is refused. -/
theorem classesIn_eq_error {role : Role} {file : File} {policy : Policy} {failure : Failure}
    (failed : classesIn files role file policy = .error failure) : failure.IsRefusal := by
  rw [classesIn] at failed
  rcases Collecting.bind_eq_error.1 failed with listing | ⟨children, -, failed⟩
  · exact File.children_eq_error listing
  · rcases Collecting.bind_eq_error.1 failed with filtering | ⟨shown, filtered, failed⟩
    · exact isRefusal_of_filterM filtering
    · rcases Collecting.exists_of_mapM_eq_error failed with ⟨child, mem, failed⟩
      rcases represent_of_shows (shows_of_filterM filtered child mem) with ⟨simple, named⟩
      rcases named child rfl with ⟨rep, represented, -⟩
      rw [represented] at failed
      cases failed

theorem packagesIn_eq_error {built : Nat} {role : Role} {file : File} {policy : Policy}
    {failure : Failure} (failed : packagesIn files built role file policy = .error failure) :
    failure.IsRefusal := by
  rw [packagesIn] at failed
  rcases Collecting.bind_eq_error.1 failed with listing | ⟨children, -, failed⟩
  · exact File.children_eq_error listing
  · rcases Collecting.bind_eq_error.1 failed with filtering | ⟨shown, -, impossible⟩
    · exact isRefusal_of_filterM filtering
    · cases impossible

/-! ## What packages may hold -/

/-- Whether a package may show these classes, each directory being looked at in some state of the
files. -/
inductive MayShow : Package → List ClassRep → Prop where
  | directory (files : FileSystem) {built : Nat} {role : Role} {file : File} {policy : Policy}
      {reps : List ClassRep} (found : classesIn files role file policy = .ok reps) :
      MayShow (.directory built role file policy) reps
  | merged {built : Nat} {view : View} {entries : List Package} {policy : Policy}
      {lists : List (List ClassRep)} (each : List.Forall₂ MayShow entries lists) :
      MayShow (.merged built view entries policy) (mergeClasses lists.flatten)
  | listed {built : Nat} {listing : Listing} {packages : List Package} :
      MayShow (.listed built listing packages) listing.classes

/-- Whether a package may hold these packages, each directory being looked at in some state of the
files. -/
inductive MayHold : Package → List Package → Prop where
  | directory (files : FileSystem) {built : Nat} {role : Role} {file : File} {policy : Policy}
      {packages : List Package} (found : packagesIn files built role file policy = .ok packages) :
      MayHold (.directory built role file policy) packages
  | merged {built : Nat} {view : View} {entries : List Package} {policy : Policy}
      {lists : List (List Package)} (each : List.Forall₂ MayHold entries lists) :
      MayHold (.merged built view entries policy) (mergePackages built policy lists.flatten)
  | listed {built : Nat} {listing : Listing} {packages : List Package} :
      MayHold (.listed built listing packages) packages

/-- Whether one package may lead to another, through lists that packages may hold. -/
inductive MayReach (top : Package) : Package → Prop where
  | top : MayReach top top
  | inside {outer inner : Package} {packages : List Package} (reached : MayReach top outer)
      (held : outer.MayHold packages) (mem : inner ∈ packages) : MayReach top inner

theorem MayReach.of_inside {top child node : Package} {packages : List Package}
    (held : top.MayHold packages) (mem : child ∈ packages) (reached : MayReach child node) :
    MayReach top node := by
  induction reached with
  | top => exact .inside .top held mem
  | inside reached held mem ih => exact .inside ih held mem

end Package

/-! ## Queries give what may be -/

/-- Whether what is remembered may be so. -/
structure Scans.Sound (scans : Scans) : Prop where
  classes : ∀ entry ∈ scans.classes, entry.1.MayShow entry.2
  packages : ∀ entry ∈ scans.packages, entry.1.MayHold entry.2

theorem Scans.sound_empty : Scans.empty.Sound := ⟨by simp [empty], by simp [empty]⟩

namespace Query

/-- Whether a query, as long as what is remembered is sound, keeps it so, gives only values that
are `good`, and fails only for reasons that are `fair`. -/
structure Gives (query : Query α) (good : α → Prop) (fair : Failure → Prop) : Prop where
  keeps : ∀ {scans : Scans}, scans.Sound → (query.run.run scans).2.Sound
  good : ∀ {scans : Scans} {value : α}, scans.Sound →
    (query.run.run scans).1 = .ok value → good value
  fair : ∀ {scans : Scans} {failure : Failure}, scans.Sound →
    (query.run.run scans).1 = .error failure → fair failure

variable {query : Query α} {good good' : α → Prop} {fair fair' : Failure → Prop}

theorem Gives.imp (gives : query.Gives good fair) (better : ∀ value, good value → good' value)
    (fairer : ∀ failure, fair failure → fair' failure) : query.Gives good' fair' :=
  ⟨gives.keeps, fun sound given => better _ (gives.good sound given),
    fun sound failed => fairer _ (gives.fair sound failed)⟩

theorem gives_pure {value : α} (fits : good value) : Gives (pure value) good fair :=
  ⟨id, fun _ given => Except.ok.inj given ▸ fits, fun _ failed => nomatch failed⟩

theorem gives_throw {failure : Failure} (fits : fair failure) :
    Gives (throw failure : Query α) good fair :=
  ⟨id, fun _ given => (nomatch given), fun _ failed => Except.error.inj failed ▸ fits⟩

theorem gives_lift {answer : Except Failure α} (fits : ∀ value, answer = .ok value → good value)
    (fails : ∀ failure, answer = .error failure → fair failure) :
    Gives (liftM answer : Query α) good fair := by
  cases answer with
  | ok value => exact gives_pure (fits value rfl)
  | error failure => exact gives_throw (fails failure rfl)

theorem Gives.bind {next : α → Query β} {last : β → Prop} (first : query.Gives good fair)
    (second : ∀ value, good value → (next value).Gives last fair) :
    (query >>= next).Gives last fair := by
  -- All three parts follow the first query and, if it gives a value, the second one.
  have steps : ∀ {scans : Scans}, scans.Sound →
      (∃ value later, good value ∧ later.Sound ∧
        (query >>= next).run.run scans = (next value).run.run later) ∨
      (∃ failure later, fair failure ∧ later.Sound ∧
        (query >>= next).run.run scans = (.error failure, later)) := by
    intro scans sound
    have kept := first.keeps sound
    have fits := @first.good scans
    have fails := @first.fair scans
    rw [Collecting.run_bind]
    cases outcome : query.run.run scans with
    | mk result later =>
      rw [outcome] at kept fits fails
      cases result with
      | ok value => exact .inl ⟨value, later, fits sound rfl, kept, rfl⟩
      | error failure => exact .inr ⟨failure, later, fails sound rfl, kept, rfl⟩
  refine ⟨?_, ?_, ?_⟩
  · intro scans sound
    rcases steps sound with ⟨value, later, fits, kept, same⟩ | ⟨failure, later, -, kept, same⟩
    · rw [same]
      exact (second value fits).keeps kept
    · rw [same]
      exact kept
  · intro scans result sound given
    rcases steps sound with ⟨value, later, fits, kept, same⟩ | ⟨failure, later, -, -, same⟩
    · rw [same] at given
      exact (second value fits).good kept given
    · rw [same] at given
      cases given
  · intro scans result sound failed
    rcases steps sound with ⟨value, later, fits, kept, same⟩ | ⟨failure, later, fails, -, same⟩
    · rw [same] at failed
      exact (second value fits).fair kept failed
    · rw [same] at failed
      cases failed
      exact fails

theorem gives_rememberedOr {memory : Scans → Option α} {keep : α → Scans → Scans}
    (scanned : query.Gives good fair)
    (remembered : ∀ {scans : Scans} {value}, scans.Sound → memory scans = some value →
      good value)
    (remembers : ∀ {scans : Scans} {value}, scans.Sound → good value →
      (keep value scans).Sound) :
    (rememberedOr memory keep query).Gives good fair := by
  have looked : Gives (get : Query Scans) Scans.Sound fair :=
    ⟨id, fun sound given => Except.ok.inj given ▸ sound, fun _ failed => nomatch failed⟩
  apply looked.bind
  intro scans sound
  cases found : memory scans with
  | some value =>
    exact gives_pure (remembered sound found)
  | none =>
    apply scanned.bind
    intro value fits
    have kept : Gives (modify (keep value) : Query Unit) (fun _ => True) fair :=
      ⟨fun sound => remembers sound fits, fun _ _ => trivial, fun _ failed => nomatch failed⟩
    exact kept.bind fun _ _ => gives_pure fits

/-! ### Queries that come to the same -/

/-- Whether two queries come to the same wherever what is remembered is sound: they answer or fail
alike, and leave the same behind. -/
def Alike (first second : Query α) : Prop :=
  ∀ scans : Scans, scans.Sound → first.run.run scans = second.run.run scans

theorem Alike.of_eq {first second : Query α} (same : first = second) : first.Alike second :=
  fun _ _ => same ▸ rfl

theorem Alike.trans {first second third : Query α} (left : first.Alike second)
    (right : second.Alike third) : first.Alike third :=
  fun scans sound => (left scans sound).trans (right scans sound)

/-- What follows need only come to the same after values that can be given. -/
theorem Alike.bind {query' : Query α} {next next' : α → Query β} (gives : query.Gives good fair)
    (first : query.Alike query') (second : ∀ value, good value → (next value).Alike (next' value)) :
    (query >>= next).Alike (query' >>= next') := by
  intro scans sound
  have kept := gives.keeps sound
  have fits := @gives.good scans
  rw [Collecting.run_bind, Collecting.run_bind, ← first scans sound]
  cases outcome : query.run.run scans with
  | mk result later =>
    rw [outcome] at kept fits
    cases result with
    | ok value => exact second value (fits sound rfl) later kept
    | error failure => rfl

end Query

namespace Package

open Query

theorem recallClasses_gives {package : Package} {scan : Query (List ClassRep)}
    {fair : Failure → Prop} (scanned : scan.Gives package.MayShow fair) :
    (recallClasses package scan).Gives package.MayShow fair := by
  rw [recallClasses_eq]
  apply gives_rememberedOr scanned
  · intro scans reps sound found
    exact sound.classes _ (mem_of_lookup found)
  · intro scans reps sound shown
    refine ⟨?_, sound.packages⟩
    intro entry mem
    rcases List.mem_cons.1 mem with rfl | old
    · exact shown
    · exact sound.classes entry old

theorem recallPackages_gives {package : Package} {scan : Query (List Package)}
    {fair : Failure → Prop} (scanned : scan.Gives package.MayHold fair) :
    (recallPackages package scan).Gives package.MayHold fair := by
  rw [recallPackages_eq]
  apply gives_rememberedOr scanned
  · intro scans packages sound found
    exact sound.packages _ (mem_of_lookup found)
  · intro scans packages sound held
    refine ⟨sound.classes, ?_⟩
    intro entry mem
    rcases List.mem_cons.1 mem with rfl | old
    · exact held
    · exact sound.packages entry old

mutual

/-- Every package answers with classes that it may show, unless a path is refused. -/
theorem classes_gives (files : FileSystem) :
    (package : Package) → (package.classes files).Gives package.MayShow Failure.IsRefusal
  | directory built role file policy => by
    rw [classes]
    apply recallClasses_gives
    exact gives_lift (fun _ found => .directory files found) fun _ => classesIn_eq_error
  | merged built view entries policy => by
    rw [classes]
    apply recallClasses_gives
    apply (classesOfAll_gives files entries).bind
    rintro _ ⟨lists, each, rfl⟩
    exact gives_pure (.merged each)
  | listed built listing packages => by
    rw [classes]
    exact gives_pure .listed

theorem classesOfAll_gives (files : FileSystem) :
    (entries : List Package) → (classesOfAll files entries).Gives
      (fun reps => ∃ lists, List.Forall₂ MayShow entries lists ∧ reps = lists.flatten)
      Failure.IsRefusal
  | [] => by
    rw [classesOfAll]
    exact gives_pure ⟨[], .nil, rfl⟩
  | package :: rest => by
    rw [classesOfAll]
    apply (classes_gives files package).bind
    intro here shown
    apply (classesOfAll_gives files rest).bind
    rintro _ ⟨lists, each, rfl⟩
    exact gives_pure ⟨here :: lists, .cons shown each, rfl⟩

end

mutual

/-- Every package answers with packages that it may hold, unless a path is refused. -/
theorem packages_gives (files : FileSystem) :
    (package : Package) → (package.packages files).Gives package.MayHold Failure.IsRefusal
  | directory built role file policy => by
    rw [packages]
    apply recallPackages_gives
    exact gives_lift (fun _ found => .directory files found) fun _ => packagesIn_eq_error
  | merged built view entries policy => by
    rw [packages]
    apply recallPackages_gives
    apply (packagesOfAll_gives files entries).bind
    rintro _ ⟨lists, each, rfl⟩
    exact gives_pure (.merged each)
  | listed built listing inner => by
    rw [packages]
    exact gives_pure .listed

theorem packagesOfAll_gives (files : FileSystem) :
    (entries : List Package) → (packagesOfAll files entries).Gives
      (fun packages => ∃ lists, List.Forall₂ MayHold entries lists ∧ packages = lists.flatten)
      Failure.IsRefusal
  | [] => by
    rw [packagesOfAll]
    exact gives_pure ⟨[], .nil, rfl⟩
  | package :: rest => by
    rw [packagesOfAll]
    apply (packages_gives files package).bind
    intro here held
    apply (packagesOfAll_gives files rest).bind
    rintro _ ⟨lists, each, rfl⟩
    exact gives_pure ⟨here :: lists, .cons held each, rfl⟩

end

theorem descend_gives (files : FileSystem) (package : Package) (names : List String) :
    (descend files package names).Gives (fun found => ∀ node ∈ found, package.MayReach node)
      Failure.IsRefusal := by
  induction names generalizing package with
  | nil =>
    apply gives_pure
    rintro node ⟨⟩
    exact .top
  | cons first rest ih =>
    rw [descend]
    apply (packages_gives files package).bind
    intro packages held
    cases found : packages.find? (·.name = first) with
    | none => exact gives_pure (by simp)
    | some child =>
      apply (ih child).imp _ fun _ => id
      intro reached all node mem
      exact (all node mem).of_inside held (List.mem_of_find?_eq_some found)

/-- What a scan finds is what a package may hold. -/
theorem mayHold_of_scanPackages {package : Package} {packages : List Package}
    (found : package.scanPackages files = .ok packages) : package.MayHold packages := by
  have answered := (packages_answers files package _ (Scans.agree_empty files)).1
  exact (packages_gives files package).good Scans.sound_empty (answered.trans found)

end Package

end JvmClasspath
