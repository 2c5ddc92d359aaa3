import JvmClasspath.Proofs.Merging

/-!
# Mirrored files

Two files mirror each other if they are of one kind, have the same bytes, and have children of the
same names in the same order that mirror each other again. Where they lie makes no difference to the
packages over them: these show the same classes and packages, with the same bytes, at every depth,
and find the same classes.
-/

namespace JvmClasspath

/-! ## Files -/

namespace File

/-- Whether two files can be read and have the same bytes. -/
def SameBytes (files : FileSystem) (f g : File) : Prop :=
  ∃ bytes, f.read files = .ok bytes ∧ g.read files = .ok bytes

/-- Whether two files are both directories or have the same bytes, and have children of the same
names in the same order, where children of one place are related by `below`. -/
structure Mirrors (files : FileSystem) (below : File → File → Prop) (f g : File) : Prop where
  kind : ∃ answer, f.isDirectory files = .ok answer ∧ g.isDirectory files = .ok answer
  bytes : f.isDirectory files = .ok false → SameBytes files f g
  children : ∃ fs gs, f.children files = .ok fs ∧ g.children files = .ok gs ∧
    List.Forall₂ (fun a b => a.name = b.name ∧ below a b) fs gs

/-- Whether related files mirror each other as far down as they go. -/
def Mirroring (files : FileSystem) (related : File → File → Prop) : Prop :=
  ∀ {f g}, related f g → Mirrors files related f g

end File

/-! ## Classes -/

namespace ClassRep

/-- Whether two classes have one name and files of the same bytes. -/
structure Mirrors (files : FileSystem) (a b : ClassRep) : Prop where
  name : a.name = b.name
  binary : Option.Rel (File.SameBytes files) a.binary b.binary
  source : Option.Rel (File.SameBytes files) a.source b.source

end ClassRep

namespace Package

variable {files : FileSystem} {related : File → File → Prop}

/-- Files of one name that are shown are shown as classes of one name. -/
theorem represent_mirrors {role : Role} {policy : Policy} {f g : File} (named : f.name = g.name)
    (bytes : f.SameBytes files g) (shown : shows role policy f.name = true) :
    ∃ a b, represent role f = .ok a ∧ represent role g = .ok b ∧ a.Mirrors files b := by
  rcases represent_of_shows shown with ⟨simple, classed⟩
  rcases classed f rfl with ⟨a, represented_f, name_a⟩
  rcases classed g named.symm with ⟨b, represented_g, name_b⟩
  refine ⟨a, b, represented_f, represented_g, ?_⟩
  have same := name_a.trans name_b.symm
  cases role with
  | binaries =>
    rcases ClassRep.ofFiles_eq_ok represented_f with ⟨binary, source⟩
    rcases ClassRep.ofFiles_eq_ok represented_g with ⟨binary', source'⟩
    exact ⟨same, by simpa [binary, binary'] using bytes, by simp [source, source']⟩
  | sources =>
    rcases ClassRep.ofFiles_eq_ok represented_f with ⟨binary, source⟩
    rcases ClassRep.ofFiles_eq_ok represented_g with ⟨binary', source'⟩
    exact ⟨same, by simp [binary, binary'], by simpa [source, source'] using bytes⟩

/-- What is kept of mirrored children by kind and name mirrors each other. -/
theorem filterM_mirrors (mirroring : File.Mirroring files related) (keep : Bool → String → Bool)
    {fs gs : List File} (children : List.Forall₂ (fun a b => a.name = b.name ∧ related a b) fs gs) :
    ∃ kept kept',
      (fs.filterM fun child => return keep (← child.isDirectory files) child.name) = .ok kept ∧
      (gs.filterM fun child => return keep (← child.isDirectory files) child.name) = .ok kept' ∧
      List.Forall₂ (fun a b => (a.name = b.name ∧ related a b) ∧
        ∃ answer, a.isDirectory files = .ok answer ∧ keep answer a.name = true) kept kept' := by
  obtain ⟨kept, kept', filtered, filtered', each⟩ := Collecting.filterM_related
    (fun {a b} (here : a.name = b.name ∧ related a b) => by
      rcases (mirroring here.2).kind with ⟨answer, kind_a, kind_b⟩
      refine ⟨keep answer a.name, ?_, ?_⟩
      · exact Collecting.bind_eq_ok.2 ⟨answer, kind_a, rfl⟩
      · rw [here.1]
        exact Collecting.bind_eq_ok.2 ⟨answer, kind_b, rfl⟩)
    children
  refine ⟨kept, kept', filtered, filtered', each.imp ?_⟩
  intro a b given
  rcases given with ⟨here, holds⟩
  rcases Collecting.bind_eq_ok.1 holds with ⟨answer, kind, passed⟩
  exact ⟨here, answer, kind, Except.ok.inj passed⟩

/-- Directories that mirror each other hold classes that do, one by one. -/
theorem classesIn_mirrors (mirroring : File.Mirroring files related) {f g : File}
    (here : related f g) (role : Role) (policy : Policy) :
    ∃ reps reps', classesIn files role f policy = .ok reps ∧
      classesIn files role g policy = .ok reps' ∧
      List.Forall₂ (ClassRep.Mirrors files) reps reps' := by
  rcases (mirroring here).children with ⟨fs, gs, listed_f, listed_g, children⟩
  have kept := filterM_mirrors mirroring
    (fun directory name => !directory && shows role policy name) children
  rcases kept with ⟨shown, shown', filtered, filtered', each⟩
  obtain ⟨reps, reps', made, made', mirrored⟩ :
      ∃ reps reps', shown.mapM (represent role) = .ok reps ∧
        shown'.mapM (represent role) = .ok reps' ∧
        List.Forall₂ (ClassRep.Mirrors files) reps reps' := by
    apply Collecting.mapM_related _ each
    intro a b given
    rcases given with ⟨⟨named, below⟩, answer, kind, kept⟩
    simp only [Bool.and_eq_true, Bool.not_eq_true'] at kept
    exact represent_mirrors named ((mirroring below).bytes (kept.1 ▸ kind)) kept.2
  refine ⟨reps, reps', ?_, ?_, mirrored⟩
  · rw [classesIn]
    exact Collecting.bind_eq_ok.2 ⟨_, listed_f, Collecting.bind_eq_ok.2 ⟨_, filtered, made⟩⟩
  · rw [classesIn]
    exact Collecting.bind_eq_ok.2 ⟨_, listed_g, Collecting.bind_eq_ok.2 ⟨_, filtered', made'⟩⟩

/-- Directories that mirror each other hold packages over such directories, one by one. -/
theorem packagesIn_mirrors (mirroring : File.Mirroring files related) {f g : File}
    (here : related f g) (built built' : Nat) (role : Role) (policy : Policy) :
    ∃ fs gs,
      packagesIn files built role f policy =
        .ok (fs.map fun child => directory built role child policy) ∧
      packagesIn files built' role g policy =
        .ok (gs.map fun child => directory built' role child policy) ∧
      List.Forall₂ (fun a b => a.name = b.name ∧ related a b) fs gs := by
  rcases (mirroring here).children with ⟨fs, gs, listed_f, listed_g, children⟩
  have kept := filterM_mirrors mirroring
    (fun directory name => directory && Naming.isPackage name) children
  rcases kept with ⟨shown, shown', filtered, filtered', each⟩
  refine ⟨shown, shown', ?_, ?_, each.imp fun a b kept => kept.1⟩
  · rw [packagesIn]
    exact Collecting.bind_eq_ok.2 ⟨_, listed_f, Collecting.bind_eq_ok.2 ⟨_, filtered, rfl⟩⟩
  · rw [packagesIn]
    exact Collecting.bind_eq_ok.2 ⟨_, listed_g, Collecting.bind_eq_ok.2 ⟨_, filtered', rfl⟩⟩

/-! ## Packages -/

/-- Whether two packages can be scanned and show classes that mirror each other, and packages of the
same names in the same order, where packages of one place are related by `below`. -/
structure ShowMirrored (files : FileSystem) (below : Package → Package → Prop) (p q : Package) :
    Prop where
  classes : ∃ reps reps', (p.classes files).Answers files (.ok reps) ∧
    (q.classes files).Answers files (.ok reps') ∧
    List.Forall₂ (ClassRep.Mirrors files) reps reps'
  packages : ∃ ps qs, (p.packages files).Answers files (.ok ps) ∧
    (q.packages files).Answers files (.ok qs) ∧
    List.Forall₂ (fun a b => a.name = b.name ∧ below a b) ps qs

/-- Whether two packages show what mirrors each other down to this depth. -/
def MirroredTo (files : FileSystem) : Nat → Package → Package → Prop
  | 0 => fun _ _ => True
  | depth + 1 => ShowMirrored files (MirroredTo files depth)

/-- Whether two packages hold the same but for where it lies: explored to any depth they show what
mirrors each other, and a lookup finds in both a class with the same bytes or none. -/
structure Mirrored (files : FileSystem) (p q : Package) : Prop where
  explored : ∀ depth, MirroredTo files depth p q
  findClass : ∀ name, ∃ found found', (p.findClass files name).Answers files (.ok found) ∧
    (q.findClass files name).Answers files (.ok found') ∧
    Option.Rel (ClassRep.Mirrors files) found found'

theorem Mirrored.scanClasses {p q : Package} (mirrored : Mirrored files p q) :
    ∃ reps reps', p.scanClasses files = .ok reps ∧ q.scanClasses files = .ok reps' ∧
      List.Forall₂ (ClassRep.Mirrors files) reps reps' := by
  rcases (mirrored.explored 1).classes with ⟨reps, reps', answered, answered', each⟩
  exact ⟨reps, reps', (classes_answers files p).unique answered,
    (classes_answers files q).unique answered', each⟩

theorem mirroredTo_of_mirroring (mirroring : File.Mirroring files related) {f g : File}
    (here : related f g) (built built' : Nat) (role : Role) (policy : Policy) (depth : Nat) :
    MirroredTo files depth (directory built role f policy) (directory built' role g policy) := by
  induction depth generalizing f g with
  | zero => trivial
  | succ depth ih =>
    constructor
    · rcases classesIn_mirrors mirroring here role policy with
        ⟨reps, reps', found, found', mirrored⟩
      have answers := classes_answers files (directory built role f policy)
      have answers' := classes_answers files (directory built' role g policy)
      rw [scanClasses, found] at answers
      rw [scanClasses, found'] at answers'
      exact ⟨reps, reps', answers, answers', mirrored⟩
    · rcases packagesIn_mirrors mirroring here built built' role policy with
        ⟨fs, gs, found, found', each⟩
      have answers := packages_answers files (directory built role f policy)
      have answers' := packages_answers files (directory built' role g policy)
      rw [scanPackages, found] at answers
      rw [scanPackages, found'] at answers'
      refine ⟨_, _, answers, answers', ?_⟩
      rw [List.forall₂_map_left_iff, List.forall₂_map_right_iff]
      exact each.imp fun a b here => ⟨here.1, ih here.2⟩

/-- Names lead to classes that mirror each other, or to none. -/
theorem classAt_mirrors (mirroring : File.Mirroring files related) {f g : File}
    (here : related f g) (built built' : Nat) (role : Role) (policy : Policy)
    (names : List String) :
    ∃ found found', (directory built role f policy).classAt files names = .ok found ∧
      (directory built' role g policy).classAt files names = .ok found' ∧
      Option.Rel (ClassRep.Mirrors files) found found' := by
  induction names generalizing f g with
  | nil => exact ⟨none, none, rfl, rfl, .none⟩
  | cons first rest ih =>
    cases rest with
    | nil =>
      rcases classesIn_mirrors mirroring here role policy with ⟨reps, reps', found, found', each⟩
      have one : Option.Rel (ClassRep.Mirrors files) (reps.find? (·.name = first))
          (reps'.find? (·.name = first)) :=
        Collecting.find?_related (fun mirrored => by rw [mirrored.name]) each
      refine ⟨_, _, ?_, ?_, one⟩
      · exact Collecting.bind_eq_ok.2 ⟨reps, found, rfl⟩
      · exact Collecting.bind_eq_ok.2 ⟨reps', found', rfl⟩
    | cons second rest =>
      rcases packagesIn_mirrors mirroring here built built' role policy with
        ⟨fs, gs, found, found', each⟩
      have named : Option.Rel (fun a b : File => a.name = b.name ∧ related a b)
          (fs.find? (·.name = first)) (gs.find? (·.name = first)) :=
        Collecting.find?_related (fun same => by rw [same.1]) each
      have inside : ∀ (built : Nat) (fs : List File),
          (fs.map fun child => directory built role child policy).find? (·.name = first) =
            (fs.find? (·.name = first)).map fun child => directory built role child policy := by
        intro built fs
        rw [List.find?_map]
        rfl
      rw [classAt, classAt, scanPackages, found, scanPackages, found']
      simp only [Collecting.bind_eq_ok, Except.ok.injEq, exists_eq_left', inside]
      generalize fs.find? (·.name = first) = child at named ⊢
      generalize gs.find? (·.name = first) = child' at named ⊢
      cases named with
      | none => exact ⟨none, none, rfl, rfl, .none⟩
      | some same => exact ih same.2

/-- Packages over files that mirror each other hold the same. -/
theorem mirrored_of_mirroring (mirroring : File.Mirroring files related) {f g : File}
    (here : related f g) (built built' : Nat) (role : Role) (policy : Policy) :
    Mirrored files (directory built role f policy) (directory built' role g policy) := by
  refine ⟨mirroredTo_of_mirroring mirroring here built built' role policy, ?_⟩
  intro name
  rcases classAt_mirrors mirroring here built built' role policy (Text.split '.' name) with
    ⟨found, found', answered, answered', one⟩
  exact ⟨found, found', findClass_answers_iff.2 answered, findClass_answers_iff.2 answered', one⟩

end Package

end JvmClasspath
