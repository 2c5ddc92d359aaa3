import JvmClasspath.ClassRep

/-!
# Classes as objects

On a class path a class counts by its files alone. In memory it is more: an object that holds
handles on its files, several of which may be on one file, and that was made under a policy, which
names it. Here `=` says of two objects or two handles that they are one, and `==` that they are
equal, which is less: handles on one path of the file system are equal, and objects are if their
handles are, whatever their policies and names.

Completing an object goes by `=`. With nothing to fill in it gives the object itself; else it makes
a new one under the same policy, and this fails where no name is to be had. The main result is that
it never fails, that the new object stands for the completed class, and that equal objects and
either grouping of three lead to equal objects.
-/

namespace JvmClasspath

/-- The class that a compiled file of this name is taken for. Both policies read it off the name in
the same way; they differ in what they show. -/
def Policy.classOfBinary : Policy → String → Except Failure String
  | .showAll => Naming.classOfBinary
  | .hideTraitImplementations => Naming.classOfBinary

namespace ClassRep

/-! ## Handles -/

/-- A file as it is held by an object. Several handles on one file differ in their numbers. -/
structure Handle where
  number : Nat
  file : File
deriving DecidableEq

/-- Handles on one path of the file system are equal. Any other handle is equal to itself only. -/
def Handle.equals (a b : Handle) : Bool :=
  match a.file, b.file with
  | .plain path, .plain other => path = other
  | _, _ => a = b

instance : BEq Handle := ⟨Handle.equals⟩

theorem beq_handle_iff {a b : Handle} :
    a == b ↔ (∃ path, a.file = .plain path ∧ b.file = .plain path) ∨ a = b := by
  change a.equals b = true ↔ _
  rw [Handle.equals]
  split
  · next path other here there =>
    rw [decide_eq_true_iff]
    constructor
    · rintro rfl
      exact .inl ⟨path, here, there⟩
    · rintro (⟨shared, here', there'⟩ | rfl)
      · cases here.symm.trans here'
        cases there.symm.trans there'
        rfl
      · cases here.symm.trans there
        rfl
  · next apart =>
    rw [decide_eq_true_iff, or_iff_right]
    rintro ⟨path, here, there⟩
    exact apart path path here there

instance : ReflBEq Handle where
  rfl := beq_handle_iff.2 (.inr rfl)

theorem file_eq_of_beq {a b : Handle} (same : a == b) : a.file = b.file := by
  rcases beq_handle_iff.1 same with ⟨path, here, there⟩ | rfl
  · rw [here, there]
  · rfl

/-- The file that a handle is on, if there is one. -/
def fileOf (handle : Option Handle) : Option File := handle.map (·.file)

theorem fileOf_or (x y : Option Handle) : fileOf (x.or y) = (fileOf x).or (fileOf y) :=
  Option.map_or

theorem fileOf_eq_of_beq {x y : Option Handle} (same : x == y) : fileOf x = fileOf y := by
  cases x with
  | none =>
    cases y with
    | none => rfl
    | some b => cases same
  | some a =>
    cases y with
    | none => cases same
    | some b => exact congrArg some (file_eq_of_beq same)

theorem or_beq_or {x y x' y' : Option Handle} (left : x == x') (right : y == y') :
    x.or y == x'.or y' := by
  cases x with
  | none =>
    cases x' with
    | none => exact right
    | some a => cases left
  | some a =>
    cases x' with
    | none => cases left
    | some b => exact left

/-! ## Objects -/

/-- The simple name of a class with these handles under a policy. -/
def nameUnder (policy : Policy) (binary source : Option Handle) : Except Failure String :=
  match binary, source with
  | some handle, _ => policy.classOfBinary handle.file.name
  | none, some handle => Naming.classOfSource handle.file.name
  | none, none => .error .noReference

theorem nameUnder_eq (policy : Policy) (binary source : Option Handle) :
    nameUnder policy binary source = nameOf (fileOf binary) (fileOf source) := by
  cases binary with
  | some handle => cases policy <;> rfl
  | none => cases source <;> rfl

structure Object where
  number : Nat
  binary : Option Handle
  source : Option Handle
  policy : Policy
  name : String
  named : nameUnder policy binary source = .ok name

namespace Object

instance : BEq Object where
  beq a b := a.binary == b.binary && a.source == b.source

/-- The class that an object stands for. -/
def rep (object : Object) : ClassRep where
  binary := fileOf object.binary
  source := fileOf object.source
  name := object.name
  named := by rw [← nameUnder_eq, object.named]

/-- A new object with these handles, which is given the number and its name. -/
def make (number : Nat) (binary source : Option Handle) (policy : Policy) :
    Except Failure Object :=
  match named : nameUnder policy binary source with
  | .ok name => .ok ⟨number, binary, source, policy, name, named⟩
  | .error failure => .error failure

/-- The object itself if the other one has no handle that it lacks, else a new one. -/
def complete (number : Nat) (a b : Object) : Except Failure Object :=
  let binary := a.binary.or b.binary
  let source := a.source.or b.source
  if binary = a.binary ∧ source = a.source then .ok a else make number binary source a.policy

variable {a b a' b' done done' : Object}

theorem beq_iff : a == b ↔ a.binary == b.binary ∧ a.source == b.source :=
  Bool.and_eq_true_iff

/-- Equal objects stand for one class, so they have one name. -/
theorem rep_eq_of_beq (same : a == b) : a.rep = b.rep :=
  ClassRep.ext (fileOf_eq_of_beq (beq_iff.1 same).1) (fileOf_eq_of_beq (beq_iff.1 same).2)

theorem name_eq_of_beq (same : a == b) : a.name = b.name :=
  congrArg ClassRep.name (rep_eq_of_beq same)

theorem make_of_named {number : Nat} {binary source : Option Handle} {policy : Policy}
    {name : String} (named : nameUnder policy binary source = .ok name) :
    make number binary source policy = .ok ⟨number, binary, source, policy, name, named⟩ := by
  rw [make]
  split
  · next found =>
    cases named.symm.trans found
    rfl
  · next failed => cases named.symm.trans failed

/-- Every class is stood for by an object, under either policy. -/
theorem exists_rep_eq (rep : ClassRep) (policy : Policy) :
    ∃ object : Object, object.rep = rep ∧ object.policy = policy := by
  have handled : ∀ file : Option File, fileOf (file.map (Handle.mk 0)) = file := by
    intro file
    cases file <;> rfl
  have named := nameUnder_eq policy (rep.binary.map (Handle.mk 0)) (rep.source.map (Handle.mk 0))
  rw [handled, handled, rep.named] at named
  exact ⟨⟨0, _, _, policy, rep.name, named⟩, ClassRep.ext (handled _) (handled _), rfl⟩

/-! ## Completing -/

/-- What has become of an object that was completed by another: its handles stay, those of the other
are taken in where it has none, and it stands for the completed class. It is another object only if
there was something to take in. -/
structure Completes (a b done : Object) : Prop where
  binary : done.binary = a.binary.or b.binary
  source : done.source = a.source.or b.source
  policy : done.policy = a.policy
  itself : done = a ↔ a.rep.isFilledBy b.rep = false
  rep : done.rep = a.rep.complete b.rep
  name : done.name = if a.binary.isNone ∧ b.binary.isSome then b.name else a.name

/-- Nothing is filled in exactly if the handles are the same ones as before. -/
theorem isFilledBy_rep_eq_false_iff :
    a.rep.isFilledBy b.rep = false ↔ a.binary.or b.binary = a.binary ∧
      a.source.or b.source = a.source := by
  rw [or_eq_left_iff, or_eq_left_iff, ← Bool.or_eq_false_iff]
  simp [isFilledBy, rep, fileOf]

/-- An object with the handles of two is the first one completed by the second. -/
theorem completes_of_handles (binary : done.binary = a.binary.or b.binary)
    (source : done.source = a.source.or b.source) (policy : done.policy = a.policy)
    (itself : a.rep.isFilledBy b.rep = false → done = a) : Completes a b done := by
  have stands : done.rep = a.rep.complete b.rep := by
    apply ClassRep.ext
    · exact (congrArg fileOf binary).trans (fileOf_or ..)
    · exact (congrArg fileOf source).trans (fileOf_or ..)
  refine ⟨binary, source, policy, ⟨?_, itself⟩, stands, ?_⟩
  · rintro rfl
    exact isFilledBy_rep_eq_false_iff.2 ⟨binary.symm, source.symm⟩
  · have named := congrArg ClassRep.name stands
    simpa [ClassRep.complete, rep, fileOf] using named

/-- Completing never fails. -/
theorem exists_complete (number : Nat) (a b : Object) :
    ∃ done, a.complete number b = .ok done ∧ Completes a b done := by
  rw [complete]
  split
  · next same =>
    exact ⟨a, rfl, completes_of_handles same.1.symm same.2.symm rfl fun _ => rfl⟩
  · next differ =>
    have named := nameUnder_eq a.policy (a.binary.or b.binary) (a.source.or b.source)
    rw [fileOf_or, fileOf_or] at named
    have had := named.trans (nameOf_orElse a.rep b.rep)
    refine ⟨_, make_of_named had, completes_of_handles rfl rfl rfl ?_⟩
    exact fun nothing => absurd (isFilledBy_rep_eq_false_iff.1 nothing) differ

/-! ### Three objects, and objects that are equal -/

/-- Objects that are equal are completed by equal ones to equal ones. -/
theorem Completes.beq (completes : Completes a b done) (completes' : Completes a' b' done')
    (first : a == a') (second : b == b') : done == done' := by
  rw [beq_iff, completes.binary, completes.source, completes'.binary, completes'.source]
  exact ⟨or_beq_or (beq_iff.1 first).1 (beq_iff.1 second).1,
    or_beq_or (beq_iff.1 first).2 (beq_iff.1 second).2⟩

/-- Grouped either way, completing comes to the same handles. -/
theorem Completes.assoc {c ab bc left right : Object} (first : Completes a b ab)
    (second : Completes b c bc) (grouped_left : Completes ab c left)
    (grouped_right : Completes a bc right) : left == right := by
  have binary : left.binary = right.binary := by
    rw [grouped_left.binary, first.binary, grouped_right.binary, second.binary, Option.or_assoc]
  have source : left.source = right.source := by
    rw [grouped_left.source, first.source, grouped_right.source, second.source, Option.or_assoc]
  rw [beq_iff, binary, source]
  exact ⟨BEq.rfl, BEq.rfl⟩

/-- Whatever the objects and whatever number a new one gets, completing never fails and keeps to the
left. Three objects come to equal ones of one name in either grouping, and equal objects are
completed by equal ones to equal ones. -/
theorem completes_and_associates (a b c : Object) (i j k l : Nat) :
    ∃ ab bc left right,
      (a.complete i b = .ok ab ∧ b.complete j c = .ok bc ∧
        ab.complete k c = .ok left ∧ a.complete l bc = .ok right) ∧
      Completes a b ab ∧ left == right ∧ left.name = right.name ∧
      ∀ a' b' : Object, a == a' → b == b' → ∀ number,
        ∃ ab', a'.complete number b' = .ok ab' ∧ ab == ab' ∧ ab.name = ab'.name := by
  obtain ⟨ab, done_ab, first⟩ := exists_complete i a b
  obtain ⟨bc, done_bc, second⟩ := exists_complete j b c
  obtain ⟨left, done_left, grouped_left⟩ := exists_complete k ab c
  obtain ⟨right, done_right, grouped_right⟩ := exists_complete l a bc
  have grouped := first.assoc second grouped_left grouped_right
  refine ⟨ab, bc, left, right, ⟨done_ab, done_bc, done_left, done_right⟩, first, grouped,
    name_eq_of_beq grouped, ?_⟩
  intro a' b' same_a same_b number
  obtain ⟨ab', done, completes⟩ := exists_complete number a' b'
  have same := first.beq completes same_a same_b
  exact ⟨ab', done, same, name_eq_of_beq same⟩

/-- A handle on a source file, which is the same file for all numbers. -/
def draft (number : Nat) : Handle := ⟨number, .plain ⟨.root, ["s", "X.java"]⟩⟩

/-- The handle on the one member of an archive. -/
def packed : Handle :=
  ⟨2, .entry ⟨0, .path ⟨.root, ["y.jar"]⟩, "y.jar", "/y.jar", [("Y.class", .file "Y.class")]⟩
    "Y.class"⟩

/-- A class of which there is a source file only. -/
def written (number : Nat) (policy : Policy) : Object where
  number := number
  binary := none
  source := some (draft number)
  policy := policy
  name := "X"
  named := (rfl : Naming.classOfSource "X.java" = .ok "X")

/-- A class that has a compiled file too, and is named after it. -/
def compiled (number : Nat) (policy : Policy) : Object where
  number := number
  binary := some packed
  source := some (draft number)
  policy := policy
  name := "Y"
  named := by cases policy <;> rfl

/-- The first class takes the compiled file of the second in, and its name. So does an equal one,
which is another object under another policy. -/
theorem completes_and_associates_packed :
    written 0 .showAll ≠ written 1 .hideTraitImplementations ∧
      written 0 .showAll == written 1 .hideTraitImplementations ∧
      compiled 2 .hideTraitImplementations == compiled 3 .showAll ∧
      ∃ done done',
        (written 0 .showAll).complete 4 (compiled 2 .hideTraitImplementations) = .ok done ∧
        (written 1 .hideTraitImplementations).complete 5 (compiled 3 .showAll) = .ok done' ∧
        done == done' ∧ done.source = some (draft 0) ∧ done'.name = "Y" := by
  have first : written 0 .showAll == written 1 .hideTraitImplementations := by decide
  have second : compiled 2 .hideTraitImplementations == compiled 3 .showAll := by decide +kernel
  obtain ⟨done, _, _, _, ⟨given, -⟩, completes, -, -, alike⟩ :=
    completes_and_associates (written 0 .showAll) (compiled 2 .hideTraitImplementations)
      (compiled 3 .showAll) 4 6 7 8
  obtain ⟨done', given', same, named⟩ := alike _ _ first second 5
  refine ⟨?_, first, second, done, done', given, given', same, completes.source, ?_⟩
  · exact fun one => nomatch congrArg Object.number one
  · exact named.symm.trans completes.name

end Object

end ClassRep

end JvmClasspath
