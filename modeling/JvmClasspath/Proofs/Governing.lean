import JvmClasspath.Proofs.Moments
import JvmClasspath.Proofs.Outcomes

/-!
# One policy for all

The policy that a class path is assembled with is the policy of every package in it, however deep,
and whenever the package is reached. So what it asks of names holds throughout: no package is named
as one that is left out, and no class has a file that is not named after it or that the policy does
not show, not even where it was completed by files of other entries.
-/

namespace JvmClasspath

/-! ## Classes -/

/-- What a policy asks of a class: that there is a file, that a compiled one is named after the
class and shown by the policy, and that a source file is named after the class. -/
structure ClassRep.Follows (policy : Policy) (rep : ClassRep) : Prop where
  present : rep.binary ≠ none ∨ rep.source ≠ none
  binary : ∀ file, rep.binary = some file → file.name = rep.name ++ ".class" ∧
    (policy = .hideTraitImplementations → Text.endsWith "$class.class" file.name = false)
  source : ∀ file, rep.source = some file →
    file.name = rep.name ++ ".scala" ∨ file.name = rep.name ++ ".java"

namespace ClassRep

variable {policy : Policy}

/-- A class goes on following a policy when it takes files of another such class of its name. -/
theorem Follows.complete {a b : ClassRep} (follows_a : a.Follows policy)
    (follows_b : b.Follows policy) (same : a.name = b.name) : (a.complete b).Follows policy := by
  have named := name_complete same
  refine ⟨?_, ?_, ?_⟩
  · rcases follows_a.present with binary | source
    · exact .inl fun none => binary (Option.or_eq_none_iff.1 none).1
    · exact .inr fun none => source (Option.or_eq_none_iff.1 none).1
  · intro file given
    rw [named]
    rcases Option.or_eq_some_iff.1 given with here | ⟨-, there⟩
    · exact follows_a.binary file here
    · rw [same]
      exact follows_b.binary file there
  · intro file given
    rw [named]
    rcases Option.or_eq_some_iff.1 given with here | ⟨-, there⟩
    · exact follows_a.source file here
    · rw [same]
      exact follows_b.source file there

/-- The class that a file is shown as follows the policy under which it is shown. -/
theorem follows_of_represent {role : Role} {file : File} {rep : ClassRep}
    (shown : Package.shows role policy file.name = true)
    (represented : Package.represent role file = .ok rep) : rep.Follows policy := by
  cases role with
  | binaries =>
    rcases ofFiles_eq_ok represented with ⟨binary, source⟩
    refine ⟨by simp [binary], ?_, by simp [source]⟩
    intro other given
    cases binary.symm.trans given
    refine ⟨Package.name_of_represent_binaries represented, ?_⟩
    rintro rfl
    have admitted := (Bool.and_eq_true_iff.1 shown).2
    simpa [Policy.admits, Naming.isTraitImplementation, Naming.traitImplementationEnding]
      using admitted
  | sources =>
    rcases ofFiles_eq_ok represented with ⟨binary, source⟩
    refine ⟨by simp [source], by simp [binary], ?_⟩
    intro other given
    cases source.symm.trans given
    rcases (Package.source_of_represent_sources represented).2 with ⟨ending, known, named⟩
    simp only [Naming.sourceEndings, List.mem_cons, List.not_mem_nil, or_false] at known
    rcases known with rfl | rfl
    · exact .inl named
    · exact .inr named

end ClassRep

/-! ## The whole class path -/

namespace Moment

/-- The packages that one leads to: itself, and all that these answer when they are asked for their
packages, at whatever moments of whatever runs. -/
inductive Leads (top : Package) : Package → Prop where
  | top : Leads top top
  | inside {outer inner : Package} {moment : Moment} {packages : List Package}
      (leads : Leads top outer) (possible : moment.Possible)
      (held : moment.answer outer .packages = .ok (.packages packages)) (mem : inner ∈ packages) :
      Leads top inner

theorem Leads.mayReach {top node : Package} (leads : Leads top node) : top.MayReach node := by
  induction leads with
  | top => exact .top
  | inside leads possible held mem ih => exact ih.inside (possible.mayAnswer held) mem

/-- The policy with which a class path is assembled governs all that it leads to: every package in
it has this policy, holds packages with names of their own only, and shows only classes that follow
the policy. -/
theorem policy_governs {setup : Assembly.Setup} {components : Components} {session : Session}
    {top node : Package}
    (returned : ((Assembly.assemble setup components).run.run session).1 = .ok top)
    (leads : Leads top node) :
    node.policy = setup.policy ∧
    ∀ moment : Moment, moment.Possible →
      (∀ packages, moment.answer node .packages = .ok (.packages packages) →
        ∀ inner ∈ packages, inner.name ≠ "" ∧ inner.name ≠ "META-INF" ∧
          Text.startsWith "." inner.name = false) ∧
      ∀ reps, moment.answer node .classes = .ok (.classes reps) →
        ∀ rep ∈ reps, rep.Follows setup.policy := by
  have built := (Assembly.built_of_assemble returned).mayReach leads.mayReach
  have anything : File.Inherited fun _ => True := fun _ _ _ _ => trivial
  have governed : node.Over (fun _ => True) (· = setup.policy) :=
    (Assembly.over_of_assemble ⟨anything, fun _ => trivial, fun _ _ => trivial⟩
      (fun _ _ _ _ => trivial) returned).mayReach anything leads.mayReach
  refine ⟨governed.policy, ?_⟩
  intro moment possible
  constructor
  · intro packages held inner mem
    exact Naming.isPackage_iff.1 ((built.mayHold (possible.mayAnswer held)).1 inner mem).2
  · intro reps shown
    apply governed.mayShow anything _ ClassRep.Follows.complete (possible.mayAnswer shown)
    rintro role _ file rep - rfl named represented
    exact ClassRep.follows_of_represent named represented

/-- A compiled class and one that implements a trait, the records of an archive, and what lies in a
hidden directory. -/
def traitMembers : List Member :=
  [⟨"META-INF/MANIFEST.MF", []⟩, ⟨".git/config", []⟩, ⟨"p/T.class", []⟩, ⟨"p/T$class.class", []⟩]

/-- The archive of these. -/
def traits : Archive :=
  ⟨0, .path ⟨.root, ["c.jar"]⟩, "c.jar", "/c.jar", Archive.index traitMembers⟩

/-- This archive and the source of the class. -/
def sourced : Assembly.Setup where
  world :=
    ⟨FileSystem.ofEntries
      [(["c.jar"], .file (.archive traitMembers)), (["s"], .directory), (["s", "p"], .directory),
        (["s", "p", "T.scala"], .file (.bytes []))], ⟨[]⟩⟩
  base := some ⟨.root, []⟩
  policy := .hideTraitImplementations

/-- The class path over the two. -/
def sourcedPath : Package :=
  .merged 3 (.wholeClassPath [])
    [.directory 1 .binaries (.archive traits) .hideTraitImplementations,
      .directory 2 .sources (.plain ⟨.root, ["s"]⟩) .hideTraitImplementations]
    .hideTraitImplementations

/-- The one package in it. -/
def sourcedInside : Package :=
  .merged 3 .part
    [.directory 1 .binaries (.folder traits "p/"
        [("T$class.class", .file "p/T$class.class"), ("T.class", .file "p/T.class")])
        .hideTraitImplementations,
      .directory 2 .sources (.plain ⟨.root, ["s", "p"]⟩) .hideTraitImplementations]
    .hideTraitImplementations

/-- There the class is shown with its source, and nothing else is shown. -/
theorem policy_governs_sourced :
    ∃ rep : ClassRep,
      ((Assembly.assemble sourced ⟨"c.jar", "", "", "s", ""⟩).run.run .start).1 = .ok sourcedPath ∧
      Leads sourcedPath sourcedInside ∧
      answer ⟨sourced.world.files, .start, .empty⟩ sourcedInside .classes = .ok (.classes [rep]) ∧
      rep.binary.isSome ∧ rep.source.isSome ∧ rep.Follows .hideTraitImplementations := by
  have returned : ((Assembly.assemble sourced ⟨"c.jar", "", "", "s", ""⟩).run.run .start).1 =
      .ok sourcedPath := by decide +kernel
  have possible := possible_start sourced.world.files .start
  have held : answer ⟨sourced.world.files, .start, .empty⟩ sourcedPath .packages =
      .ok (.packages [sourcedInside]) := by decide +kernel
  have shown : answer ⟨sourced.world.files, .start, .empty⟩ sourcedInside .classes =
      .ok (.classes [⟨some (.entry traits "p/T.class"),
        some (.plain ⟨.root, ["s", "p", "T.scala"]⟩), "T", rfl⟩]) := by decide +kernel
  have leads : Leads sourcedPath sourcedInside := .inside .top possible held List.mem_cons_self
  exact ⟨_, returned, leads, shown, rfl, rfl,
    ((policy_governs returned leads).2 _ possible).2 _ shown _ List.mem_cons_self⟩

end Moment

end JvmClasspath
