import JvmClasspath.Proofs.Together

/-!
# Looking up classes in merged packages

A merged package answers a lookup as its entries do, each completing those before it. This holds at
every depth although a lookup follows the first package of a name and never turns back: the packages
of one name that the entries hold have become one package, and that one answers as they do.

A lookup fails in a merged package exactly if it fails in one of the entries.
-/

namespace JvmClasspath.Package

open Keyed

variable {files : FileSystem}

/-! ## Answers completed by one another -/

/-- Whether this is what the answers of several packages come to, completed from first to last. -/
def AnswerAs (files : FileSystem) (names : List String) (entries : List Package)
    (found : Option ClassRep) : Prop :=
  ∃ reps, Together (classAt files · names) entries reps ∧ joinAll ClassRep.complete reps = found

section

variable {names : List String} {found : Option ClassRep}

@[simp] theorem answerAs_nil : AnswerAs files names [] found ↔ found = none := by
  simp [AnswerAs, joinAll, eq_comm]

theorem answerAs_append {entries others : List Package} :
    AnswerAs files names (entries ++ others) found ↔
      ∃ here there, AnswerAs files names entries here ∧ AnswerAs files names others there ∧
        found = here.merge ClassRep.complete there := by
  simp only [AnswerAs, together_append]
  constructor
  · intro given
    rcases given with ⟨_, ⟨here, there, inEntries, inOthers, rfl⟩, rfl⟩
    exact ⟨_, _, ⟨here, inEntries, rfl⟩, ⟨there, inOthers, rfl⟩, joinAll_append here there⟩
  · intro given
    rcases given with ⟨_, _, ⟨here, inEntries, rfl⟩, ⟨there, inOthers, rfl⟩, rfl⟩
    exact ⟨_, ⟨here, there, inEntries, inOthers, rfl⟩, joinAll_append here there⟩

@[simp] theorem answerAs_singleton {entry : Package} :
    AnswerAs files names [entry] found ↔ entry.classAt files names = .ok found := by
  have joined : ∀ here : Option ClassRep, joinAll ClassRep.complete here.toList = here := by
    intro here
    cases here <;> rfl
  simp only [AnswerAs, together_singleton]
  constructor
  · intro given
    rcases given with ⟨_, ⟨here, answered, rfl⟩, rfl⟩
    rw [answered, joined]
  · intro answered
    exact ⟨_, ⟨found, answered, rfl⟩, joined found⟩

theorem answerAs_cons {entry : Package} {rest : List Package} :
    AnswerAs files names (entry :: rest) found ↔
      ∃ here below, entry.classAt files names = .ok here ∧ AnswerAs files names rest below ∧
        found = here.merge ClassRep.complete below := by
  rw [← List.singleton_append, answerAs_append]
  simp only [answerAs_singleton]

end

/-! ## Classes of one name -/

/-- A class that a directory shows has one file, and which of the two is a matter of the role. -/
theorem complete_of_represent {role : Role} {file other : File} {a b : ClassRep}
    (shown_a : represent role file = .ok a) (shown_b : represent role other = .ok b) :
    a.complete b = a := by
  rw [ClassRep.complete_eq_self_iff, ClassRep.isFilledBy]
  cases role with
  | binaries =>
    rcases ClassRep.ofFiles_eq_ok shown_a with ⟨binary, source⟩
    rcases ClassRep.ofFiles_eq_ok shown_b with ⟨-, source'⟩
    simp [binary, source']
  | sources =>
    rcases ClassRep.ofFiles_eq_ok shown_a with ⟨binary, source⟩
    rcases ClassRep.ofFiles_eq_ok shown_b with ⟨binary', -⟩
    simp [source, binary']

/-- Where classes do not complete each other, the first of a name is all there is. -/
theorem joinAll_eq_find? {reps : List ClassRep} (name : String)
    (full : ∀ a ∈ reps, ∀ b ∈ reps, a.complete b = a) :
    joinAll ClassRep.complete (reps.filter (·.name = name)) = reps.find? (·.name = name) := by
  have absorbed : ∀ (a : ClassRep) (others : List ClassRep), (∀ b ∈ others, a.complete b = a) →
      others.foldl ClassRep.complete a = a := by
    intro a others
    induction others with
    | nil => intro _; rfl
    | cons b rest ih =>
      intro full
      rw [List.foldl_cons, full b List.mem_cons_self]
      exact ih fun c mem => full c (List.mem_cons_of_mem b mem)
  induction reps with
  | nil => rfl
  | cons first rest ih =>
    by_cases hit : first.name = name
    · rw [List.filter_cons_of_pos (by simpa using hit), List.find?_cons_of_pos (by simpa using hit),
        joinAll, absorbed]
      intro b mem
      exact full first List.mem_cons_self b (List.mem_cons_of_mem first (List.mem_filter.1 mem).1)
    · rw [List.filter_cons_of_neg (by simpa using hit), List.find?_cons_of_neg (by simpa using hit)]
      exact ih fun a mem_a b mem_b =>
        full a (List.mem_cons_of_mem first mem_a) b (List.mem_cons_of_mem first mem_b)

/-- In what a scan finds, the first class of a name needs no completion. -/
theorem Built.joinAll_scanClasses {package : Package} (built : package.Built)
    {reps : List ClassRep} (found : package.scanClasses files = .ok reps) (name : String) :
    joinAll ClassRep.complete (reps.filter (·.name = name)) = reps.find? (·.name = name) := by
  cases built with
  | directory built role policy opened =>
    rw [scanClasses] at found
    rcases classesIn_eq_ok found with ⟨children, shown, -, -, -, represented⟩
    apply joinAll_eq_find?
    intro a mem_a b mem_b
    rcases Collecting.exists_of_mem_answers represented mem_a with ⟨file, -, shown_a⟩
    rcases Collecting.exists_of_mem_answers represented mem_b with ⟨other, -, shown_b⟩
    exact complete_of_represent shown_a shown_b
  | merged built view policy each =>
    rw [scanClasses] at found
    rcases Collecting.bind_eq_ok.1 found with ⟨all, -, found⟩
    cases found
    rw [filter_eq_toList_find? (nodup_mergeClasses all)]
    cases (mergeClasses all).find? (·.name = name) <;> rfl

/-- The classes of a name in several packages, each completed by the later ones. -/
theorem joinAll_scanClassesOfAll {entries : List Package}
    (built : ∀ entry ∈ entries, entry.Built) {name : String} {found : Option ClassRep} :
    (∃ reps, scanClassesOfAll files entries = .ok reps ∧
        joinAll ClassRep.complete (reps.filter (·.name = name)) = found) ↔
      AnswerAs files [name] entries found := by
  induction entries generalizing found with
  | nil =>
    rw [scanClassesOfAll, answerAs_nil]
    constructor
    · intro given
      rcases given with ⟨_, ⟨⟩, rfl⟩
      rfl
    · intro same
      subst same
      exact ⟨[], rfl, rfl⟩
  | cons entry rest ih =>
    have first_built := built entry List.mem_cons_self
    simp only [scanClassesOfAll, answerAs_cons, classAt, Collecting.bind_eq_ok,
      ← ih fun entry mem => built entry (List.mem_cons_of_mem _ mem)]
    constructor
    · intro given
      rcases given with ⟨_, ⟨here, scanned, others, below, ⟨⟩⟩, rfl⟩
      refine ⟨_, _, ⟨here, scanned, rfl⟩, ⟨others, below, rfl⟩, ?_⟩
      rw [List.filter_append, joinAll_append, first_built.joinAll_scanClasses scanned]
    · intro given
      rcases given with ⟨_, _, ⟨here, scanned, ⟨⟩⟩, ⟨others, below, rfl⟩, rfl⟩
      refine ⟨_, ⟨here, scanned, others, below, rfl⟩, ?_⟩
      rw [List.filter_append, joinAll_append, first_built.joinAll_scanClasses scanned]

/-! ## Packages of one name -/

/-- A lookup follows the first package of its first name. -/
theorem follows_classAt (first second : String) (rest : List String) :
    Follows files first (classAt files · (first :: second :: rest))
      (classAt files · (second :: rest)) := by
  intro package built found
  simp only [built.classAt_cons_cons, Collecting.bind_eq_ok]
  apply exists_congr
  intro packages
  apply and_congr_right
  intro _
  cases packages.find? (·.name = first) with
  | none => exact ⟨fun same => (Except.ok.inj same).symm, fun same => congrArg Except.ok same.symm⟩
  | some child => rfl

/-- Whether every merged package answers these names as its entries do. -/
def AnswersAsEntries (files : FileSystem) (names : List String) : Prop :=
  ∀ (built : Nat) (view : View) (entries : List Package) (policy : Policy),
    (∀ entry ∈ entries, entry.Built) → ∀ found,
      (merged built view entries policy).classAt files names = .ok found ↔
        AnswerAs files names entries found

/-- The parts of a package answer as the package does. -/
theorem AnswersAsEntries.parts {names : List String} (pointwise : AnswersAsEntries files names)
    {package : Package} (inner : package.Inner) (found : Option ClassRep) :
    AnswerAs files names package.parts found ↔ package.classAt files names = .ok found := by
  cases inner with
  | directory built role policy opened => exact answerAs_singleton
  | merged built policy each =>
    exact (pointwise _ _ _ _ (fun entry mem => (each entry mem).isBuilt) _).symm

/-- The package that has become of several answers as they do. -/
theorem AnswersAsEntries.joinAll {names : List String} (pointwise : AnswersAsEntries files names)
    (built : Nat) (policy : Policy) {packages : List Package}
    (inner : ∀ package ∈ packages, package.Inner) (found : Option ClassRep) :
    FoundIn (classAt files · names) (joinAll (join built policy) packages) found ↔
      AnswerAs files names packages found := by
  cases packages with
  | nil => exact answerAs_nil.symm
  | cons first rest =>
    suffices joined : (rest.foldl (join built policy) first).Inner ∧ ∀ found,
        (rest.foldl (join built policy) first).classAt files names = .ok found ↔
          AnswerAs files names (first :: rest) found from joined.2 found
    have inner_first := inner first List.mem_cons_self
    induction rest using List.reverseRecOn with
    | nil => exact ⟨inner_first, fun found => answerAs_singleton.symm⟩
    | append_singleton rest package ih =>
      have inner_package := inner package (by simp)
      obtain ⟨inner_rest, below⟩ := ih fun p mem => inner p (by
        rcases List.mem_cons.1 mem with rfl | later
        · exact List.mem_cons_self
        · simp [later])
      rw [List.foldl_append, List.foldl_cons, List.foldl_nil]
      refine ⟨inner_rest.join inner_package built policy, ?_⟩
      intro found
      have built_parts : ∀ part ∈ (rest.foldl (join built policy) first).parts ++ [package],
          part.Built := by
        intro part mem
        rcases inner_rest.parts with ⟨head, tail, parts, -, each⟩
        rcases List.mem_append.1 mem with old | new
        · exact (each part (parts ▸ old)).isBuilt
        · exact List.mem_singleton.1 new ▸ inner_package.isBuilt
      rw [Package.join, pointwise _ _ _ _ built_parts, ← List.cons_append, answerAs_append,
        answerAs_append]
      simp only [pointwise.parts inner_rest, below]

/-! ## Merged packages -/

/-- The empty path leads to no class, in any package. -/
theorem answerAs_no_names (entries : List Package) (found : Option ClassRep) :
    AnswerAs files [] entries found ↔ found = none := by
  induction entries generalizing found with
  | nil => exact answerAs_nil
  | cons entry rest ih =>
    simp only [answerAs_cons, ih, classAt]
    constructor
    · intro given
      rcases given with ⟨_, _, ⟨⟩, rfl, rfl⟩
      rfl
    · intro same
      subst same
      exact ⟨none, none, rfl, rfl, rfl⟩

/-- A merged package answers as its entries do, at every depth. -/
theorem answersAsEntries (names : List String) : AnswersAsEntries files names := by
  induction names with
  | nil =>
    intro built view entries policy _ found
    rw [answerAs_no_names, classAt]
    exact ⟨fun same => (Except.ok.inj same).symm, fun same => congrArg Except.ok same.symm⟩
  | cons first rest ih =>
    intro built view entries policy each found
    cases rest with
    | nil =>
      rw [← joinAll_scanClassesOfAll each, classAt, scanClasses]
      simp only [Collecting.bind_eq_ok]
      constructor
      · intro given
        rcases given with ⟨_, ⟨reps, scanned, ⟨⟩⟩, ⟨⟩⟩
        exact ⟨reps, scanned, (find?_mergeClasses reps first).symm⟩
      · intro given
        rcases given with ⟨reps, scanned, rfl⟩
        exact ⟨_, ⟨reps, scanned, rfl⟩, congrArg Except.ok (find?_mergeClasses reps first)⟩
    | cons second rest =>
      have whole : (merged built view entries policy).Built := .merged built view policy each
      -- Both sides follow the first name: the package there answers as those it was made of.
      have below : ∀ {all}, scanPackagesOfAll files entries = .ok all →
          (FoundIn (classAt files · (second :: rest))
              ((mergePackages built policy all).find? (·.name = first)) found ↔
            AnswerAs files (second :: rest) (all.filter (·.name = first)) found) := by
        intro all scanned
        have inner := inner_scanPackagesOfAll each scanned
        rw [find?_mergePackages built policy inner, ih.joinAll built policy]
        intro package mem
        exact inner package (List.mem_filter.1 mem).1
      rw [follows_classAt first second rest _ whole]
      simp only [scanPackages_merged, AnswerAs, (follows_classAt first second rest).together each]
      constructor
      · intro given
        rcases given with ⟨_, ⟨all, scanned, rfl⟩, followed⟩
        rcases (below scanned).1 followed with ⟨reps, asked, joined⟩
        exact ⟨reps, ⟨all, scanned, asked⟩, joined⟩
      · intro given
        rcases given with ⟨reps, ⟨all, scanned, asked⟩, joined⟩
        exact ⟨_, ⟨all, scanned, rfl⟩, (below scanned).2 ⟨reps, asked, joined⟩⟩

/-! ## The files of an answer -/

/-- What classes come to has the first file of a kind that one of them has. -/
theorem joinAll_bind {side : ClassRep → Option File}
    (side_complete : ∀ a b : ClassRep, side (a.complete b) = (side a).or (side b))
    (reps : List ClassRep) : (joinAll ClassRep.complete reps).bind side = reps.findSome? side := by
  induction reps using List.reverseRecOn with
  | nil => rfl
  | append_singleton reps rep ih =>
    rw [joinAll_concat, List.findSome?_append, ← ih]
    cases joinAll ClassRep.complete reps with
    | none => cases held : side rep <;> simp [held]
    | some a => cases held : side rep <;> simp [held, side_complete]

theorem findSome?_reduceOption {α β : Type} (pick : α → Option β) (answers : List (Option α)) :
    answers.reduceOption.findSome? pick = answers.findSome? (·.bind pick) := by
  induction answers with
  | nil => rfl
  | cons answer rest ih =>
    cases answer with
    | none => simpa using ih
    | some a =>
      rw [List.reduceOption_cons_of_some, List.findSome?_cons, List.findSome?_cons, ih]
      rfl

theorem reduceOption_eq_nil {α : Type} {answers : List (Option α)} :
    answers.reduceOption = [] ↔ ∀ answer ∈ answers, answer = none := by
  simp [List.reduceOption, List.filterMap_eq_nil_iff]

/-- A merged package answers a lookup with the first binary and the first source among the answers
of its entries, and with nothing if none of them has an answer. An answer that only one entry has is
given as it is. The lookup fails exactly if it fails in an entry. -/
theorem findClass_merged (files : FileSystem) (built : Nat) (view : View)
    {entries : List Package} (policy : Policy) (each : ∀ entry ∈ entries, entry.Built)
    (name : String) :
    ((∃ failure, ((merged built view entries policy).findClass files name).Answers files
        (.error failure)) ↔
      ∃ entry ∈ entries, ∃ failure, (entry.findClass files name).Answers files (.error failure)) ∧
    ∀ answers, List.Forall₂
        (fun entry answer => (entry.findClass files name).Answers files (.ok answer))
        entries answers →
      ∃ found, ((merged built view entries policy).findClass files name).Answers files (.ok found) ∧
        (found = none ↔ ∀ answer ∈ answers, answer = none) ∧
        (∀ rep, found = some rep →
          rep.binary = answers.findSome? (·.bind ClassRep.binary) ∧
          rep.source = answers.findSome? (·.bind ClassRep.source)) ∧
        (∀ rep, answers.reduceOption = [rep] → found = some rep) := by
  simp only [findClass_answers_iff]
  refine ⟨fails_iff_of_together (answersAsEntries _ built view entries policy each), ?_⟩
  intro answers asked
  refine ⟨joinAll ClassRep.complete answers.reduceOption, ?_, ?_, ?_, ?_⟩
  · rw [answersAsEntries _ built view entries policy each]
    exact ⟨_, ⟨answers, asked, rfl⟩, rfl⟩
  · rw [← reduceOption_eq_nil]
    cases answers.reduceOption <;> simp [joinAll]
  · intro rep found
    rw [← findSome?_reduceOption, ← findSome?_reduceOption,
      ← joinAll_bind ClassRep.binary_complete, ← joinAll_bind ClassRep.source_complete, found]
    exact ⟨rfl, rfl⟩
  · intro rep single
    rw [single, joinAll, List.foldl_nil]

/-- A class with its sources before its compiled file, in three directories and at one depth. -/
def scattered : FileSystem := FileSystem.ofEntries
  [(["s"], .directory), (["s", "p"], .directory), (["s", "p", "X.java"], .file (.bytes [])),
    (["c"], .directory), (["c", "p"], .directory), (["c", "p", "X.class"], .file (.bytes [1])),
    (["d"], .directory), (["d", "p"], .directory), (["d", "p", "X.class"], .file (.bytes [2]))]

/-- The directories of a scattered class, the compiled ones merged before. -/
def scatteredEntries : List Package :=
  [.directory 0 .sources (.plain ⟨.root, ["s"]⟩) .showAll,
    .merged 3 .part
      [.directory 1 .binaries (.plain ⟨.root, ["c"]⟩) .showAll,
        .directory 2 .binaries (.plain ⟨.root, ["d"]⟩) .showAll] .showAll]

theorem built_scatteredEntries : ∀ entry ∈ scatteredEntries, entry.Built := by
  intro entry mem
  simp only [scatteredEntries, List.mem_cons, List.not_mem_nil, or_false] at mem
  rcases mem with rfl | rfl
  · exact .directory _ _ _ (.plain _)
  · apply Built.merged
    intro entry mem
    simp only [List.mem_cons, List.not_mem_nil, or_false] at mem
    rcases mem with rfl | rfl
    · exact .directory _ _ _ (.plain _)
    · exact .directory _ _ _ (.plain _)

theorem findClass_merged_scattered :
    ∃ rep, ((merged 4 .part scatteredEntries .showAll).findClass scattered "p.X").Answers scattered
        (.ok (some rep)) ∧
      rep.binary = some (.plain ⟨.root, ["c", "p", "X.class"]⟩) ∧
      rep.source = some (.plain ⟨.root, ["s", "p", "X.java"]⟩) := by
  obtain ⟨found, answered, silent, completed, -⟩ :=
    (findClass_merged scattered 4 .part .showAll built_scatteredEntries "p.X").2
      [some ⟨none, some (.plain ⟨.root, ["s", "p", "X.java"]⟩), "X", by decide +kernel⟩,
        some ⟨some (.plain ⟨.root, ["c", "p", "X.class"]⟩), none, "X", by decide +kernel⟩]
      (.cons (findClass_answers_iff.2 (by decide +kernel))
        (.cons (findClass_answers_iff.2 (by decide +kernel)) .nil))
  cases found with
  | none => simp at silent
  | some rep => exact ⟨rep, answered, completed rep rfl⟩

end JvmClasspath.Package
