import Mathlib.Data.List.Forall2

/-!
# Collecting answers that may fail

A list of questions that may each fail has a list of answers exactly if none fails.
-/

namespace JvmClasspath.Collecting

variable {ε α β γ : Type}

theorem bind_eq_ok {answer : Except ε α} {next : α → Except ε β} {value : β} :
    (answer >>= next) = .ok value ↔ ∃ first, answer = .ok first ∧ next first = .ok value := by
  cases answer with
  | error failure => exact ⟨nofun, nofun⟩
  | ok first =>
    constructor
    · intro same
      exact ⟨first, rfl, same⟩
    · intro given
      rcases given with ⟨_, ⟨⟩, same⟩
      exact same

theorem bind_eq_error {answer : Except ε α} {next : α → Except ε β} {failure : ε} :
    (answer >>= next) = .error failure ↔
      answer = .error failure ∨ ∃ first, answer = .ok first ∧ next first = .error failure := by
  cases answer with
  | error other => simp [bind, Except.bind]
  | ok first => simp [bind, Except.bind]

/-- What follows need only be the same after a value that is there. -/
theorem bind_congr_of_ok {answer : Except ε α} {next next' : α → Except ε β}
    (same : ∀ value, answer = .ok value → next value = next' value) :
    (answer >>= next) = (answer >>= next') := by
  cases answer with
  | error failure => rfl
  | ok value => exact same value rfl

/-- With a state, what follows runs with what the first part has left behind, unless that part
fails. -/
theorem run_bind {σ : Type} (first : ExceptT ε (StateM σ) α) (next : α → ExceptT ε (StateM σ) β)
    (state : σ) :
    (first >>= next).run.run state =
      match first.run.run state with
      | (.ok value, later) => (next value).run.run later
      | (.error failure, later) => (.error failure, later) := by
  simp only [ExceptT.run_bind, StateT.run_bind]
  cases outcome : first.run.run state with
  | mk result later =>
    cases result with
    | ok value => rfl
    | error failure => rfl

/-- What is done to an answer in the end leaves failures as they are. -/
theorem run_map {σ : Type} (first : ExceptT ε (StateM σ) α) (f : α → β) (state : σ) :
    ((do return f (← first) : ExceptT ε (StateM σ) β).run.run state).1 =
      (first.run.run state).1.map f := by
  rw [run_bind]
  rcases first.run.run state with ⟨_ | value, later⟩
  · rfl
  · rfl

/-- Two answers are the same through `f` if they fail alike, or their values are the same through
it. -/
theorem map_eq_map_iff {answer answer' : Except ε α} {f : α → β} :
    answer.map f = answer'.map f ↔
      (∃ failure, answer = .error failure ∧ answer' = .error failure) ∨
        ∃ value value', answer = .ok value ∧ answer' = .ok value' ∧ f value = f value' := by
  cases answer with
  | error failure =>
    cases answer' with
    | error failure' => simp [Except.map, eq_comm]
    | ok value' => simp [Except.map]
  | ok value =>
    cases answer' with
    | error failure' => simp [Except.map]
    | ok value' => simp [Except.map]

theorem map_bind (answer : Except ε α) (next : α → Except ε β) (f : β → γ) :
    (answer >>= next).map f = answer >>= fun value => (next value).map f := by
  cases answer <;> rfl

theorem bind_map (answer : Except ε α) (f : α → β) (next : β → Except ε γ) :
    answer.map f >>= next = answer >>= fun value => next (f value) := by
  cases answer <;> rfl

theorem map_pure (value : α) (f : α → β) : (pure value : Except ε α).map f = pure (f value) := rfl

theorem map_eq_ok {answer : Except ε α} {f : α → β} {value : β} :
    answer.map f = .ok value ↔ ∃ first, answer = .ok first ∧ f first = value := by
  cases answer <;> simp [Except.map]

theorem exists_map_eq_ok {answer : Except ε α} {f : α → β} :
    (∃ value, answer.map f = .ok value) ↔ ∃ value, answer = .ok value := by
  cases answer <;> simp [Except.map]

theorem exists_bind_pure_eq_ok {answer : Except ε α} {f : α → β} :
    (∃ value, (do return f (← answer) : Except ε β) = .ok value) ↔
      ∃ value, answer = .ok value := by
  rw [← exists_map_eq_ok (f := f)]
  cases answer <;> rfl

theorem filterM_cons (keep : α → Except ε Bool) (a : α) (rest : List α) :
    (a :: rest).filterM keep = do
      let here ← keep a
      let below ← rest.filterM keep
      return if here then a :: below else below := by
  have accumulated : ∀ (rest acc : List α),
      rest.filterAuxM keep acc = (rest.filterAuxM keep []).map (· ++ acc) := by
    intro rest
    induction rest with
    | nil => intro acc; rfl
    | cons a rest ih =>
      intro acc
      rw [List.filterAuxM, List.filterAuxM]
      cases keep a with
      | error failure => rfl
      | ok here =>
        cases here with
        | false => exact ih acc
        | true =>
          change rest.filterAuxM keep (a :: acc) = (rest.filterAuxM keep [a]).map (· ++ acc)
          rw [ih (a :: acc), ih [a]]
          cases rest.filterAuxM keep [] with
          | error failure => rfl
          | ok kept => simp [Except.map]
  rw [List.filterM, List.filterAuxM]
  cases keep a with
  | error failure => rfl
  | ok here =>
    change (rest.filterAuxM keep (cond here [a] []) >>= fun kept => pure kept.reverse) =
      (rest.filterM keep >>= fun below => pure (if here then a :: below else below))
    rw [accumulated, List.filterM]
    cases rest.filterAuxM keep [] with
    | error failure => rfl
    | ok kept => cases here <;> simp [Except.map, bind, Except.bind, pure, Except.pure]

theorem filterM_congr {keep keep' : α → Except ε Bool} {asked : List α}
    (same : ∀ a ∈ asked, keep a = keep' a) : asked.filterM keep = asked.filterM keep' := by
  induction asked with
  | nil => rfl
  | cons a rest ih =>
    rw [filterM_cons, filterM_cons, same a List.mem_cons_self,
      ih fun b mem => same b (List.mem_cons_of_mem a mem)]

/-- A filter goes through if every question has an answer, and then keeps what these say. -/
theorem filterM_eq_ok {keep : α → Except ε Bool} {asked kept : List α} :
    asked.filterM keep = .ok kept ↔
      ∃ answer : α → Bool, (∀ a ∈ asked, keep a = .ok (answer a)) ∧ kept = asked.filter answer := by
  have decided : asked.filterM keep = .ok kept ↔
      (∀ a ∈ asked, ∃ b, keep a = .ok b) ∧
        kept = asked.filter fun a => (keep a).toOption.getD false := by
    induction asked generalizing kept with
    | nil =>
      constructor
      · intro same
        cases same
        simp
      · intro given
        rcases given with ⟨-, rfl⟩
        rfl
    | cons a rest ih =>
      rw [filterM_cons, bind_eq_ok]
      simp only [bind_eq_ok, ih, List.forall_mem_cons]
      constructor
      · intro given
        rcases given with ⟨here, answered, below, ⟨all, rfl⟩, ⟨⟩⟩
        refine ⟨⟨⟨here, answered⟩, all⟩, ?_⟩
        cases here <;> simp [answered, Except.toOption]
      · intro given
        rcases given with ⟨⟨⟨here, answered⟩, all⟩, rfl⟩
        refine ⟨here, answered, _, ⟨all, rfl⟩, ?_⟩
        cases here <;> simp [answered, Except.toOption, pure, Except.pure]
  rw [decided]
  constructor
  · intro given
    rcases given with ⟨all, rfl⟩
    refine ⟨_, ?_, rfl⟩
    intro a mem
    rcases all a mem with ⟨b, answered⟩
    simp [answered, Except.toOption]
  · intro given
    rcases given with ⟨answer, all, rfl⟩
    refine ⟨fun a mem => ⟨answer a, all a mem⟩, List.filter_congr ?_⟩
    intro a mem
    simp [all a mem, Except.toOption]

theorem sublist_of_filterM {keep : α → Except ε Bool} {asked kept : List α}
    (filtered : asked.filterM keep = .ok kept) : kept.Sublist asked := by
  rcases filterM_eq_ok.1 filtered with ⟨answer, -, rfl⟩
  exact List.filter_sublist

/-- A filter keeps what has passed, and nothing else. -/
theorem mem_iff_of_filterM {keep : α → Except ε Bool} {asked kept : List α}
    (filtered : asked.filterM keep = .ok kept) {a : α} :
    a ∈ kept ↔ a ∈ asked ∧ keep a = .ok true := by
  rcases filterM_eq_ok.1 filtered with ⟨answer, answered, rfl⟩
  rw [List.mem_filter]
  apply and_congr_right
  intro mem
  simp [answered a mem]

theorem passed_of_filterM {keep : α → Except ε Bool} {asked kept : List α}
    (filtered : asked.filterM keep = .ok kept) : ∀ a ∈ kept, keep a = .ok true :=
  fun _ mem => ((mem_iff_of_filterM filtered).1 mem).2

/-- A filter that asks a little more keeps less, and fails alike. -/
theorem filterM_map_and {keep keep' : α → Except ε Bool} {test : α → Bool}
    (more : ∀ a, keep' a = (keep a).map (· && test a)) (asked : List α) :
    asked.filterM keep' = (asked.filterM keep).map (List.filter test) := by
  induction asked with
  | nil => rfl
  | cons a rest ih =>
    rw [filterM_cons, filterM_cons, more, ih]
    cases keep a with
    | error failure => rfl
    | ok here =>
      cases rest.filterM keep with
      | error failure => rfl
      | ok below =>
        cases here with
        | false => rfl
        | true =>
          cases passes : test a <;> simp [Except.map, bind, Except.bind, pure, Except.pure, passes]

/-- A filter goes through exactly if every question has an answer. -/
theorem exists_filterM_iff {keep : α → Except ε Bool} {asked : List α} :
    (∃ kept, asked.filterM keep = .ok kept) ↔ ∀ a ∈ asked, ∃ answer, keep a = .ok answer := by
  simp only [filterM_eq_ok]
  constructor
  · rintro ⟨_, answer, all, -⟩ a mem
    exact ⟨answer a, all a mem⟩
  · intro all
    refine ⟨_, fun a => (keep a).toOption.getD false, ?_, rfl⟩
    intro a mem
    rcases all a mem with ⟨answer, answered⟩
    simp [answered, Except.toOption]

theorem mapM_eq_ok {ask : α → Except ε β} {asked : List α} {answers : List β} :
    asked.mapM ask = .ok answers ↔ List.Forall₂ (fun a b => ask a = .ok b) asked answers := by
  induction asked generalizing answers with
  | nil =>
    rw [List.mapM_nil, List.forall₂_nil_left_iff]
    exact ⟨fun same => (Except.ok.inj same).symm, fun same => same ▸ rfl⟩
  | cons a rest ih =>
    rw [List.mapM_cons, bind_eq_ok]
    simp only [bind_eq_ok, ih]
    constructor
    · intro given
      rcases given with ⟨b, here, others, below, ⟨⟩⟩
      exact .cons here below
    · intro each
      rcases List.forall₂_cons_left_iff.1 each with ⟨b, others, here, below, rfl⟩
      exact ⟨b, here, others, below, rfl⟩

/-- A filter fails because one of the questions does. -/
theorem exists_of_filterM_eq_error {keep : α → Except ε Bool} {asked : List α} {failure : ε}
    (failed : asked.filterM keep = .error failure) : ∃ a ∈ asked, keep a = .error failure := by
  induction asked with
  | nil => cases failed
  | cons a rest ih =>
    rw [filterM_cons, bind_eq_error] at failed
    rcases failed with here | ⟨answer, -, failed⟩
    · exact ⟨a, List.mem_cons_self, here⟩
    · rcases bind_eq_error.1 failed with below | ⟨kept, -, impossible⟩
      · rcases ih below with ⟨b, mem, failed⟩
        exact ⟨b, List.mem_cons_of_mem a mem, failed⟩
      · cases impossible

/-- Questions asked one after the other fail because one of them does. -/
theorem exists_of_mapM_eq_error {ask : α → Except ε β} {asked : List α} {failure : ε}
    (failed : asked.mapM ask = .error failure) : ∃ a ∈ asked, ask a = .error failure := by
  induction asked with
  | nil => cases failed
  | cons a rest ih =>
    rw [List.mapM_cons, bind_eq_error] at failed
    rcases failed with here | ⟨answer, -, failed⟩
    · exact ⟨a, List.mem_cons_self, here⟩
    · rcases bind_eq_error.1 failed with below | ⟨answers, -, impossible⟩
      · rcases ih below with ⟨b, mem, failed⟩
        exact ⟨b, List.mem_cons_of_mem a mem, failed⟩
      · cases impossible

theorem filterMapM_cons (ask : α → Except ε (Option β)) (a : α) (rest : List α) :
    (a :: rest).filterMapM ask = do
      let here ← ask a
      let below ← rest.filterMapM ask
      return here.toList ++ below := by
  rw [List.filterMapM_cons]
  apply bind_congr
  intro here
  cases here with
  | none =>
    cases rest.filterMapM ask <;> rfl
  | some b => rfl

/-- Questions that need not yield anything are answered together exactly if each of them is. -/
theorem exists_filterMapM_iff {ask : α → Except ε (Option β)} {asked : List α} :
    (∃ found, asked.filterMapM ask = .ok found) ↔ ∀ a ∈ asked, ∃ answer, ask a = .ok answer := by
  induction asked with
  | nil => simp [pure, Except.pure]
  | cons a rest ih =>
    rw [List.forall_mem_cons, ← ih]
    simp only [filterMapM_cons, bind_eq_ok]
    constructor
    · rintro ⟨_, here, answered, below, found, -⟩
      exact ⟨⟨here, answered⟩, below, found⟩
    · rintro ⟨⟨here, answered⟩, below, found⟩
      exact ⟨_, here, answered, below, found, rfl⟩

/-- What they yield together is what each of them yields. -/
theorem filterMapM_of_answers {ask : α → Except ε (Option β)} {asked : List α}
    {answer : α → Option β} (each : ∀ a ∈ asked, ask a = .ok (answer a)) :
    asked.filterMapM ask = .ok (asked.filterMap answer) := by
  induction asked with
  | nil => rfl
  | cons a rest ih =>
    rw [List.forall_mem_cons] at each
    rw [filterMapM_cons, each.1, ih each.2, List.filterMap_cons]
    cases answer a <;> rfl

theorem exists_of_filterMapM_eq_error {ask : α → Except ε (Option β)} {asked : List α}
    {failure : ε} (failed : asked.filterMapM ask = .error failure) :
    ∃ a ∈ asked, ask a = .error failure := by
  induction asked with
  | nil => cases failed
  | cons a rest ih =>
    rw [filterMapM_cons, bind_eq_error] at failed
    rcases failed with here | ⟨answer, -, failed⟩
    · exact ⟨a, List.mem_cons_self, here⟩
    · rcases bind_eq_error.1 failed with below | ⟨found, -, impossible⟩
      · rcases ih below with ⟨b, mem, failed⟩
        exact ⟨b, List.mem_cons_of_mem a mem, failed⟩
      · cases impossible

/-- Of questions with their answers, one has the answer that it was given, if it was asked. -/
theorem lookup_answers [DecidableEq α] (answer : α → Option β) (asked : List α) (a : α) :
    (asked.filterMap fun b => (answer b).map fun given => (b, given)).lookup a =
      if a ∈ asked then answer a else none := by
  induction asked with
  | nil => rfl
  | cons b rest ih =>
    rw [List.filterMap_cons]
    by_cases same : a = b
    · subst same
      cases given : answer a with
      | none => simp [ih, given]
      | some given => simp
    · have differs : (a == b) = false := beq_eq_false_iff_ne.2 same
      cases answer b with
      | none => simp [ih, same]
      | some given => simp [List.lookup_cons, ih, differs, same]

/-! ## Gathering lists -/

/-- The lists that are the answers, one after the other. -/
def gather (ask : α → Except ε (List β)) (asked : List α) : Except ε (List β) :=
  (asked.mapM ask).map List.flatten

@[simp] theorem gather_nil (ask : α → Except ε (List β)) : gather ask [] = .ok [] := rfl

theorem gather_cons (ask : α → Except ε (List β)) (a : α) (rest : List α) :
    gather ask (a :: rest) = do
      let here ← ask a
      let below ← gather ask rest
      return here ++ below := by
  rw [gather, gather, List.mapM_cons]
  cases ask a with
  | error failure => rfl
  | ok here => cases rest.mapM ask <;> rfl

theorem gather_append (ask : α → Except ε (List β)) (asked others : List α) :
    gather ask (asked ++ others) = do
      let here ← gather ask asked
      let there ← gather ask others
      return here ++ there := by
  induction asked with
  | nil =>
    rw [List.nil_append, gather_nil]
    cases gather ask others <;> rfl
  | cons a rest ih =>
    rw [List.cons_append, gather_cons, ih, gather_cons]
    cases ask a with
    | error failure => rfl
    | ok here =>
      cases gather ask rest with
      | error failure => rfl
      | ok below =>
        cases gather ask others with
        | error failure => rfl
        | ok there => exact congrArg Except.ok (List.append_assoc ..).symm

theorem gather_eq_ok {ask : α → Except ε (List β)} {asked : List α} {gathered : List β} :
    gather ask asked = .ok gathered ↔
      ∃ each, List.Forall₂ (fun a here => ask a = .ok here) asked each ∧
        gathered = each.flatten := by
  simp only [gather, ← mapM_eq_ok]
  cases asked.mapM ask with
  | error failure => exact ⟨nofun, nofun⟩
  | ok each =>
    constructor
    · intro same
      cases same
      exact ⟨each, rfl, rfl⟩
    · intro given
      rcases given with ⟨_, ⟨⟩, rfl⟩
      rfl

/-- Lists can be gathered, and have a property throughout, exactly if there is each of them and has
this property throughout. -/
theorem exists_gather_iff {P : β → Prop} {ask : α → Except ε (List β)} {asked : List α} :
    (∃ gathered, gather ask asked = .ok gathered ∧ ∀ b ∈ gathered, P b) ↔
      ∀ a ∈ asked, ∃ here, ask a = .ok here ∧ ∀ b ∈ here, P b := by
  induction asked with
  | nil => simp
  | cons a rest ih =>
    rw [List.forall_mem_cons, ← ih]
    simp only [gather_cons, bind_eq_ok]
    constructor
    · rintro ⟨_, ⟨here, answered, below, gathered, ⟨⟩⟩, all⟩
      rw [List.forall_mem_append] at all
      exact ⟨⟨here, answered, all.1⟩, below, gathered, all.2⟩
    · rintro ⟨⟨here, answered, first⟩, below, gathered, others⟩
      exact ⟨_, ⟨here, answered, below, gathered, rfl⟩, List.forall_mem_append.2 ⟨first, others⟩⟩

/-! ## Related questions -/

/-- A filter keeps related elements if it asks the same of them. -/
theorem filterM_related {related : α → β → Prop} {keep : α → Except ε Bool}
    {keep' : β → Except ε Bool}
    (same : ∀ {a b}, related a b → ∃ answer, keep a = .ok answer ∧ keep' b = .ok answer)
    {asked : List α} {asked' : List β} (each : List.Forall₂ related asked asked') :
    ∃ kept kept', asked.filterM keep = .ok kept ∧ asked'.filterM keep' = .ok kept' ∧
      List.Forall₂ (fun a b => related a b ∧ keep a = .ok true) kept kept' := by
  induction each with
  | nil => exact ⟨[], [], rfl, rfl, .nil⟩
  | cons here below ih =>
    rcases same here with ⟨answer, answered, answered'⟩
    rcases ih with ⟨kept, kept', filtered, filtered', each⟩
    rw [filterM_cons, filterM_cons, answered, answered', filtered, filtered']
    cases answer with
    | false => exact ⟨kept, kept', rfl, rfl, each⟩
    | true => exact ⟨_, _, rfl, rfl, .cons ⟨here, answered⟩ each⟩

theorem mapM_related {δ : Type} {related : α → β → Prop} {result : γ → δ → Prop}
    {ask : α → Except ε γ} {ask' : β → Except ε δ}
    (same : ∀ {a b}, related a b → ∃ c d, ask a = .ok c ∧ ask' b = .ok d ∧ result c d)
    {asked : List α} {asked' : List β} (each : List.Forall₂ related asked asked') :
    ∃ answers answers', asked.mapM ask = .ok answers ∧ asked'.mapM ask' = .ok answers' ∧
      List.Forall₂ result answers answers' := by
  simp only [mapM_eq_ok]
  induction each with
  | nil => exact ⟨[], [], .nil, .nil, .nil⟩
  | cons here below ih =>
    rcases same here with ⟨c, d, answered, answered', one⟩
    rcases ih with ⟨answers, answers', all, all', each⟩
    exact ⟨c :: answers, d :: answers', .cons answered all, .cons answered' all', .cons one each⟩

/-- Of related elements a search finds related ones, if it looks at what is the same in them. -/
theorem find?_related {related : α → β → Prop} {test : α → Bool} {test' : β → Bool}
    (same : ∀ {a b}, related a b → test a = test' b) {xs : List α} {ys : List β}
    (each : List.Forall₂ related xs ys) :
    Option.Rel related (xs.find? test) (ys.find? test') := by
  induction each with
  | nil => exact .none
  | cons here below ih =>
    rw [List.find?_cons, List.find?_cons, same here]
    split
    · exact .some here
    · exact ih

/-! ## What answers say of questions -/

/-- Each answer was given to a question. -/
theorem exists_of_mem_answers {R : α → β → Prop} {asked : List α} {answers : List β}
    (each : List.Forall₂ R asked answers) {b : β} (mem : b ∈ answers) : ∃ a ∈ asked, R a b := by
  induction each with
  | nil => simp at mem
  | cons here below ih =>
    rcases List.mem_cons.1 mem with rfl | later
    · exact ⟨_, List.mem_cons_self, here⟩
    · rcases ih later with ⟨a, inRest, related⟩
      exact ⟨a, List.mem_cons_of_mem _ inRest, related⟩

/-- What stands in lists that are answers was answered to one of the questions. -/
theorem exists_of_mem_flatten {R : α → List β → Prop} {asked : List α} {lists : List (List β)}
    (each : List.Forall₂ R asked lists) {b : β} (mem : b ∈ lists.flatten) :
    ∃ a ∈ asked, ∃ list, R a list ∧ b ∈ list := by
  rcases List.mem_flatten.1 mem with ⟨list, inLists, mem⟩
  rcases exists_of_mem_answers each inLists with ⟨a, inAsked, answered⟩
  exact ⟨a, inAsked, list, answered, mem⟩

/-- The answers to questions in two lists are those to the first list and those to the second. -/
theorem exists_append_of_answers {R : α → β → Prop} {asked others : List α} {answers : List β}
    (each : List.Forall₂ R (asked ++ others) answers) :
    ∃ here there, List.Forall₂ R asked here ∧ List.Forall₂ R others there ∧
      answers = here ++ there := by
  induction asked generalizing answers with
  | nil => exact ⟨[], answers, .nil, each, rfl⟩
  | cons a rest ih =>
    obtain ⟨b, below, first, later, rfl⟩ := List.forall₂_cons_left_iff.1 each
    obtain ⟨here, there, left, right, rfl⟩ := ih later
    exact ⟨b :: here, there, .cons first left, right, rfl⟩

/-- The answers to questions in several lists are those to each of the lists. -/
theorem exists_flatten_of_answers {R : α → β → Prop} {lists : List (List α)} {answers : List β}
    (each : List.Forall₂ R lists.flatten answers) :
    ∃ parts, List.Forall₂ (List.Forall₂ R) lists parts ∧ answers = parts.flatten := by
  induction lists generalizing answers with
  | nil => exact ⟨[], .nil, List.forall₂_nil_left_iff.1 each⟩
  | cons list rest ih =>
    obtain ⟨here, there, first, later, rfl⟩ := exists_append_of_answers each
    obtain ⟨parts, others, rfl⟩ := ih later
    exact ⟨here :: parts, .cons first others, rfl⟩

/-- What is asked in two steps is asked in one. -/
theorem answers_in_steps {R : α → β → Prop} {S : β → γ → Prop} {asked : List α} {between : List β}
    {answers : List γ} (first : List.Forall₂ R asked between)
    (second : List.Forall₂ S between answers) :
    List.Forall₂ (fun a c => ∃ b, R a b ∧ S b c) asked answers := by
  induction first generalizing answers with
  | nil =>
    cases second
    exact .nil
  | cons here below ih =>
    obtain ⟨c, others, answered, later, rfl⟩ := List.forall₂_cons_left_iff.1 second
    exact .cons ⟨_, here, answered⟩ (ih later)

/-- Related questions have related answers, if this holds of each question. -/
theorem related_answers {δ : Type} {R : α → β → Prop} {S : γ → δ → Prop} {T : α → γ → Prop}
    {U : β → δ → Prop} (related : ∀ {a b c d}, T a c → R a b → S c d → U b d) {asked : List α}
    {answers : List β} {asked' : List γ} {answers' : List δ} (same : List.Forall₂ T asked asked')
    (each : List.Forall₂ R asked answers) (each' : List.Forall₂ S asked' answers') :
    List.Forall₂ U answers answers' := by
  induction same generalizing answers answers' with
  | nil =>
    cases each
    cases each'
    exact .nil
  | cons here below ih =>
    cases each with
    | cons first others =>
      cases each' with
      | cons first' others' => exact .cons (related here first first') (ih others others')

/-- Where the answers to one question are related, so are those to all. -/
theorem repeated_answers {R : α → β → Prop} {S : α → γ → Prop} {U : β → γ → Prop}
    (alike : ∀ {a b c}, R a b → S a c → U b c) {asked : List α} {answers : List β}
    {answers' : List γ} (each : List.Forall₂ R asked answers)
    (each' : List.Forall₂ S asked answers') : List.Forall₂ U answers answers' := by
  have asked_same : List.Forall₂ Eq asked asked := List.forall₂_same.2 fun _ _ => rfl
  apply related_answers _ asked_same each each'
  rintro a b _ c rfl here here'
  exact alike here here'

/-- What tells questions apart tells their answers apart. -/
theorem pairwise_answers {R : α → β → Prop} {S : α → α → Prop} {T : β → β → Prop}
    (apart : ∀ {a a' b b'}, R a b → R a' b' → S a a' → T b b') {asked : List α} {answers : List β}
    (each : List.Forall₂ R asked answers) (different : asked.Pairwise S) : answers.Pairwise T := by
  induction each with
  | nil => exact .nil
  | cons here below ih =>
    rcases List.pairwise_cons.1 different with ⟨first, others⟩
    refine List.pairwise_cons.2 ⟨?_, ih others⟩
    intro b mem
    rcases exists_of_mem_answers below mem with ⟨a, inRest, answered⟩
    exact apart here answered (first a inRest)

/-- An answer that is no failure is a value. -/
theorem forall_ne_error {answer : Except ε α} :
    (∀ failure, answer ≠ .error failure) ↔ ∃ value, answer = .ok value := by
  cases answer with
  | error failure => exact ⟨fun fine => absurd rfl (fine failure), nofun⟩
  | ok value => exact ⟨fun _ => ⟨value, rfl⟩, fun _ => nofun⟩

/-- What is gathered has a property if it has it in every answer. -/
theorem forall_of_gather {P : β → Prop} {ask : α → Except ε (List β)} {asked : List α}
    (each : ∀ a ∈ asked, ∀ here, ask a = .ok here → ∀ b ∈ here, P b) {gathered : List β}
    (all : gather ask asked = .ok gathered) : ∀ b ∈ gathered, P b := by
  rcases gather_eq_ok.1 all with ⟨parts, answers, rfl⟩
  intro b mem
  rcases exists_of_mem_flatten answers mem with ⟨a, inAsked, here, answered, mem⟩
  exact each a inAsked here answered b mem

/-- There are answers to all questions exactly if none fails. -/
theorem exists_answers_iff {ask : α → Except ε β} {asked : List α} :
    (∃ answers, List.Forall₂ (fun a b => ask a = .ok b) asked answers) ↔
      ∀ a ∈ asked, ∃ b, ask a = .ok b := by
  induction asked with
  | nil => exact ⟨fun _ => by simp, fun _ => ⟨[], .nil⟩⟩
  | cons a rest ih =>
    rw [List.forall_mem_cons, ← ih]
    constructor
    · intro given
      rcases given with ⟨_, here | ⟨here, below⟩⟩
      exact ⟨⟨_, here⟩, ⟨_, below⟩⟩
    · intro given
      rcases given with ⟨⟨b, here⟩, ⟨answers, below⟩⟩
      exact ⟨b :: answers, .cons here below⟩

end JvmClasspath.Collecting
