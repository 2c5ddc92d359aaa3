import JvmClasspath.Proofs.Moments

/-!
# Lookup by name and by listing

A dotted name leads to a class in two ways: the package before the last dot can be found and its
classes gone through, or the class is looked up by the whole name at once. Both come to the same at
every moment: they find the same class, fail alike and remember the same. In turn, what was reached
by going through lists, one package after the other, is found by name ever after.

A name with an empty name before its last dot leads to no class. But the packages in front of the
empty name are followed all the same, and the last of them is asked for its packages, which may be
refused.
-/

namespace JvmClasspath

namespace Package

open Query

/-- The first class of a simple name that the package at a path lists, if there is one. -/
def firstListed (files : FileSystem) (package : Package) (path simple : String) :
    Query (Option ClassRep) := do
  match ← package.findPackage files path with
  | none => return none
  | some holder => return (← holder.classes files).find? (·.name = simple)

/-- No class, once the package at a path has been found and asked for its packages. -/
def nothingBelow (files : FileSystem) (package : Package) (path : String) :
    Query (Option ClassRep) := do
  match ← package.findPackage files path with
  | none => return none
  | some holder =>
    let _ ← holder.packages files
    return none

variable {files : FileSystem}

/-! ## Following names -/

/-- Names are followed in two parts. Below a built package, nothing stands in the way of the second
part. -/
theorem Built.findAlong_append {package : Package} (built : package.Built) (front : List String)
    {back : List String} (named : back ≠ []) :
    (findAlong files package (front ++ back)).Alike (do
      match ← descend files package front with
      | none => return none
      | some holder => findAlong files holder back) := by
  induction front generalizing package with
  | nil =>
    rw [descend, pure_bind]
    exact .of_eq rfl
  | cons first rest ih =>
    rw [List.cons_append, findAlong_cons _ _ _ (List.append_ne_nil_of_right_ne_nil rest named),
      descend, bind_assoc]
    apply Alike.bind (packages_gives files package) (.of_eq rfl)
    intro packages held
    cases found : packages.find? (·.name = first) with
    | none =>
      rw [pure_bind]
      exact .of_eq rfl
    | some child =>
      have inner := ((built.mayHold held).1 child (List.mem_of_find?_eq_some found)).1
      simp only [inner.strayAnswer?_eq_none]
      exact ih inner.isBuilt

theorem descend_append (files : FileSystem) (package : Package) (front back : List String) :
    descend files package (front ++ back) = (do
      match ← descend files package front with
      | none => return none
      | some holder => descend files holder back) := by
  induction front generalizing package with
  | nil =>
    rw [descend, pure_bind]
    rfl
  | cons first rest ih =>
    rw [List.cons_append, descend, descend, bind_assoc]
    apply bind_congr
    intro packages
    cases packages.find? (·.name = first) with
    | none => rw [pure_bind]
    | some child => exact ih child

/-- A path is followed name by name. -/
theorem findPackage_join (files : FileSystem) (package : Package) {names : List String}
    (simple : ∀ name ∈ names, name ≠ "" ∧ '.' ∉ name.toList) :
    package.findPackage files (Text.join '.' names) = descend files package names := by
  rw [findPackage]
  by_cases nothing : names = []
  · subst nothing
    rfl
  · rw [Text.split_join nothing fun name mem => (simple name mem).2, List.filter_eq_self.2]
    intro name mem
    exact decide_eq_true (simple name mem).1

/-! ## Names without and with empty names -/

/-- The names before a class are those of packages if none is empty. -/
theorem simple_of_split {name : String} {front back : List String}
    (cut : Text.split '.' name = front ++ back) (full : "" ∉ front) :
    ∀ name ∈ front, name ≠ "" ∧ '.' ∉ name.toList := by
  intro part mem
  refine ⟨?_, ?_⟩
  · rintro rfl
    exact full mem
  · have piece : part ∈ Text.split '.' name := cut ▸ List.mem_append_left back mem
    exact Text.separator_notMem_of_mem_split piece

theorem Built.findClass_alike {package : Package} (built : package.Built) {name : String}
    {names : List String} {simple : String} (cut : Text.split '.' name = names ++ [simple])
    (full : "" ∉ names) :
    (package.findClass files name).Alike
      (package.firstListed files (Text.join '.' names) simple) := by
  rw [findClass, cut, firstListed, findPackage_join files package (simple_of_split cut full)]
  exact built.findAlong_append names (List.cons_ne_nil simple [])

/-- No package that a built one holds has the empty name. -/
theorem Built.findAlong_empty {package : Package} (built : package.Built) {rest : List String}
    (named : rest ≠ []) :
    (findAlong files package ("" :: rest)).Alike (do
      let _ ← package.packages files
      return none) := by
  rw [findAlong_cons _ _ _ named]
  apply Alike.bind (packages_gives files package) (.of_eq rfl)
  intro packages held
  have absent : packages.find? (·.name = "") = none := by
    rw [List.find?_eq_none]
    intro inner mem same
    exact (Naming.isPackage_iff.1 ((built.mayHold held).1 inner mem).2).1 (of_decide_eq_true same)
  rw [absent]
  exact .of_eq rfl

theorem nothingBelow_gives (files : FileSystem) (package : Package) (path : String) :
    (package.nothingBelow files path).Gives (· = none) Failure.IsRefusal := by
  apply (descend_gives files package _).bind
  intro found _
  cases found with
  | none => exact gives_pure rfl
  | some holder => exact (packages_gives files holder).bind fun _ _ => gives_pure rfl

theorem Built.findClass_alike_of_empty {package : Package} (built : package.Built) {name : String}
    {front back : List String} (cut : Text.split '.' name = front ++ "" :: back)
    (named : back ≠ []) (full : "" ∉ front) :
    (package.findClass files name).Alike (package.nothingBelow files (Text.join '.' front)) := by
  rw [findClass, cut, nothingBelow, findPackage_join files package (simple_of_split cut full)]
  apply (built.findAlong_append front (List.cons_ne_nil "" back)).trans
  apply Alike.bind (descend_gives files package front) (.of_eq rfl)
  intro found reached
  cases found with
  | none => exact .of_eq rfl
  | some holder => exact (built.mayReach (reached holder rfl)).findAlong_empty named

end Package

/-! ## What is settled -/

namespace Query

variable {α β : Type}

/-- Whether a query gives this value about any files as soon as all that is remembered here is
remembered. -/
def Settled (scans : Scans) (query : FileSystem → Query α) (value : α) : Prop :=
  ∀ later : Scans, scans.KeptIn later → ∀ files, ((query files).run.run later).1 = .ok value

theorem settled_pure (scans : Scans) (value : α) :
    Settled scans (fun _ => (pure value : Query α)) value := fun _ _ _ => rfl

/-- What a lasting query has answered is settled. -/
theorem Lasts.settled {query : FileSystem → Query α} (lasts : Lasts query) {files : FileSystem}
    {scans : Scans} {value : α} (answered : ((query files).run.run scans).1 = .ok value) :
    Settled ((query files).run.run scans).2 query value :=
  fun _ kept _ => lasts.again answered kept

theorem Settled.keptIn {earlier later : Scans} {query : FileSystem → Query α} {value : α}
    (settled : Settled earlier query value) (kept : earlier.KeptIn later) :
    Settled later query value := fun after kept' => settled after (kept.trans kept')

theorem Settled.bind {scans : Scans} {query : FileSystem → Query α}
    {next : FileSystem → α → Query β} {value : α} {result : β} (lasts : Lasts query)
    (first : Settled scans query value) (second : Settled scans (next · value) result) :
    Settled scans (fun files => query files >>= next files) result := by
  intro later kept files
  have answered := first later kept files
  have grown := lasts.grows files later
  rw [Collecting.run_bind]
  cases outcome : (query files).run.run later with
  | mk found after =>
    rw [outcome] at answered grown
    subst answered
    exact second after (kept.trans grown) files

theorem Settled.of_map {scans : Scans} {query : FileSystem → Query α} {f : α → β} {value : α}
    (settled : Settled scans (fun files => do return f (← query files)) (f value))
    (injective : Function.Injective f) : Settled scans query value := by
  intro later kept files
  have answered := settled later kept files
  rw [Collecting.run_map, Collecting.map_eq_ok] at answered
  rcases answered with ⟨found, answered, same⟩
  rw [answered, injective same]

end Query

/-! ## Stepping through lists -/

namespace Moment

open Query

/-- Whether a run steps from a package along these names to another one: it asks a package for its
packages and goes on with one of them, as often as there are names, and whatever else happens in
between. -/
inductive Steps (top : Package) (start : Moment) : List String → Package → Moment → Prop where
  | here (actions : List Action) : Steps top start [] top (start.after actions)
  | inside {names : List String} {outer inner : Package} {moment : Moment}
      {packages : List Package} (steps : Steps top start names outer moment)
      (held : moment.answer outer .packages = .ok (.packages packages)) (mem : inner ∈ packages)
      (actions : List Action) :
      Steps top start (names ++ [inner.name]) inner
        (moment.after (.ask outer .packages :: actions))

/-- A list that is answered is settled for all that follows in the run. -/
theorem settled_packages {moment : Moment} {package : Package} {packages : List Package}
    (held : moment.answer package .packages = .ok (.packages packages)) (actions : List Action) :
    Settled (moment.after (.ask package .packages :: actions)).scans (package.packages ·)
      packages := by
  have asked : Settled (moment.step (.ask package .packages)).scans
      (fun files => do return Answer.packages (← package.packages files)) (.packages packages) :=
    (package.ask_lasts .packages).settled held
  exact (asked.of_map fun _ _ same => Answer.packages.inj same).keptIn (keptIn_after _ actions)

theorem settled_classes {moment : Moment} {package : Package} {reps : List ClassRep}
    (shown : moment.answer package .classes = .ok (.classes reps)) (actions : List Action) :
    Settled (moment.after (.ask package .classes :: actions)).scans (package.classes ·) reps := by
  have asked : Settled (moment.step (.ask package .classes)).scans
      (fun files => do return Answer.classes (← package.classes files)) (.classes reps) :=
    (package.ask_lasts .classes).settled shown
  exact (asked.of_map fun _ _ same => Answer.classes.inj same).keptIn (keptIn_after _ actions)

section

variable {top node : Package} {start moment : Moment} {names : List String}

theorem Steps.possible (steps : Steps top start names node moment) (possible : start.Possible) :
    moment.Possible := by
  induction steps with
  | here actions => exact possible.after actions
  | inside steps held mem actions ih => exact ih.after _

/-- What is reached by stepping is built and has no empty name on the way, and following the names
again is settled to lead there. -/
theorem Steps.settled (steps : Steps top start names node moment) (possible : start.Possible)
    (built : top.Built) :
    node.Built ∧ (∀ name ∈ names, name ≠ "") ∧
      Settled moment.scans (fun files => top.descend files names) (some node) := by
  induction steps with
  | here actions => exact ⟨built, by simp, settled_pure _ _⟩
  | @inside names outer inner moment packages steps held mem actions ih =>
    rcases ih with ⟨outer_built, named, followed⟩
    have lists := outer_built.mayHold ((steps.possible possible).mayAnswer held)
    have inside := lists.1 inner mem
    have found : packages.find? (·.name = inner.name) = some inner :=
      Keyed.find?_of_mem lists.2 mem
    refine ⟨inside.1.isBuilt, ?_, ?_⟩
    · intro name given
      rcases List.mem_append.1 given with before | last
      · exact named name before
      · rw [List.mem_singleton.1 last]
        exact (Naming.isPackage_iff.1 inside.2).1
    · simp only [Package.descend_append]
      apply (followed.keptIn (keptIn_after moment _)).bind (Package.descend_lasts top names)
      apply (settled_packages held actions).bind (Package.packages_lasts outer)
      rw [found]
      exact settled_pure _ _

/-- What was reached by stepping is found by name at every later moment. -/
theorem Steps.findPackage (steps : Steps top start names node moment) (possible : start.Possible)
    (built : top.Built) (dotless : ∀ name ∈ names, '.' ∉ name.toList) (actions : List Action) :
    (moment.after actions).answer top (.findPackage (Text.join '.' names)) =
      .ok (.foundPackage (some node)) := by
  rcases steps.settled possible built with ⟨-, named, followed⟩
  rw [answer, Package.ask, Collecting.run_map,
    Package.findPackage_join _ top fun name mem => ⟨named name mem, dotless name mem⟩,
    followed _ (keptIn_after moment actions)]
  rfl

/-- And so are the classes that it listed. -/
theorem Steps.findClass (steps : Steps top start names node moment) (possible : start.Possible)
    (built : top.Built) (dotless : ∀ name ∈ names, '.' ∉ name.toList) {reps : List ClassRep}
    (shown : moment.answer node .classes = .ok (.classes reps)) {simple : String}
    (dotless' : '.' ∉ simple.toList) (actions : List Action) :
    (moment.after (.ask node .classes :: actions)).answer top
        (.findClass (Text.join '.' (names ++ [simple]))) =
      .ok (.foundClass (reps.find? (·.name = simple))) := by
  rcases steps.settled possible built with ⟨-, named, followed⟩
  have cut : Text.split '.' (Text.join '.' (names ++ [simple])) = names ++ [simple] := by
    apply Text.split_join (by simp)
    intro name mem
    rcases List.mem_append.1 mem with before | last
    · exact dotless name before
    · rw [List.mem_singleton.1 last]
      exact dotless'
  have sound := ((steps.possible possible).after (.ask node .classes :: actions)).sound
  have listed : Settled (moment.after (.ask node .classes :: actions)).scans
      (fun files => top.firstListed files (Text.join '.' names) simple)
      (reps.find? (·.name = simple)) := by
    simp only [Package.firstListed,
      Package.findPackage_join _ top fun name mem => ⟨named name mem, dotless name mem⟩]
    apply (followed.keptIn (keptIn_after moment _)).bind (Package.descend_lasts top names)
    apply (settled_classes shown actions).bind (Package.classes_lasts node)
    exact settled_pure _ _
  -- Looking the name up comes to the same as going through the classes of the package.
  rw [answer, Package.ask, Collecting.run_map,
    built.findClass_alike cut (fun mem => named "" mem rfl) _ sound, listed _ (.refl _)]
  rfl

end

/-! ## Both ways come to the same -/

/-- Below an empty name no class is found, unless a list on the way there is refused. -/
theorem Possible.answer_of_empty {moment : Moment} (possible : moment.Possible) {top : Package}
    (built : top.Built) {name : String} {front back : List String}
    (cut : Text.split '.' name = front ++ "" :: back) (named : back ≠ []) (full : "" ∉ front) :
    moment.answer top (.findClass name) = .ok (.foundClass none) ∨
      ∃ failure, moment.answer top (.findClass name) = .error failure ∧ failure.IsRefusal := by
  have nothing := top.nothingBelow_gives moment.files (Text.join '.' front)
  rw [answer, Package.ask, Collecting.run_map,
    built.findClass_alike_of_empty cut named full _ possible.sound]
  cases answered : ((top.nothingBelow moment.files (Text.join '.' front)).run.run
      moment.scans).1 with
  | error failure => exact .inr ⟨failure, rfl, nothing.fair possible.sound answered⟩
  | ok found =>
    rw [nothing.good possible.sound answered]
    exact .inl rfl

/-- At every moment of a run, looking a class up below a built package comes to the same as finding
the package before the last dot and going through its classes: the same class, the same failure, and
the same is remembered. With an empty name on the way no class is found, and only the lists on the
way can be refused. In turn, a package that is reached by stepping through lists along names without
dots is found under these names at every later moment, and so is, once it has listed its classes,
the first of each name. -/
theorem lookup_as_listed {moment : Moment} (possible : moment.Possible) {top : Package}
    (built : top.Built) :
    (∀ name names simple, Text.split '.' name = names ++ [simple] → "" ∉ names →
      (top.findClass moment.files name).run.run moment.scans =
        (top.firstListed moment.files (Text.join '.' names) simple).run.run moment.scans) ∧
    (∀ name front back, Text.split '.' name = front ++ "" :: back → back ≠ [] → "" ∉ front →
      (top.findClass moment.files name).run.run moment.scans =
        (top.nothingBelow moment.files (Text.join '.' front)).run.run moment.scans ∧
      (moment.answer top (.findClass name) = .ok (.foundClass none) ∨
        ∃ failure, moment.answer top (.findClass name) = .error failure ∧ failure.IsRefusal)) ∧
    ∀ names node later, Steps top moment names node later →
      (∀ name ∈ names, '.' ∉ name.toList) →
      (∀ actions, (later.after actions).answer top (.findPackage (Text.join '.' names)) =
        .ok (.foundPackage (some node))) ∧
      ∀ reps, later.answer node .classes = .ok (.classes reps) →
        ∀ simple, '.' ∉ simple.toList → ∀ actions,
          (later.after (.ask node .classes :: actions)).answer top
              (.findClass (Text.join '.' (names ++ [simple]))) =
            .ok (.foundClass (reps.find? (·.name = simple))) := by
  refine ⟨?_, ?_, ?_⟩
  · intro name names simple cut full
    exact built.findClass_alike cut full _ possible.sound
  · intro name front back cut named full
    exact ⟨built.findClass_alike_of_empty cut named full _ possible.sound,
      possible.answer_of_empty built cut named full⟩
  · intro names node later steps dotless
    refine ⟨steps.findPackage possible built dotless, ?_⟩
    intro reps shown simple dotless' actions
    exact steps.findClass possible built dotless shown dotless' actions

/-- The package inside the merge that holds one directory twice. -/
def doubledInside : Package :=
  .merged 1 .part [.directory 0 .binaries (.plain ⟨.here, ["c", "p"]⟩) .showAll,
    .directory 0 .binaries (.plain ⟨.here, ["c", "p"]⟩) .showAll] .showAll

theorem built_doubled : doubled.Built := by
  have compiled : compiled.Built := .directory _ _ _ (.plain _)
  exact .merged _ _ _ (by simp [compiled])

/-- There the class is found by name as it is listed, and, once it has been reached by stepping and
is listed, also after its file is gone. -/
theorem lookup_as_listed_doubled :
    (doubled.findClass oneClass.files "p.X").run.run oneClass.scans =
        (doubled.firstListed oneClass.files "p" "X").run.run oneClass.scans ∧
      (doubled.findClass oneClass.files ".X").run.run oneClass.scans =
        (doubled.nothingBelow oneClass.files "").run.run oneClass.scans ∧
      ∃ later rep, Steps doubled oneClass ["p"] doubledInside later ∧
        later.answer doubledInside .classes = .ok (.classes [rep]) ∧
        (later.after (.ask doubledInside .classes :: upheaval)).answer doubled
          (.findClass "p.X") = .ok (.foundClass (some rep)) := by
  have possible : oneClass.Possible := possible_start _ _
  have agree := lookup_as_listed possible built_doubled
  have held : oneClass.answer doubled .packages = .ok (.packages [doubledInside]) := by
    decide +kernel
  have steps : Steps doubled oneClass ["p"] doubledInside
      (oneClass.after [.ask doubled .packages]) :=
    .inside (.here []) held List.mem_cons_self []
  have shown : (oneClass.after [.ask doubled .packages]).answer doubledInside .classes =
      .ok (.classes [⟨some (.plain ⟨.here, ["c", "p", "X.class"]⟩), none, "X", rfl⟩]) := by
    decide +kernel
  refine ⟨agree.1 "p.X" ["p"] "X" (by decide +kernel) (by decide),
    (agree.2.1 ".X" [] ["X"] (by decide +kernel) (by decide) (by decide)).1,
    _, _, steps, shown, ?_⟩
  exact (agree.2.2 ["p"] _ _ steps (by decide)).2 _ shown "X" (by decide) upheaval

/-- The start of a run over a directory that may be listed and not searched. -/
def shutIn : Moment := ⟨shut, .start, .empty⟩

/-- The package over this directory. -/
def behindShut : Package := .directory 0 .binaries (.plain ⟨.root, ["d"]⟩) .showAll

/-- Where nothing but refusals is to be had, a name with an empty name in it is refused as well. -/
theorem lookup_refused_below_empty :
    Text.split '.' ".X" = ["", "X"] ∧
      (detoured.Possible ∧ (roundabout 818).Built ∧
        detoured.answer (roundabout 818) (.findClass ".X") ≠ .ok (.foundClass none)) ∧
      shutIn.Possible ∧ behindShut.Built ∧
        shutIn.answer behindShut (.findClass ".X") =
          .error (.system .permissionDenied "/d/A.class") := by
  refine ⟨by decide +kernel, ⟨possible_start _ _, built_roundabout 818, ?_⟩, possible_start _ _,
    .directory _ _ _ (.plain _), by decide +kernel⟩
  rw [answer_roundabout (by decide) (by decide)]
  exact nofun

end Moment

end JvmClasspath
