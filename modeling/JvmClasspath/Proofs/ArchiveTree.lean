import JvmClasspath.File
import JvmClasspath.Proofs.Collecting
import Mathlib.Data.List.Induction
import Mathlib.Data.List.TakeWhile

/-!
# What the tree of an archive shows

The tree of an archive is built member by member. What it shows in the end can be said without the
order in which that happened: below the root there is a directory wherever some member is one or
lies further down, elsewhere there is the last file of that path, and nothing else.

A tree that was built so is sound: the children of each directory ascend by name, their names are
components of paths, and the simple name of a file is the name it is found under.
-/

namespace JvmClasspath

namespace Text

theorem cutLast?_of_notMem {separator : Char} {text : List Char} (absent : separator ∉ text) :
    cutLast? separator text = none := by
  induction text with
  | nil => rfl
  | cons c rest ih =>
    rw [List.mem_cons, not_or] at absent
    simp [cutLast?, ih absent.2, Ne.symm absent.1]

theorem cutLast?_append {separator : Char} (before : List Char) {after : List Char}
    (absent : separator ∉ after) :
    cutLast? separator (before ++ separator :: after) = some (before, after) := by
  induction before with
  | nil => simp [cutLast?, cutLast?_of_notMem absent]
  | cons c rest ih => simp [cutLast?, ih]

/-- A text with a separator has a last one. -/
theorem exists_last_separator {separator : Char} {text : List Char} (mem : separator ∈ text) :
    ∃ before after, text = before ++ separator :: after ∧ separator ∉ after := by
  induction text with
  | nil => simp at mem
  | cons c rest ih =>
    by_cases later : separator ∈ rest
    · rcases ih later with ⟨before, after, rfl, absent⟩
      exact ⟨c :: before, after, rfl, absent⟩
    · have here : separator = c := by simpa [later] using mem
      exact ⟨[], rest, by rw [here, List.nil_append], later⟩

end Text

/-! ## Components and simple names -/

namespace Archive

/-- Whether a text can be a component of a member's path. -/
def IsComponent (name : String) : Prop := name ≠ "" ∧ '/' ∉ name.toList

theorem isComponent_of_mem {member name : String} (mem : name ∈ components member) :
    IsComponent name := by
  rw [components, List.mem_filter] at mem
  exact ⟨of_decide_eq_true mem.2, Text.separator_notMem_of_mem_split mem.1⟩

/-- The simple name stands between the last slash before it and the slashes at the end. -/
theorem memberName_eq {member : String} (before : List Char) {name : List Char}
    (after : List Char) (spelled : member.toList = before ++ name ++ after)
    (slashes : ∀ c ∈ after, c = '/')
    (nonempty : name ≠ []) (component : '/' ∉ name)
    (opened : before = [] ∨ ∃ above, before = above ++ ['/']) :
    File.memberName member = String.ofList name := by
  have kept : (member.toList.reverse.dropWhile (· = '/')).reverse = before ++ name := by
    rcases List.eq_nil_or_concat name |>.resolve_left nonempty with ⟨front, last, rfl⟩
    have apart : last ≠ '/' := by
      intro same
      subst same
      simp at component
    have dropped : after.reverse.dropWhile (· = '/') = [] :=
      List.dropWhile_eq_nil_iff.2 (by simpa using slashes)
    rw [spelled, List.reverse_append, List.dropWhile_append, dropped]
    simp [apart]
  rw [File.memberName, kept, Text.afterLast]
  rcases opened with rfl | ⟨above, rfl⟩
  · simp [Text.cutLast?_of_notMem component]
  · simp [Text.cutLast?_append above component]

/-- The simple name of a directory is the component that its member path ends in. -/
theorem memberName_folder {above name : String} (component : IsComponent name)
    (opened : above = "" ∨ ∃ front, above = front ++ "/") :
    File.memberName (above ++ name ++ "/") = name := by
  have spelled : (above ++ name ++ "/").toList = above.toList ++ name.toList ++ ['/'] := by simp
  rw [memberName_eq above.toList ['/'] spelled (by simp) (by simpa using component.1) component.2,
    String.ofList_toList]
  rcases opened with rfl | ⟨front, rfl⟩
  · exact .inl rfl
  · exact .inr ⟨front.toList, by simp⟩

/-- The simple name of a file is the last component of its path. -/
theorem getLast?_components {member : String} (below : components member ≠ [])
    (file : namesDirectory member = false) :
    (components member).getLast? = some (File.memberName member) := by
  by_cases slash : '/' ∈ member.toList
  · rcases Text.exists_last_separator slash with ⟨before, after, spelled, absent⟩
    have nonempty : after ≠ [] := by
      intro same
      subst same
      have ending : ['/'].isSuffixOf (before ++ ['/']) = true :=
        List.isSuffixOf_iff_suffix.2 (List.suffix_append before ['/'])
      simp [namesDirectory, Text.endsWith, spelled, ending] at file
    have named : File.memberName member = String.ofList after :=
      memberName_eq (before ++ ['/']) [] (by simp [spelled]) (by simp)
        nonempty absent (.inr ⟨before, rfl⟩)
    rw [named, components, Text.split, spelled, Text.pieces_append, Text.pieces_of_notMem absent]
    simp [nonempty]
  · have whole : components member = [member].filter (· ≠ "") := by
      simp [components, Text.split, Text.pieces_of_notMem slash]
    have nonempty : member ≠ "" := by
      intro same
      subst same
      simp [whole] at below
    have named : File.memberName member = String.ofList member.toList :=
      memberName_eq [] [] (by simp) (by simp) (by simpa using nonempty) slash
        (.inl rfl)
    simp [whole, nonempty, named]

/-! ## Sound trees -/

/-- Whether the children of each directory ascend by name, are named by components, and a file is
found under its simple name. -/
inductive Tree.Sound : Tree → Prop where
  | file (member : String) : Sound (.file member)
  | directory {children : Children} (ascending : (children.map Prod.fst).Pairwise (· < ·))
      (component : ∀ child ∈ children, IsComponent child.1)
      (simple : ∀ child ∈ children, ∀ member, child.2 = .file member →
        File.memberName member = child.1)
      (below : ∀ child ∈ children, Sound child.2) : Sound (.directory children)

section

variable {children : Children} {name : String} {new : Option Tree → Tree}

theorem lookup_cons_ite {α : Type} (other name : String) (value : α) (rest : List (String × α)) :
    List.lookup other ((name, value) :: rest) =
      if other = name then some value else rest.lookup other := by
  by_cases same : other = name
  · simp [same]
  · rw [List.lookup_cons, beq_eq_false_iff_ne.2 same, if_neg same]

theorem mem_of_lookup {α : Type} {entries : List (String × α)} {value : α}
    (found : entries.lookup name = some value) : (name, value) ∈ entries := by
  rcases List.lookup_eq_some_iff.1 found with ⟨before, after, rfl, -⟩
  simp

/-- What an update leaves are the old children and the one that it made. -/
theorem mem_update {child : String × Tree} (mem : child ∈ update name new children) :
    child ∈ children ∨
      ∃ old, child = (name, new old) ∧ ∀ tree, old = some tree → (name, tree) ∈ children := by
  induction children with
  | nil =>
    rw [update, List.mem_singleton] at mem
    exact .inr ⟨none, mem, by simp⟩
  | cons first rest ih =>
    rcases first with ⟨other, tree⟩
    rw [update] at mem
    split at mem
    · next same =>
      rcases List.mem_cons.1 mem with rfl | later
      · refine .inr ⟨some tree, rfl, ?_⟩
        intro old is_old
        rw [← Option.some.inj is_old, same]
        exact List.mem_cons_self
      · exact .inl (List.mem_cons_of_mem _ later)
    · split at mem
      · rcases List.mem_cons.1 mem with rfl | later
        · exact .inr ⟨none, rfl, by simp⟩
        · exact .inl later
      · rcases List.mem_cons.1 mem with rfl | later
        · exact .inl List.mem_cons_self
        · rcases ih later with old | ⟨old, made, from_old⟩
          · exact .inl (List.mem_cons_of_mem _ old)
          · exact .inr ⟨old, made, fun t same => List.mem_cons_of_mem _ (from_old t same)⟩

theorem ascending_update (ascending : (children.map Prod.fst).Pairwise (· < ·)) :
    ((update name new children).map Prod.fst).Pairwise (· < ·) := by
  induction children with
  | nil => simp [update]
  | cons first rest ih =>
    rcases first with ⟨other, tree⟩
    rcases List.pairwise_cons.1 ascending with ⟨least, ascending⟩
    rw [update]
    split
    · next same => exact List.pairwise_cons.2 ⟨same ▸ least, ascending⟩
    · next differs =>
      split
      · next less =>
        refine List.pairwise_cons.2 ⟨?_, List.pairwise_cons.2 ⟨least, ascending⟩⟩
        intro k mem
        rcases List.mem_cons.1 mem with rfl | later
        · exact less
        · exact String.lt_trans less (least k later)
      · next notLess =>
        apply List.pairwise_cons.2 ⟨_, ih ascending⟩
        intro k mem
        rcases List.mem_map.1 mem with ⟨child, inUpdate, rfl⟩
        rcases mem_update inUpdate with old | ⟨old, rfl, -⟩
        · exact least _ (List.mem_map_of_mem old)
        · have atMost : other ≤ name := String.not_lt.1 notLess
          exact Std.lt_of_le_of_ne atMost differs

/-- An update changes what is found under its name and nothing else. -/
theorem lookup_update (ascending : (children.map Prod.fst).Pairwise (· < ·)) (other : String) :
    (update name new children).lookup other =
      if other = name then some (new (children.lookup name)) else children.lookup other := by
  induction children with
  | nil => rw [update, lookup_cons_ite, List.lookup_nil, List.lookup_nil]
  | cons first rest ih =>
    rcases first with ⟨here, tree⟩
    rcases List.pairwise_cons.1 ascending with ⟨least, ascending⟩
    rw [update]
    by_cases same : here = name
    · subst same
      rw [if_pos rfl, lookup_cons_ite, lookup_cons_ite, lookup_cons_ite, if_pos rfl]
      by_cases hit : other = here
      · rw [if_pos hit, if_pos hit]
      · rw [if_neg hit, if_neg hit, if_neg hit]
    · rw [if_neg same, lookup_cons_ite name, if_neg (Ne.symm same)]
      by_cases less : name < here
      · -- All later names are greater still, so `name` is new.
        have absent : rest.lookup name = none := by
          rw [List.lookup_eq_none_iff]
          intro child mem
          have greater := least child.1 (List.mem_map_of_mem mem)
          have apart : name ≠ child.1 := by
            intro same
            subst same
            exact String.lt_asymm less greater
          simpa using apart
        rw [if_pos less, lookup_cons_ite, absent]
      · rw [if_neg less, lookup_cons_ite, ih ascending, lookup_cons_ite]
        by_cases hit : other = name
        · rw [if_pos hit, if_neg (hit ▸ Ne.symm same), if_pos hit]
        · rw [if_neg hit, if_neg hit]

/-- An update keeps a directory sound if what it makes of an old child is sound and, where it is a
file, has the name of the update. -/
theorem sound_update (sound : (Tree.directory children).Sound) (component : IsComponent name)
    (made : ∀ old : Option Tree,
      (∀ tree, old = some tree →
        tree.Sound ∧ ∀ member, tree = .file member → File.memberName member = name) →
      (new old).Sound ∧ ∀ member, new old = .file member → File.memberName member = name) :
    (Tree.directory (update name new children)).Sound := by
  cases sound with
  | directory ascending components simple below =>
    have new_sound : ∀ old, (∀ tree, old = some tree → (name, tree) ∈ children) →
        (new old).Sound ∧ ∀ member, new old = .file member → File.memberName member = name := by
      intro old from_children
      apply made old
      intro tree is_old
      have mem := from_children tree is_old
      exact ⟨below _ mem, simple _ mem⟩
    apply Tree.Sound.directory (ascending_update ascending)
    · intro child mem
      rcases mem_update mem with old | ⟨old, rfl, -⟩
      · exact components child old
      · exact component
    · intro child mem
      rcases mem_update mem with old | ⟨old, rfl, from_children⟩
      · exact simple child old
      · exact (new_sound old from_children).2
    · intro child mem
      rcases mem_update mem with old | ⟨old, rfl, from_children⟩
      · exact below child old
      · exact (new_sound old from_children).1

end

theorem sound_empty : (Tree.directory []).Sound :=
  .directory (by simp) (by simp) (by simp) (by simp)

/-- What stands at a place is sound as a directory too. -/
theorem sound_asDirectory {old : Option Tree} (sound : ∀ tree, old = some tree → tree.Sound) :
    (Tree.directory (asDirectory old)).Sound := by
  match old, sound with
  | none, _ => exact sound_empty
  | some (.file _), _ => exact sound_empty
  | some (.directory children), sound => exact sound _ rfl

theorem sound_addDirectory {path : List String} (components : ∀ name ∈ path, IsComponent name)
    {children : Children} (sound : (Tree.directory children).Sound) :
    (Tree.directory (addDirectory path children)).Sound := by
  induction path generalizing children with
  | nil => exact sound
  | cons name rest ih =>
    rw [addDirectory]
    apply sound_update sound (components name List.mem_cons_self)
    intro old held
    have inner := sound_asDirectory fun tree same => (held tree same).1
    exact ⟨ih (fun n mem => components n (List.mem_cons_of_mem name mem)) inner, nofun⟩

theorem sound_addFile {member : String} {path : List String}
    (components : ∀ name ∈ path, IsComponent name)
    (simple : ∀ name, path.getLast? = some name → File.memberName member = name)
    {children : Children} (sound : (Tree.directory children).Sound) :
    (Tree.directory (addFile member path children)).Sound := by
  induction path generalizing children with
  | nil => exact sound
  | cons name rest ih =>
    have component := components name List.mem_cons_self
    cases rest with
    | nil =>
      rw [addFile]
      apply sound_update sound component
      intro old held
      match old, held with
      | some (.directory inner), held => exact ⟨(held _ rfl).1, nofun⟩
      | none, _ =>
        refine ⟨.file member, ?_⟩
        intro _ same
        cases same
        exact simple name rfl
      | some (.file _), _ =>
        refine ⟨.file member, ?_⟩
        intro _ same
        cases same
        exact simple name rfl
    | cons next rest =>
      rw [addFile]
      apply sound_update sound component
      intro old held
      have inner := sound_asDirectory fun tree same => (held tree same).1
      refine ⟨ih (fun n mem => components n (List.mem_cons_of_mem name mem)) ?_ inner, nofun⟩
      intro last isLast
      exact simple last (by rw [List.getLast?_cons_cons, isLast])

theorem sound_addMember {children : Children} (sound : (Tree.directory children).Sound)
    (member : Member) : (Tree.directory (addMember children member)).Sound := by
  have valid : ∀ name ∈ components member.name, IsComponent name := fun _ => isComponent_of_mem
  rw [addMember]
  split
  · exact sound_addDirectory valid sound
  · next file =>
    apply sound_addFile valid _ sound
    intro name isLast
    have below : components member.name ≠ [] := by
      intro empty
      simp [empty] at isLast
    rw [getLast?_components below (by simpa using file)] at isLast
    exact Option.some.inj isLast

/-- The tree of an archive is sound. -/
theorem sound_index (members : List Member) : (Tree.directory (index members)).Sound := by
  induction members using List.reverseRecOn with
  | nil => exact sound_empty
  | append_singleton members member ih =>
    rw [index, List.foldl_append]
    exact sound_addMember ih member

/-! ## What stands at a path -/

/-- What stands at a path below a directory with these children. -/
def at? : Children → List String → Option Tree
  | children, [] => some (.directory children)
  | children, name :: rest =>
    match children.lookup name with
    | some (.directory inner) => at? inner rest
    | some (.file member) => if rest = [] then some (.file member) else none
    | none => none

/-- The name that the member of a file has in the archive. -/
def Tree.member? : Tree → Option String
  | .file member => some member
  | .directory _ => none

@[simp] theorem at?_nil (children : Children) : at? children [] = some (.directory children) := rfl

@[simp] theorem at?_singleton (children : Children) (name : String) :
    at? children [name] = children.lookup name := by
  rw [at?]
  split
  · next found => rw [found, at?_nil]
  · next found => rw [found, if_pos rfl]
  · next absent => rw [absent]

/-- Below the first name stands what stands in the directory of that name. -/
theorem at?_cons (children : Children) (name : String) {rest : List String} (below : rest ≠ []) :
    at? children (name :: rest) = at? (asDirectory (children.lookup name)) rest := by
  have nothing : at? [] rest = none := by
    cases rest with
    | nil => exact absurd rfl below
    | cons next rest => rfl
  rw [at?]
  split
  · next found => rw [found, asDirectory]
  · next found => rw [found, if_neg below, asDirectory, nothing]; nofun
  · next absent => rw [absent, asDirectory, nothing]; nofun

/-- A path that goes on from a directory is a path from there. -/
theorem at?_append {children inner : Children} {path : List String}
    (found : at? children path = some (.directory inner)) (rest : List String) :
    at? children (path ++ rest) = at? inner rest := by
  induction path generalizing children with
  | nil =>
    cases found
    rfl
  | cons name path ih =>
    rw [at?] at found
    rw [List.cons_append, at?]
    split at found
    · next held => exact ih found
    · next held =>
      split at found
      · cases found
      · cases found
    · cases found

/-- What stands at a path of a sound directory is sound. -/
theorem sound_at? {children : Children} (sound : (Tree.directory children).Sound)
    {path : List String} {tree : Tree} (found : at? children path = some tree) : tree.Sound := by
  induction path generalizing children with
  | nil =>
    cases found
    exact sound
  | cons name rest ih =>
    cases sound with
    | directory _ _ _ below =>
      rw [at?] at found
      split at found
      · next held => exact ih (below _ (mem_of_lookup held)) found
      · next held =>
        split at found
        · cases found
          exact below _ (mem_of_lookup held)
        · cases found
      · cases found

theorem lookup_of_mem {α : Type} {entries : List (String × α)}
    (ascending : (entries.map Prod.fst).Pairwise (· < ·)) {entry : String × α}
    (mem : entry ∈ entries) : entries.lookup entry.1 = some entry.2 := by
  induction entries with
  | nil => cases mem
  | cons first rest ih =>
    rcases first with ⟨name, value⟩
    rcases List.pairwise_cons.1 ascending with ⟨least, ascending⟩
    rw [lookup_cons_ite]
    rcases List.mem_cons.1 mem with rfl | later
    · rw [if_pos rfl]
    · have greater := least entry.1 (List.mem_map_of_mem later)
      rw [if_neg (Std.ne_of_lt greater).symm, ih ascending later]

/-- An update leaves what stands below other names. -/
theorem at?_update_of_ne {children : Children}
    (ascending : (children.map Prod.fst).Pairwise (· < ·)) {name first : String}
    (differ : first ≠ name) (new : Option Tree → Tree) (rest : List String) :
    at? (update name new children) (first :: rest) = at? children (first :: rest) := by
  rw [at?, at?, lookup_update ascending, if_neg differ]

theorem Tree.Sound.ascending {children : Children} (sound : (Tree.directory children).Sound) :
    (children.map Prod.fst).Pairwise (· < ·) := by
  cases sound with
  | directory ascending => exact ascending

theorem sound_asDirectory_lookup {children : Children} (sound : (Tree.directory children).Sound)
    (name : String) : (Tree.directory (asDirectory (children.lookup name))).Sound := by
  apply sound_asDirectory
  intro tree found
  cases sound with
  | directory _ _ _ below => exact below _ (mem_of_lookup found)

/-- A directory member makes directories of all places on its path. -/
theorem member?_at?_addDirectory {children : Children} (sound : (Tree.directory children).Sound)
    (path : List String) {place : List String} (below : place ≠ []) :
    (at? (addDirectory path children) place).map Tree.member? =
      if place <+: path then some none else (at? children place).map Tree.member? := by
  induction path generalizing children place with
  | nil => simp [addDirectory, below]
  | cons name path ih =>
    rcases List.exists_cons_of_ne_nil below with ⟨first, rest, rfl⟩
    have ascending := sound.ascending
    rw [addDirectory]
    by_cases same : first = name
    · subst same
      by_cases last : rest = []
      · subst last
        simp [lookup_update ascending, Tree.member?]
      · rw [at?_cons _ _ last, lookup_update ascending, if_pos rfl, asDirectory,
          ih (sound_asDirectory_lookup sound first) last, at?_cons _ _ last]
        simp
    · rw [at?_update_of_ne ascending same]
      simp [same]

/-- A file member makes directories of the places on its path, and a file of the path itself unless
a directory stands there. -/
theorem member?_at?_addFile {children : Children} (sound : (Tree.directory children).Sound)
    (member : String) {path place : List String} (named : path ≠ []) (below : place ≠ []) :
    (at? (addFile member path children) place).map Tree.member? =
      if place = path then
        if (at? children place).map Tree.member? = some none then some none else some (some member)
      else if place <+: path then some none
      else (at? children place).map Tree.member? := by
  induction path generalizing children place with
  | nil => exact absurd rfl named
  | cons name path ih =>
    rcases List.exists_cons_of_ne_nil below with ⟨first, rest, rfl⟩
    have ascending := sound.ascending
    cases path with
    | nil =>
      rw [addFile]
      by_cases same : first = name
      · subst same
        by_cases last : rest = []
        · subst last
          rw [at?_singleton, at?_singleton, lookup_update ascending, if_pos rfl, if_pos rfl]
          match children.lookup first with
          | none => simp [fileOver, Tree.member?]
          | some (.file old) => simp [fileOver, Tree.member?]
          | some (.directory inner) => simp [fileOver, Tree.member?]
        · rw [at?_cons _ _ last, at?_cons _ _ last, lookup_update ascending, if_pos rfl]
          have kept : asDirectory (some (fileOver member (children.lookup first))) =
              asDirectory (children.lookup first) := by
            match children.lookup first with
            | none => rfl
            | some (.file old) => rfl
            | some (.directory inner) => rfl
          simp [kept, last]
      · rw [at?_update_of_ne ascending same]
        simp [same]
    | cons next path =>
      rw [addFile]
      by_cases same : first = name
      · subst same
        by_cases last : rest = []
        · subst last
          simp [lookup_update ascending, Tree.member?]
        · rw [at?_cons _ _ last, lookup_update ascending, if_pos rfl, asDirectory,
            ih (sound_asDirectory_lookup sound first) (by simp) last, at?_cons _ _ last]
          simp
      · rw [at?_update_of_ne ascending same]
        simp [same]

/-! ## The places of an archive -/

/-- Whether some member is a directory at this place or lies further down. -/
def HasDirectory (members : List Member) (place : List String) : Prop :=
  ∃ member ∈ members, place <+: components member.name ∧
    (place = components member.name → namesDirectory member.name = true)

instance (members : List Member) (place : List String) :
    Decidable (HasDirectory members place) :=
  inferInstanceAs (Decidable (∃ member ∈ members, _))

/-- The last member that is a file of this path. -/
def lastFile? (members : List Member) (place : List String) : Option Member :=
  members.reverse.find? fun member =>
    components member.name = place ∧ namesDirectory member.name = false

theorem mem_of_lastFile? {members : List Member} {place : List String} {member : Member}
    (found : lastFile? members place = some member) :
    member ∈ members ∧ components member.name = place ∧ namesDirectory member.name = false :=
  ⟨List.mem_reverse.1 (List.mem_of_find?_eq_some found), by simpa using List.find?_some found⟩

/-- The last file of a path is the last member of its name. -/
theorem find?_name_of_lastFile? {members : List Member} {place : List String} {member : Member}
    (found : lastFile? members place = some member) :
    members.reverse.find? (·.name = member.name) = some member := by
  rcases mem_of_lastFile? found with ⟨_, here, file⟩
  rcases List.find?_eq_some_iff_append.1 found with ⟨-, before, after, spelled, others⟩
  refine List.find?_eq_some_iff_append.2 ⟨by simp, before, after, spelled, ?_⟩
  intro other mem
  have differs := others other mem
  have apart : other.name ≠ member.name := by
    intro same
    simp [same, here, file] at differs
  simpa using apart

/-- Above what a member names there are directories. -/
theorem hasDirectory_above {members : List Member} {member : Member} (mem : member ∈ members)
    {place : List String} {name : String} (onPath : place ++ [name] <+: components member.name) :
    HasDirectory members place := by
  refine ⟨member, mem, (List.prefix_append place [name]).trans onPath, ?_⟩
  intro same
  have longer := onPath.length_le
  rw [← same, List.length_append, List.length_singleton] at longer
  omega

theorem hasDirectory_concat (members : List Member) (member : Member) (place : List String) :
    HasDirectory (members ++ [member]) place ↔
      HasDirectory members place ∨ (place <+: components member.name ∧
        (place = components member.name → namesDirectory member.name = true)) := by
  simp only [HasDirectory, List.mem_append, List.mem_singleton]
  constructor
  · intro given
    rcases given with ⟨m, old | rfl, here⟩
    · exact .inl ⟨m, old, here⟩
    · exact .inr here
  · intro either
    rcases either with ⟨m, old, here⟩ | here
    · exact ⟨m, .inl old, here⟩
    · exact ⟨member, .inr rfl, here⟩

theorem lastFile?_concat (members : List Member) (member : Member) (place : List String) :
    lastFile? (members ++ [member]) place =
      if components member.name = place ∧ namesDirectory member.name = false then some member
      else lastFile? members place := by
  rw [lastFile?, List.reverse_append, List.reverse_singleton, List.singleton_append,
    List.find?_cons]
  by_cases hit : components member.name = place ∧ namesDirectory member.name = false
  · simp [hit]
  · simp only [hit, decide_false, if_false, lastFile?]

/-- The tree of an archive shows its directories, and elsewhere the last file of each path. -/
theorem member?_at?_index (members : List Member) {place : List String} (below : place ≠ []) :
    (at? (index members) place).map Tree.member? =
      if HasDirectory members place then some none
      else (lastFile? members place).map fun member => some member.name := by
  induction members using List.reverseRecOn with
  | nil =>
    rcases List.exists_cons_of_ne_nil below with ⟨first, rest, rfl⟩
    simp [index, HasDirectory, lastFile?, at?]
  | append_singleton members member ih =>
    have sound := sound_index members
    simp only [hasDirectory_concat, lastFile?_concat]
    have step : index (members ++ [member]) = addMember (index members) member := by
      simp [index]
    rw [step, addMember]
    cases directory : namesDirectory member.name with
    | true =>
      rw [if_pos rfl, member?_at?_addDirectory sound _ below, ih]
      by_cases onPath : place <+: components member.name
      · simp [onPath]
      · simp [onPath]
    | false =>
      rw [if_neg (by simp)]
      by_cases unnamed : components member.name = []
      · have apart : ¬place <+: [] := by simpa using below
        have apart' : [] ≠ place := Ne.symm below
        rw [unnamed, addFile, ih]
        simp [apart, apart']
      · rw [member?_at?_addFile sound _ unnamed below, ih]
        by_cases same : place = components member.name
        · subst same
          by_cases before : HasDirectory members (components member.name)
          · simp [before]
          · simp [before]
        · by_cases onPath : place <+: components member.name
          · simp [same, onPath]
          · simp [same, Ne.symm same, onPath]

/-- A file of the tree has the name of the last member of its path, and no directory is there. -/
theorem lastFile?_of_at? {members : List Member} {place : List String} {name : String}
    (found : at? (index members) place = some (.file name)) :
    ¬HasDirectory members place ∧
      ∃ member, lastFile? members place = some member ∧ member.name = name := by
  have below : place ≠ [] := by
    intro same
    subst same
    cases found
  have shown := member?_at?_index members below
  by_cases directory : HasDirectory members place
  · simp [directory, found, Tree.member?] at shown
  · rw [if_neg directory, found] at shown
    refine ⟨directory, ?_⟩
    cases last : lastFile? members place with
    | none => simp [last] at shown
    | some member =>
      rw [last, Option.map_some, Option.map_some, Option.some.injEq] at shown
      exact ⟨member, rfl, (Option.some.inj shown).symm⟩

/-- The last file of a path is read by its name. -/
theorem readMember_of_lastFile? {files : FileSystem} {archive : Archive} {members : List Member}
    (read : archive.source.members files = .ok members) {place : List String} {member : Member}
    (last : lastFile? members place = some member) :
    archive.readMember files member.name = .ok member.data := by
  rw [readMember]
  refine Collecting.bind_eq_ok.2 ⟨members, read, ?_⟩
  rw [find?_name_of_lastFile? last]
  rfl

end Archive

end JvmClasspath
