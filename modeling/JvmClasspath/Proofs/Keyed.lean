import JvmClasspath.Package.Merge
import Mathlib.Data.List.Forall2
import Mathlib.Data.List.Induction

/-!
# Merging by a key

Classes and packages are merged alike: they come one after the other, the first of a name keeps its
place, and later ones of that name join it. Here the elements, their key and the way in which they
join are left open, and only elements with a property `P` are merged. What a merged list holds under
a key is what comes of joining all elements of that key in their order, and if joining is
associative a list may as well be merged in parts.
-/

namespace JvmClasspath.Keyed

variable {α β κ : Type} [DecidableEq κ]

/-- The list after one more element, which joins the one of its key or comes last. -/
def add (key : α → κ) (join : α → α → α) (x : α) : List α → List α
  | [] => [x]
  | first :: rest =>
    if key first = key x then join first x :: rest else first :: add key join x rest

/-- The elements, taken one after the other. -/
def merge (key : α → κ) (join : α → α → α) (xs : List α) : List α :=
  xs.foldl (fun merged x => add key join x merged) []

/-- What comes of joining elements from the first to the last, if there are any. -/
def joinAll (join : α → α → α) : List α → Option α
  | [] => none
  | first :: rest => some (rest.foldl join first)

theorem joinAll_concat (join : α → α → α) (xs : List α) (x : α) :
    joinAll join (xs ++ [x]) = (joinAll join xs).merge join (some x) := by
  cases xs with
  | nil => rfl
  | cons first rest => simp [joinAll]

theorem joinAll_append {join : α → α → α} [Std.Associative join] (xs ys : List α) :
    joinAll join (xs ++ ys) = (joinAll join xs).merge join (joinAll join ys) := by
  induction ys using List.reverseRecOn with
  | nil => simp [joinAll]
  | append_singleton ys y ih =>
    rw [← List.append_assoc, joinAll_concat, joinAll_concat, ih]
    have assoc : Std.Associative (Option.merge join) := inferInstance
    exact assoc.assoc _ _ _

/-- Joining keeps the property and, among elements of one key, the key. -/
structure Laws (key : α → κ) (join : α → α → α) (P : α → Prop) : Prop where
  closed : ∀ {a b}, P a → P b → key a = key b → P (join a b)
  key_join : ∀ {a b}, P a → P b → key a = key b → key (join a b) = key a

section

variable {key : α → κ} {join : α → α → α} {P : α → Prop}

@[simp] theorem merge_nil : merge key join [] = [] := rfl

theorem merge_append (xs ys : List α) :
    merge key join (xs ++ ys) =
      ys.foldl (fun merged x => add key join x merged) (merge key join xs) := by
  simp [merge]

theorem merge_concat (xs : List α) (x : α) :
    merge key join (xs ++ [x]) = add key join x (merge key join xs) := by
  simp [merge]

/-! ## What is in a merged list -/

theorem forall_add (closed : ∀ {a b}, P a → P b → key a = key b → P (join a b)) {x : α}
    (holds : P x) {xs : List α} (all : ∀ a ∈ xs, P a) : ∀ a ∈ add key join x xs, P a := by
  induction xs with
  | nil => simpa [add] using holds
  | cons first rest ih =>
    have here := all first List.mem_cons_self
    have below := fun a mem => all a (List.mem_cons_of_mem first mem)
    rw [add]
    split
    · next same =>
      intro a mem
      rcases List.mem_cons.1 mem with rfl | later
      · exact closed here holds same
      · exact below a later
    · intro a mem
      rcases List.mem_cons.1 mem with rfl | later
      · exact here
      · exact ih below a later

/-- What joining keeps is kept by merging. -/
theorem forall_merge (closed : ∀ {a b}, P a → P b → key a = key b → P (join a b)) {xs : List α}
    (all : ∀ a ∈ xs, P a) : ∀ a ∈ merge key join xs, P a := by
  induction xs using List.reverseRecOn with
  | nil => simp
  | append_singleton xs x ih =>
    rw [merge_concat]
    exact forall_add closed (all x (by simp)) (ih fun a mem => all a (by simp [mem]))

/-- One more element adds its key at the end if it is new. -/
theorem map_key_add (laws : Laws key join P) {x : α} (holds : P x) {xs : List α}
    (all : ∀ a ∈ xs, P a) :
    (add key join x xs).map key =
      if key x ∈ xs.map key then xs.map key else xs.map key ++ [key x] := by
  induction xs with
  | nil => simp [add]
  | cons first rest ih =>
    have here := all first List.mem_cons_self
    rw [add]
    by_cases same : key first = key x
    · simp [same, laws.key_join here holds same]
    · rw [if_neg same, List.map_cons, ih fun a mem => all a (List.mem_cons_of_mem first mem)]
      have apart : key x ≠ key first := Ne.symm same
      by_cases present : key x ∈ rest.map key
      · simp [present]
      · simp [present, apart]

/-- The keys of a merged list are those of its elements, each where it comes first. -/
theorem map_key_merge (laws : Laws key join P) {xs : List α} (all : ∀ a ∈ xs, P a) :
    (merge key join xs).map key = (xs.map key).eraseDups := by
  induction xs using List.reverseRecOn with
  | nil => rfl
  | append_singleton xs x ih =>
    have below := fun a mem => all a (List.mem_append_left [x] mem)
    rw [merge_concat, map_key_add laws (all x (by simp)) (forall_merge laws.closed below), ih below,
      List.map_append, List.map_singleton, List.eraseDups_append]
    by_cases present : key x ∈ xs.map key
    · have nothing : [key x].removeAll (xs.map key) = [] :=
        List.filter_cons_of_neg (by simpa using present)
      rw [if_pos (List.mem_eraseDups.2 present), nothing, List.eraseDups_nil, List.append_nil]
    · have itself : [key x].removeAll (xs.map key) = [key x] :=
        List.filter_cons_of_pos (by simpa using present)
      rw [if_neg (mt List.mem_eraseDups.1 present), itself]
      rfl

/-- In a merged list every key occurs once. -/
theorem nodup_merge (laws : Laws key join P) {xs : List α} (all : ∀ a ∈ xs, P a) :
    ((merge key join xs).map key).Nodup := by
  induction xs using List.reverseRecOn with
  | nil => simp
  | append_singleton xs x ih =>
    have below := fun a mem => all a (List.mem_append_left [x] mem)
    rw [merge_concat, map_key_add laws (all x (by simp)) (forall_merge laws.closed below)]
    split
    · exact ih below
    · next absent =>
      refine List.nodup_append.2 ⟨ih below, by simp, ?_⟩
      intro k mem l single same
      subst same
      exact absent (List.mem_singleton.1 single ▸ mem)

/-- A list in which every key occurs once is merged already. -/
theorem merge_of_nodup {xs : List α} (nodup : (xs.map key).Nodup) : merge key join xs = xs := by
  have absent : ∀ (x : α) (xs : List α), key x ∉ xs.map key → add key join x xs = xs ++ [x] := by
    intro x xs
    induction xs with
    | nil => simp [add]
    | cons first rest ih =>
      intro absent
      rw [List.map_cons, List.mem_cons, not_or] at absent
      rw [add, if_neg (Ne.symm absent.1), ih absent.2, List.cons_append]
  induction xs using List.reverseRecOn with
  | nil => rfl
  | append_singleton xs x ih =>
    rw [List.map_append, List.nodup_append] at nodup
    rw [merge_concat, ih nodup.1]
    exact absent x xs fun mem => nodup.2.2 _ mem (key x) (by simp) rfl

/-! ## What stands under a key -/

theorem find?_add (laws : Laws key join P) {x : α} (holds : P x) {xs : List α}
    (all : ∀ a ∈ xs, P a) (k : κ) :
    (add key join x xs).find? (key · = k) =
      if key x = k then (xs.find? (key · = k)).merge join (some x)
      else xs.find? (key · = k) := by
  induction xs with
  | nil =>
    by_cases hit : key x = k <;> simp [add, hit]
  | cons first rest ih =>
    have here := all first List.mem_cons_self
    have below := ih fun a mem => all a (List.mem_cons_of_mem first mem)
    rw [add]
    by_cases same : key first = key x
    · have kept := laws.key_join here holds same
      by_cases hit : key x = k
      · simp [same, hit, kept]
      · simp [same, hit, kept]
    · rw [if_neg same]
      by_cases first_hit : key first = k
      · have miss : key x ≠ k := fun hit => same (first_hit.trans hit.symm)
        simp [first_hit, miss]
      · simpa [first_hit] using below

/-- Under a key stands what comes of joining the elements of that key in their order. -/
theorem find?_merge (laws : Laws key join P) {xs : List α} (all : ∀ a ∈ xs, P a) (k : κ) :
    (merge key join xs).find? (key · = k) = joinAll join (xs.filter (key · = k)) := by
  induction xs using List.reverseRecOn with
  | nil => rfl
  | append_singleton xs x ih =>
    have below := fun a mem => all a (List.mem_append_left [x] mem)
    rw [merge_concat, find?_add laws (all x (by simp)) (forall_merge laws.closed below), ih below,
      List.filter_append]
    by_cases hit : key x = k
    · rw [if_pos hit, ← joinAll_concat]
      simp [hit]
    · simp [hit]

/-- Where every key occurs once, the elements of a key are the one that is found. -/
theorem filter_eq_toList_find? {xs : List α} (nodup : (xs.map key).Nodup) (k : κ) :
    xs.filter (key · = k) = (xs.find? (key · = k)).toList := by
  induction xs with
  | nil => rfl
  | cons first rest ih =>
    rw [List.map_cons, List.nodup_cons] at nodup
    by_cases hit : key first = k
    · have absent : rest.filter (key · = k) = [] := by
        rw [List.filter_eq_nil_iff]
        intro a mem same
        exact nodup.1 (List.mem_map.2 ⟨a, mem, (of_decide_eq_true same).trans hit.symm⟩)
      simp [hit, absent]
    · simpa [hit] using ih nodup.2

theorem find?_of_mem {xs : List α} (nodup : (xs.map key).Nodup) {x : α} (mem : x ∈ xs) :
    xs.find? (key · = key x) = some x := by
  have kept : x ∈ xs.filter (key · = key x) := List.mem_filter.2 ⟨mem, decide_eq_true rfl⟩
  rw [filter_eq_toList_find? nodup] at kept
  exact Option.mem_toList.1 kept

/-! ## Merging in parts -/

/-- Elements of two keys may be added in either order, unless both are new. -/
theorem add_add_of_ne (laws : Laws key join P) {x y : α} (holds_x : P x) (holds_y : P y)
    (differ : key x ≠ key y) {xs : List α} (all : ∀ a ∈ xs, P a) (present : key x ∈ xs.map key) :
    add key join x (add key join y xs) = add key join y (add key join x xs) := by
  induction xs with
  | nil => simp at present
  | cons first rest ih =>
    have here := all first List.mem_cons_self
    by_cases same_x : key first = key x
    · have kept := laws.key_join here holds_x same_x
      have apart : key first ≠ key y := same_x ▸ differ
      have apart' : key (join first x) ≠ key y := kept ▸ apart
      rw [add, if_neg apart, add, if_pos same_x, add, if_pos same_x, add, if_neg apart']
    · have below : key x ∈ rest.map key := by
        rcases List.mem_cons.1 (List.map_cons ▸ present) with first_hit | later
        · exact absurd first_hit.symm same_x
        · exact later
      by_cases same_y : key first = key y
      · have kept := laws.key_join here holds_y same_y
        have apart : key (join first y) ≠ key x := kept ▸ same_x
        rw [add, if_pos same_y, add, if_neg apart, add, if_neg same_x, add, if_pos same_y]
      · rw [add, if_neg same_y, add, if_neg same_x, add, if_neg same_x, add, if_neg same_y]
        rw [ih (fun a mem => all a (List.mem_cons_of_mem first mem)) below]

/-- Adding what two elements of one key join to is adding one after the other. -/
theorem add_join (laws : Laws key join P)
    (assoc : ∀ {a b c}, P a → P b → P c → key a = key b → key b = key c →
      join (join a b) c = join a (join b c))
    {y z : α} (holds_y : P y) (holds_z : P z) (same : key y = key z) {xs : List α}
    (all : ∀ a ∈ xs, P a) :
    add key join (join y z) xs = add key join z (add key join y xs) := by
  have kept := laws.key_join holds_y holds_z same
  induction xs with
  | nil => simp [add, same]
  | cons first rest ih =>
    have here := all first List.mem_cons_self
    by_cases hit : key first = key y
    · have joined := (laws.key_join here holds_y hit).trans (hit.trans same)
      rw [add, if_pos (hit.trans kept.symm), add, if_pos hit, add, if_pos joined,
        assoc here holds_y holds_z hit same]
    · have miss : key first ≠ key (join y z) := kept ▸ hit
      have miss' : key first ≠ key z := same ▸ hit
      rw [add, if_neg miss, add, if_neg hit, add, if_neg miss',
        ih fun a mem => all a (List.mem_cons_of_mem first mem)]

/-- An element whose key is there already may be added before elements of other keys or after
them. -/
theorem foldl_add_of_notMem (laws : Laws key join P) {z : α} (holds : P z) {xs ys : List α}
    (all_xs : ∀ a ∈ xs, P a) (all_ys : ∀ a ∈ ys, P a) (present : key z ∈ xs.map key)
    (absent : key z ∉ ys.map key) :
    ys.foldl (fun merged x => add key join x merged) (add key join z xs) =
      add key join z (ys.foldl (fun merged x => add key join x merged) xs) := by
  induction ys generalizing xs with
  | nil => rfl
  | cons y rest ih =>
    have here := all_ys y List.mem_cons_self
    rw [List.map_cons, List.mem_cons, not_or] at absent
    rw [List.foldl_cons, List.foldl_cons, ← add_add_of_ne laws holds here absent.1 all_xs present]
    refine ih (forall_add laws.closed here all_xs)
      (fun a mem => all_ys a (List.mem_cons_of_mem y mem)) ?_ absent.2
    rw [map_key_add laws here all_xs]
    split
    · exact present
    · exact List.mem_append_left _ present

/-- What has been taken up into a list of different keys can be taken up afterwards as well. -/
theorem foldl_add_add (laws : Laws key join P)
    (assoc : ∀ {a b c}, P a → P b → P c → key a = key b → key b = key c →
      join (join a b) c = join a (join b c))
    {z : α} (holds : P z) {xs ys : List α} (all_xs : ∀ a ∈ xs, P a) (all_ys : ∀ a ∈ ys, P a)
    (nodup : (ys.map key).Nodup) :
    (add key join z ys).foldl (fun merged x => add key join x merged) xs =
      add key join z (ys.foldl (fun merged x => add key join x merged) xs) := by
  induction ys generalizing xs with
  | nil => rfl
  | cons y rest ih =>
    have here := all_ys y List.mem_cons_self
    have below := fun a mem => all_ys a (List.mem_cons_of_mem y mem)
    have grown := forall_add laws.closed here all_xs
    rw [List.map_cons, List.nodup_cons] at nodup
    rw [add]
    split
    · next same =>
      rw [List.foldl_cons, List.foldl_cons, add_join laws assoc here holds same all_xs]
      refine foldl_add_of_notMem laws holds grown below ?_ (same ▸ nodup.1)
      rw [map_key_add laws here all_xs, ← same]
      split
      · assumption
      · simp
    · rw [List.foldl_cons, List.foldl_cons]
      exact ih grown below nodup.2

/-- A list that has been merged counts as what it was merged from. -/
theorem merge_append_merge (laws : Laws key join P)
    (assoc : ∀ {a b c}, P a → P b → P c → key a = key b → key b = key c →
      join (join a b) c = join a (join b c))
    {xs ys : List α} (all_xs : ∀ a ∈ xs, P a) (all_ys : ∀ a ∈ ys, P a) :
    merge key join (xs ++ merge key join ys) = merge key join (xs ++ ys) := by
  induction ys using List.reverseRecOn with
  | nil => rfl
  | append_singleton ys y ih =>
    have below := fun a mem => all_ys a (List.mem_append_left [y] mem)
    rw [merge_concat, merge_append,
      foldl_add_add laws assoc (all_ys y (by simp)) (forall_merge laws.closed all_xs)
        (forall_merge laws.closed below) (nodup_merge laws below),
      ← merge_append, ih below, ← merge_concat, List.append_assoc]

/-- What a list merges to is all that counts where it is merged with others. -/
theorem merge_append_congr (laws : Laws key join P)
    (assoc : ∀ {a b c}, P a → P b → P c → key a = key b → key b = key c →
      join (join a b) c = join a (join b c))
    {xs xs' ys ys' : List α} (all_xs : ∀ a ∈ xs, P a) (all_xs' : ∀ a ∈ xs', P a)
    (all_ys : ∀ a ∈ ys, P a) (all_ys' : ∀ a ∈ ys', P a)
    (left : merge key join xs = merge key join xs')
    (right : merge key join ys = merge key join ys') :
    merge key join (xs ++ ys) = merge key join (xs' ++ ys') := by
  calc merge key join (xs ++ ys)
      = merge key join (xs ++ merge key join ys) :=
        (merge_append_merge laws assoc all_xs all_ys).symm
    _ = merge key join (xs' ++ merge key join ys') := by
        rw [merge_append, merge_append, left, right]
    _ = merge key join (xs' ++ ys') := merge_append_merge laws assoc all_xs' all_ys'

/-- Merging in other terms: what is mapped is merged as its images are. -/
theorem map_merge (laws : Laws key join P) {key' : β → κ} {join' : β → β → β} (f : α → β)
    (key_map : ∀ {a}, P a → key' (f a) = key a)
    (map_join : ∀ {a b}, P a → P b → key a = key b → f (join a b) = join' (f a) (f b))
    {xs : List α} (all : ∀ a ∈ xs, P a) :
    (merge key join xs).map f = merge key' join' (xs.map f) := by
  have map_add : ∀ {x : α}, P x → ∀ xs : List α, (∀ a ∈ xs, P a) →
      (add key join x xs).map f = add key' join' (f x) (xs.map f) := by
    intro x holds xs
    induction xs with
    | nil => intro _; rfl
    | cons first rest ih =>
      intro all
      have here := all first List.mem_cons_self
      have below := ih fun a mem => all a (List.mem_cons_of_mem first mem)
      rw [List.map_cons, add, add, key_map here, key_map holds]
      split
      · next same => rw [List.map_cons, map_join here holds same]
      · rw [List.map_cons, below]
  induction xs using List.reverseRecOn with
  | nil => rfl
  | append_singleton xs x ih =>
    have below := fun a mem => all a (List.mem_append_left [x] mem)
    rw [merge_concat, map_add (all x (by simp)) _ (forall_merge laws.closed below), ih below,
      List.map_append, List.map_singleton, merge_concat]

end

end JvmClasspath.Keyed
