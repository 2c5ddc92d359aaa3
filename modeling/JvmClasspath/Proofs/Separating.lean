import JvmClasspath.Proofs.Addressing
import JvmClasspath.Proofs.Loading

/-!
# Components given as lists

A manifest may give a component as a list of locations. The manifest keeps it as one text, with a
colon or, in a codebase, a space between the items; whoever needs the locations cuts the text again.
Joining and cutting lie in different places, and each is the inverse of the other: the locations are
the items, in their order, repeated and empty ones included.

This asks that the items can be told apart, so none of them holds what stands between two. Of a
codebase, which is cut at single spaces but freed of blanks at its ends and of empty pieces, it asks
that no item is empty or holds a blank.
-/

namespace JvmClasspath

theorem Components.get_set_of_ne {setting other : Setting} (differs : other ≠ setting)
    (c : Components) (text : String) : (c.set setting text).get other = c.get other := by
  cases setting <;> cases other <;> first | rfl | exact absurd rfl differs

/-- The locations of a component, as whoever needs them cuts it. -/
def Setting.locationsOf : Setting → String → List String
  | .codebase => Assembly.codebaseTokens
  | _ => Expansion.locations

/-- Whether a component can be given as a list of these items. -/
def Setting.Lists : Setting → List String → Prop
  | .codebase, items =>
    items ≠ [] ∧ ∀ item ∈ items, item ≠ "" ∧ ∀ c ∈ item.toList, Text.isBlank c = false
  | _, items => items ≠ [] ∧ ∀ item ∈ items, ':' ∉ item.toList

namespace Manifest

/-! ## What is given is kept -/

theorem get_give_of_ne {setting other : Setting} (differs : other ≠ setting) (given : Given)
    (manifest : Manifest) :
    (manifest.give (setting, given)).components.get other = manifest.components.get other := by
  cases given with
  | other => rfl
  | text text =>
    cases setting with
    | baseDirectory => rfl
    | _ => exact Components.get_set_of_ne differs _ _

theorem get_give_self {setting : Setting} (component : setting ≠ .baseDirectory) (text : String)
    (manifest : Manifest) :
    (manifest.give (setting, .text text)).components.get setting = text := by
  cases setting with
  | baseDirectory => exact absurd rfl component
  | _ => rfl

/-- Settings that are given leave one that is not as it was. -/
theorem get_foldl_give_of_notMem {setting : Setting} {given : List (Setting × Given)}
    (absent : setting ∉ given.map Prod.fst) (manifest : Manifest) :
    (given.foldl give manifest).components.get setting = manifest.components.get setting := by
  induction given generalizing manifest with
  | nil => rfl
  | cons first rest ih =>
    rw [List.map_cons, List.mem_cons, not_or] at absent
    rw [List.foldl_cons, ih absent.2, get_give_of_ne absent.1]

/-- Of settings that are given once each, every component is kept. -/
theorem get_foldl_give {setting : Setting} {text : String} {given : List (Setting × Given)}
    (once : (given.map Prod.fst).Nodup) (component : setting ≠ .baseDirectory)
    (mem : (setting, .text text) ∈ given) (manifest : Manifest) :
    (given.foldl give manifest).components.get setting = text := by
  induction given generalizing manifest with
  | nil => cases mem
  | cons first rest ih =>
    rw [List.map_cons, List.nodup_cons] at once
    rw [List.foldl_cons]
    rcases List.mem_cons.1 mem with rfl | below
    · rw [get_foldl_give_of_notMem once.1, get_give_self component]
    · exact ih once.2 below _

variable {files : FileSystem} {path : Path} {table : Entries} {manifest : Manifest}

theorem mem_givenOf_iff {setting : Setting} {given : Given} :
    (setting, given) ∈ givenOf table ↔
      setting ∈ Setting.components ∧ heldFor table setting = some given := by
  simp only [givenOf, List.mem_filterMap, Option.map_eq_some_iff, Prod.mk.injEq]
  constructor
  · rintro ⟨_, mem, _, held, rfl, rfl⟩
    exact ⟨mem, held⟩
  · rintro ⟨mem, held⟩
    exact ⟨setting, mem, given, held, rfl, rfl⟩

/-- No component is given twice. -/
theorem nodup_givenOf (table : Entries) : ((givenOf table).map Prod.fst).Nodup := by
  rw [givenOf, List.map_filterMap]
  refine List.Nodup.filterMap ?_ (by decide)
  intro setting other key here there
  simp only [Option.map_map, Option.mem_def, Option.map_eq_some_iff, Function.comp_apply]
    at here there
  obtain ⟨_, -, rfl⟩ := here
  obtain ⟨_, -, rfl⟩ := there
  rfl

theorem Gives.unique {table' : Entries} (gives : Gives files path table)
    (gives' : Gives files path table') : table = table' := by
  obtain ⟨⟨opened, decoded⟩, parsed, tabled⟩ := gives
  obtain ⟨⟨opened', decoded'⟩, parsed', tabled'⟩ := gives'
  cases opened.symm.trans opened'
  cases decoded.symm.trans decoded'
  cases parsed.symm.trans parsed'
  exact Except.ok.inj (tabled.symm.trans tabled')

theorem exists_load_iff_of_gives (gives : Gives files path table) :
    (∃ manifest, load files path = .ok manifest) ↔ Loadable table := by
  have existing : files.isExisting path = .ok true := by
    obtain ⟨⟨opened, -⟩, -, -⟩ := gives
    exact isExisting_of_read opened
  rw [exists_load_iff existing]
  constructor
  · rintro ⟨table', gives', loadable⟩
    rwa [gives.unique gives']
  · intro loadable
    exact ⟨table, gives, loadable⟩

/-- A component of a manifest that was loaded is the text that it is taken for. -/
theorem get_of_load (gives : Gives files path table) (loaded : load files path = .ok manifest)
    {setting : Setting} (component : setting ∈ Setting.components) {text : String}
    (held : heldFor table setting = some (.text text)) :
    manifest.components.get setting = text := by
  have loadable : Loadable table := (exists_load_iff_of_gives gives).1 ⟨manifest, loaded⟩
  obtain ⟨base, made⟩ := ofTable_of_loadable path loadable
  rw [load_of_gives gives, made] at loaded
  cases loaded
  -- The base directory was put in last and is no component, so the components are as given.
  have settled : setting ≠ .baseDirectory := by
    rintro rfl
    exact absurd component (by decide)
  exact get_foldl_give (nodup_givenOf table) settled (mem_givenOf_iff.2 ⟨component, held⟩) empty

/-! ## Joining and cutting -/

theorem map_plain_text (items : List String) :
    (items.map Toml.Value.text).map Toml.Value.plain = items := by
  rw [List.map_map]
  exact List.map_id items

/-- What is joined to a class path string comes back exactly if no item holds a colon and there is
an item at all. -/
theorem locations_join_iff {items : List String} :
    Expansion.locations (Text.join ':' items) = items ↔
      items ≠ [] ∧ ∀ item ∈ items, ':' ∉ item.toList := by
  constructor
  · intro same
    refine ⟨?_, ?_⟩
    · rintro rfl
      cases same
    · intro item mem
      rw [← same] at mem
      exact Text.separator_notMem_of_mem_split mem
  · rintro ⟨nonempty, absent⟩
    exact Text.split_join nonempty absent

theorem locationsOf_join {setting : Setting} {items : List String}
    (lists : setting.Lists items) :
    setting.locationsOf (Text.join (separator setting) items) = items := by
  cases setting with
  | codebase =>
    obtain ⟨-, fine⟩ := lists
    exact Assembly.codebaseTokens_join (fun item mem => (fine item mem).1)
      (fun item mem => (fine item mem).2)
  | _ => exact locations_join_iff.2 lists

/-- Whether a value is made of texts alone: one, or a list of them. -/
def IsSpelled (value : Toml.Value) : Prop :=
  (∃ text, value = .text text) ∨ ∃ items : List String, value = .array (items.map .text)

theorem areWritable_texts (items : List String) :
    Toml.Value.areWritable (items.map .text) = true := by
  induction items with
  | nil => rfl
  | cons item rest ih => exact ih

/-- Components that are spelled out have nothing wrong with them. -/
theorem loadable_of_spelled (based : HasBase table)
    (spelled : ∀ setting ∈ Setting.components, ∀ value, table.lookup setting.key = some value →
      IsSpelled value) : Loadable table := by
  refine ⟨?_, based, ?_⟩
  · intro setting component items found
    obtain ⟨text, same⟩ | ⟨texts, same⟩ := spelled setting component _ found
    · cases same
    · cases same
      exact areWritable_texts texts
  · rw [strays, List.filter_eq_nil_iff]
    intro setting component stray
    obtain ⟨value, found, taken⟩ := Option.map_eq_some_iff.1 (of_decide_eq_true stray)
    obtain ⟨text, rfl⟩ | ⟨texts, rfl⟩ := spelled setting component value found
    · cases taken
    · cases taken

/-- A manifest whose components are texts or lists of texts is loaded, and so is any other of whose
table one can be made. Then each component that is given as a list, its items such that they can be
told apart, has these items for its locations. -/
theorem locations_of_load (gives : Gives files path table) :
    ((∀ setting ∈ Setting.components, ∀ value, table.lookup setting.key = some value →
      IsSpelled value) → HasBase table → ∃ manifest, load files path = .ok manifest) ∧
    ((∃ manifest, load files path = .ok manifest) ↔ Loadable table) ∧
    ∀ manifest, load files path = .ok manifest → ∀ setting ∈ Setting.components, ∀ items,
      table.lookup setting.key = some (.array (items.map .text)) → setting.Lists items →
      setting.locationsOf (manifest.components.get setting) = items := by
  refine ⟨?_, exists_load_iff_of_gives gives, ?_⟩
  · intro spelled based
    exact (exists_load_iff_of_gives gives).2 (loadable_of_spelled based spelled)
  intro manifest loaded setting component items found lists
  have held : heldFor table setting = some (.text (Text.join (separator setting) items)) := by
    rw [heldFor, found, Option.map_some, takenFor, map_plain_text]
  rw [get_of_load gives loaded component held]
  exact locationsOf_join lists

/-- The text of a manifest with two lists, one of them with an item twice and an empty one. -/
def doubledText : String :=
  "[classpath]\nuser = [\"lib/*\", \"\", \"lib/*\"]\ncodebase = [\"file:///b\", \"file:///a\"]\n"

def doubled : FileSystem := .ofEntries [(["m.toml"], .file (.bytes (Utf8.encode doubledText)))]

def doubledTable : Entries :=
  [("user", .array [.text "lib/*", .text "", .text "lib/*"]),
    ("codebase", .array [.text "file:///b", .text "file:///a"])]

/-- A location that is given twice is there twice, and an empty one between them is not lost. -/
theorem locations_of_load_doubled :
    Gives doubled (Path.ofString "/m.toml") doubledTable ∧
      ∃ manifest, load doubled (Path.ofString "/m.toml") = .ok manifest ∧
        Expansion.locations manifest.components.user = ["lib/*", "", "lib/*"] ∧
        Assembly.codebaseTokens manifest.components.codebase = ["file:///b", "file:///a"] := by
  have opened : doubled.read (Path.ofString "/m.toml") =
      .ok (.bytes (Utf8.encode doubledText)) := rfl
  have parsed : Toml.parse doubledText = .ok [("classpath", .table doubledTable)] := by cbv
  have gives : Gives doubled (Path.ofString "/m.toml") doubledTable :=
    ⟨⟨opened, Utf8.decode?_encode doubledText⟩, parsed, rfl⟩
  obtain ⟨loads, -, kept⟩ := locations_of_load gives
  have based : HasBase doubledTable := by
    have unnamed : doubledTable.lookup Setting.baseDirectory.key = none := rfl
    simp [HasBase, unnamed]
  have spelled : ∀ setting ∈ Setting.components, ∀ value,
      doubledTable.lookup setting.key = some value → IsSpelled value := by
    intro setting _ value found
    cases setting with
    | user => exact .inr ⟨["lib/*", "", "lib/*"], (Option.some.inj found).symm⟩
    | codebase => exact .inr ⟨["file:///b", "file:///a"], (Option.some.inj found).symm⟩
    | _ => cases found
  obtain ⟨manifest, loaded⟩ := loads spelled based
  refine ⟨gives, manifest, loaded, ?_, ?_⟩
  · exact kept manifest loaded .user (by decide) _ rfl ⟨by decide, by decide⟩
  · exact kept manifest loaded .codebase (by decide) _ rfl ⟨by decide, by simp [Text.isBlank]⟩

end Manifest

end JvmClasspath
