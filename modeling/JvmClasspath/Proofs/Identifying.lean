import JvmClasspath.Proofs.Opened
import JvmClasspath.Proofs.Indexing

/-!
# What identifies the files of an archive

A directory inside an archive keeps its children under their names, and a file has neither its name
nor its display path stored: both are told anew from the member path, which for a directory is put
together on the way down and for a file is whatever the archive spells.

They agree all the same. The children of a directory come in the order of their names, each has the
name that it is kept under, and a look-up by name finds what is kept there. And what is displayed
leads back to one place: the components of a member path are the names on the way to it, however it
is spelled.
-/

namespace JvmClasspath

namespace File

/-! ## Children by name -/

/-- The children of a directory inside an archive, each with the name that it is kept under. -/
def keyed : File → List (String × File)
  | plain _ => []
  | archive a => a.children.map fun child => (child.1, ofTree a "" child)
  | folder a member children => children.map fun child => (child.1, ofTree a member child)
  | entry .. => []

/-- Whether the children of a directory are those that it keeps, in the order of their names, each
under its own name, and are found by it. -/
structure Orderly (files : FileSystem) (directory : File) : Prop where
  children : directory.children files = .ok (directory.keyed.map Prod.snd)
  ascending : (directory.keyed.map fun child => child.2.name).Pairwise (· < ·)
  named : ∀ child ∈ directory.keyed, child.2.name = child.1
  found : ∀ name child,
    directory.lookup? files name = .ok (some child) ↔ (name, child) ∈ directory.keyed
  absent : ∀ name,
    directory.lookup? files name = .ok none ↔ ∀ child, (name, child) ∉ directory.keyed

/-- The first child of a name is the one that is kept under it. -/
theorem find?_name {kept : List (String × File)} (named : ∀ child ∈ kept, child.2.name = child.1)
    (name : String) : (kept.map Prod.snd).find? (·.name = name) = kept.lookup name := by
  induction kept with
  | nil => rfl
  | cons child rest ih =>
    obtain ⟨key, file⟩ := child
    have here : file.name = key := named _ List.mem_cons_self
    have below := ih fun child mem => named child (List.mem_cons_of_mem _ mem)
    rw [List.map_cons, List.find?_cons, Archive.lookup_cons_ite, here, below]
    by_cases same : name = key
    · simp [same]
    · simp [same, Ne.symm same]

/-- A directory is orderly if it keeps its children under their names, in ascending order. -/
theorem orderly_of_keyed {files : FileSystem} {directory : File}
    (children : directory.children files = .ok (directory.keyed.map Prod.snd))
    (ascending : (directory.keyed.map Prod.fst).Pairwise (· < ·))
    (named : ∀ child ∈ directory.keyed, child.2.name = child.1) : directory.Orderly files := by
  have names : directory.keyed.map (fun child => child.2.name) = directory.keyed.map Prod.fst :=
    List.map_congr_left named
  have looked : ∀ name, directory.lookup? files name = .ok (directory.keyed.lookup name) := by
    intro name
    rw [lookup?, children, ← find?_name named]
    rfl
  have found : ∀ name child,
      directory.keyed.lookup name = some child ↔ (name, child) ∈ directory.keyed :=
    fun name child => ⟨Archive.mem_of_lookup, fun mem => Archive.lookup_of_mem ascending mem⟩
  refine ⟨children, names ▸ ascending, named, ?_, ?_⟩
  · intro name child
    rw [looked, Except.ok.injEq, found]
  · intro name
    rw [looked, Except.ok.injEq, Option.eq_none_iff_forall_ne_some]
    simp only [ne_eq, found]

/-- What a sound tree shows is orderly. -/
theorem orderly_of_sound {files : FileSystem} {file : File} (sound : file.Sound)
    (inArchive : ∀ path, file ≠ .plain path) : file.Orderly files := by
  cases file with
  | plain path => exact absurd rfl (inArchive path)
  | archive a =>
    apply orderly_of_keyed
    · simp [children, keyed, Function.comp_def]
    · simpa [keyed, Function.comp_def] using sound.ascending
    · rw [keyed, List.forall_mem_map]
      exact fun child mem => (ofTree_sound (.inl rfl) sound mem).2
  | folder a member inner =>
    obtain ⟨spelled, sound⟩ := sound
    apply orderly_of_keyed
    · simp [children, keyed, Function.comp_def]
    · simpa [keyed, Function.comp_def] using sound.ascending
    · rw [keyed, List.forall_mem_map]
      exact fun child mem => (ofTree_sound (.inr spelled) sound mem).2
  | entry a member =>
    exact orderly_of_keyed rfl .nil fun child mem => by cases mem

/-- What a directory inside an archive holds lies in the archive. -/
theorem inArchive_children {files : FileSystem} {directory : File} {children : List File}
    (inArchive : ∀ path, directory ≠ .plain path) (listed : directory.children files = .ok children)
    (child : File) (mem : child ∈ children) (path : Path) : child ≠ .plain path := by
  have below : ∀ {archive above trees}, child ∈ List.map (ofTree archive above) trees →
      child ≠ .plain path := by
    intro archive above trees mem
    obtain ⟨⟨name, tree⟩, -, rfl⟩ := List.mem_map.1 mem
    cases tree <;> nofun
  cases directory with
  | plain path => exact absurd rfl (inArchive path)
  | archive a =>
    cases listed
    exact below mem
  | folder a member inner =>
    cases listed
    exact below mem
  | entry a member =>
    cases listed
    cases mem

end File

namespace Archive

variable {files : FileSystem} {archive : Archive} {members : List Member} {path : List String}

theorem Holds.orderly (indexed : archive.children = index members) (files : FileSystem)
    {file : File} (held : archive.Holds path file) : file.Orderly files := by
  suffices file.Sound ∧ ∀ place, file ≠ .plain place from File.orderly_of_sound this.1 this.2
  have sound : (Tree.directory archive.children).Sound := indexed ▸ sound_index members
  induction held with
  | root => exact ⟨sound, nofun⟩
  | inside held listed mem ih =>
    obtain ⟨sound, inArchive⟩ := ih
    exact ⟨(sound.children listed).1 _ mem, File.inArchive_children inArchive listed _ mem⟩

/-! ## Display paths -/

theorem folderPath_cons (name : String) (rest : List String) :
    folderPath (name :: rest) = name ++ "/" ++ folderPath rest := by
  have onward : ∀ (above : String) (rest : List String),
      rest.foldl (fun above name => above ++ name ++ "/") above = above ++ folderPath rest := by
    intro above rest
    induction rest generalizing above with
    | nil => simp [folderPath]
    | cons next rest ih =>
      rw [folderPath, List.foldl_cons, List.foldl_cons, ih, ih ("" ++ next ++ "/")]
      simp [String.append_assoc]
  rw [folderPath, List.foldl_cons, onward]
  simp

/-- A component in front of a path, with a slash behind it, is its first one. -/
theorem components_cons {name : String} (component : IsComponent name) (rest : String) :
    components (name ++ "/" ++ rest) = name :: components rest := by
  have spelled : (name ++ "/" ++ rest).toList = name.toList ++ '/' :: rest.toList := by simp
  rw [components, Text.split, spelled, Text.pieces_append, Text.pieces_of_notMem component.2,
    List.map_append, List.filter_append]
  simp [components, Text.split, component.1]

/-- The components of the member path of a directory are the names on the way to it. -/
theorem components_folderPath (valid : ∀ name ∈ path, IsComponent name) :
    components (folderPath path) = path := by
  induction path with
  | nil => rfl
  | cons name rest ih =>
    rw [folderPath_cons, components_cons (valid name List.mem_cons_self),
      ih fun other mem => valid other (List.mem_cons_of_mem name mem)]

/-- The names on the way to what a display path names, read off the part of it behind the location
of the archive and two more characters. -/
def namesIn (archive : Archive) (display : String) : List String :=
  components (String.ofList (display.toList.drop (archive.location.toList.length + 2)))

theorem namesIn_append (archive : Archive) (spelling : String) :
    archive.namesIn (archive.location ++ "!/" ++ spelling) = components spelling := by
  have spelled : (archive.location ++ "!/" ++ spelling).toList =
      (archive.location.toList ++ ['!', '/']) ++ spelling.toList := by simp
  rw [namesIn, spelled, List.drop_left' (by simp), String.ofList_toList]

/-- What is displayed leads back to the place where it was met. -/
theorem Holds.namesIn_display (indexed : archive.children = index members) {file : File}
    (held : archive.Holds path file) : archive.namesIn file.display = path := by
  by_cases root : path = []
  · subst root
    obtain ⟨tree, found, rfl⟩ := (holds_iff indexed).1 held
    cases found
    have nothing : archive.location.toList.drop (archive.location.toList.length + 2) = [] :=
      List.drop_eq_nil_of_le (Nat.le_add_right _ 2)
    rw [fileAt, File.display, namesIn, nothing]
    rfl
  · obtain ⟨name, rest, rfl⟩ := List.exists_cons_of_ne_nil root
    have shows : ∀ {directory}, file.isDirectory .empty = .ok directory →
        archive.Shows .empty (name :: rest) directory := fun kind => ⟨file, held, kind⟩
    obtain ⟨tree, found, rfl⟩ := (holds_iff indexed).1 held
    cases tree with
    | file spelling =>
      obtain ⟨-, member, last, rfl⟩ := lastFile?_of_at? found
      exact (namesIn_append archive _).trans (mem_of_lastFile? last).2.1
    | directory inner =>
      -- The directory lies on the path of some member, whose components are names.
      obtain ⟨member, -, onPath, -⟩ :=
        (describesDirectory_iff root).1 ((shows_directory_iff indexed).1 (shows rfl))
      have valid : ∀ other ∈ name :: rest, IsComponent other :=
        fun other mem => isComponent_of_mem (onPath.subset mem)
      exact (namesIn_append archive _).trans (components_folderPath valid)

/-- Every directory of an archive has its children in the order of their names, each under its own
name and found by it, and two places in the archive never have one display path. -/
theorem orderly_and_identified (indexed : archive.children = index members) (files : FileSystem) :
    (∀ path file, archive.Holds path file → file.Orderly files) ∧
    ∀ path path' file file', archive.Holds path file → archive.Holds path' file' →
      (file.display = file'.display ↔ path = path') := by
  refine ⟨fun _ _ held => held.orderly indexed files, ?_⟩
  intro path path' file file' held held'
  constructor
  · intro same
    rw [← held.namesIn_display indexed, same, held'.namesIn_display indexed]
  · rintro rfl
    obtain ⟨tree, found, rfl⟩ := (holds_iff indexed).1 held
    obtain ⟨tree', found', rfl⟩ := (holds_iff indexed).1 held'
    rw [Option.some.inj (found.symm.trans found')]

/-- Where two files of one path and a directory beside a file of its name were among the members,
every place that is left has a display path of its own. -/
theorem orderly_and_identified_muddled :
    (muddled muddledMembers).children = index muddledMembers ∧
      (File.archive (muddled muddledMembers)).Orderly .empty ∧
      (muddled muddledMembers).Holds ["a", "b"] (.entry (muddled muddledMembers) "a//b") ∧
      (∃ folder, (muddled muddledMembers).Holds ["a"] folder ∧ folder.display = "a.jar!/a/" ∧
        folder.lookup? .empty "b" = .ok (some (.entry (muddled muddledMembers) "a//b")) ∧
        folder.lookup? .empty "a//b" = .ok none ∧
        folder.display ≠ (File.entry (muddled muddledMembers) "a//b").display) := by
  have indexed : (muddled muddledMembers).children = index muddledMembers := rfl
  obtain ⟨orderly, identified⟩ := orderly_and_identified indexed .empty
  have held : (muddled muddledMembers).Holds ["a", "b"] (.entry (muddled muddledMembers) "a//b") :=
    (holds_iff indexed).2 ⟨.file "a//b", by decide +kernel, rfl⟩
  have above : (muddled muddledMembers).Holds ["a"]
      (.folder (muddled muddledMembers) "a/" [("b", .file "a//b")]) :=
    (holds_iff indexed).2 ⟨.directory [("b", .file "a//b")], by decide +kernel, rfl⟩
  refine ⟨indexed, orderly _ _ .root, held, _, above, rfl, ?_, ?_, ?_⟩
  · exact ((orderly _ _ above).found _ _).2 List.mem_cons_self
  · exact ((orderly _ _ above).absent _).2 (by simp [File.keyed])
  · intro same
    exact absurd ((identified _ _ _ _ above held).1 same) (by decide)

end Archive

end JvmClasspath
