import JvmClasspath.Proofs.Mirroring
import Mathlib.Data.List.Infix

/-!
# Unpacked archives

An archive can be unpacked into a directory: each directory of the archive becomes a directory, and
each file is written with the bytes of the last member of its path. Seen as files, the archive and
the directory mirror each other, although one is a tree that was indexed member by member and the
other is listed and read through the file system. So a package over one holds what a package over
the other holds.

This takes a directory that can be read and searched, and paths that stay below the length that the
file system takes. A file that has been stored under a longer path, or in a directory that may not
be searched, is listed but cannot be asked for, and an archive knows no such limits.
-/

namespace JvmClasspath

open Archive

/-! ## Following names down -/

namespace FileSystem

variable {files : FileSystem}

theorem walk_append (place names others : List String) :
    files.walk place (names ++ others) =
      files.walk place names >>= fun here => files.walk here others := by
  induction names generalizing place with
  | nil => rfl
  | cons name rest ih =>
    rw [List.cons_append, walk, walk]
    split
    · rfl
    · rfl
    · split
      · rfl
      · split
        · exact ih _
        · split
          · rfl
          · exact ih _

/-- Plain names lead down through directories that may be searched. -/
theorem walk_eq_ok {place path : List String}
    (plain : ∀ name ∈ path, name ≠ ".." ∧ name.utf8ByteSize ≤ nameLimit)
    (directories : ∀ front name, front ++ [name] <+: path →
      files.entryAt? (place ++ front) = some .directory)
    (searched : ∀ front, place ++ front ∉ files.sealed) :
    files.walk place path = .ok (place ++ path) := by
  induction path generalizing place with
  | nil => rw [walk, List.append_nil]
  | cons name rest ih =>
    have here : files.entryAt? place = some .directory := by
      simpa using directories [] name (by simp)
    have open_here : place ∉ files.sealed := by simpa using searched []
    rcases plain name List.mem_cons_self with ⟨down, short⟩
    rw [walk, here]
    simp only [if_neg open_here, if_neg down, if_neg (Nat.not_lt.2 short)]
    rw [ih (fun other mem => plain other (List.mem_cons_of_mem name mem)), List.append_assoc,
      List.singleton_append]
    · intro front other below
      have deeper := directories (name :: front) other (by simpa using below)
      rwa [List.append_assoc, List.singleton_append]
    · intro front
      simpa using searched (name :: front)

/-- A path that is short enough leads where its names lead. The dot is looked up in the directory
that it stands for, so this one must be searched. -/
theorem resolve_of_walk {path : Path} {place : List String}
    (short : path.toString.utf8ByteSize < pathLimit)
    (walked : files.walk (files.start path) path.names = .ok place)
    (searched : path = .current → place ∉ files.sealed) :
    files.resolve path = match files.entryAt? place with
      | some entry => .ok (place, entry)
      | none => .error .notFound := by
  rw [resolve, if_neg (Nat.not_le.2 short), walked]
  exact if_neg fun dot => searched dot.1 dot.2

section

variable {path : Path} {place : List String} (valid : path.hasNull = false)
include valid

theorem isDirectory_eq_ok {entry : Entry} (leads : files.resolve path = .ok (place, entry)) :
    files.isDirectory path = .ok (entry == .directory) := by
  rw [isDirectory, lookUp, valid, leads]
  rfl

/-- A path that is too long is refused, whatever it leads to. -/
theorem isDirectory_of_long (long : pathLimit ≤ path.toString.utf8ByteSize) :
    files.isDirectory path = .error (.system .nameTooLong path.toString) := by
  have refused : files.resolve path = .error .nameTooLong := if_pos long
  rw [isDirectory, lookUp, valid, refused]
  rfl

theorem list_eq_ok_namesIn (leads : files.resolve path = .ok (place, .directory))
    (readable : place ∉ files.forbidden) : files.list path = .ok (files.namesIn place) := by
  rw [list, valid, leads]
  exact if_neg readable

theorem read_eq_ok {content : Content} (leads : files.resolve path = .ok (place, .file content))
    (readable : place ∉ files.forbidden) : files.read path = .ok content := by
  rw [read, valid, leads]
  exact if_neg readable

end

end FileSystem

/-- The path of what lies further down. -/
def Path.descend (path : Path) (names : List String) : Path :=
  { path with names := path.names ++ names }

@[simp] theorem Path.descend_nil (path : Path) : path.descend [] = path := by
  simp [descend]

theorem Path.child_descend (path : Path) (names : List String) (name : String) :
    (path.descend names).child name = path.descend (names ++ [name]) := by
  simp [descend, child]

/-! ## What is unpacked -/

/-- The bytes of a file; a directory has none. -/
def Entry.bytes? : Entry → Option (List UInt8)
  | .directory => none
  | .file content => some content.data

/-- Whether a file system can store something under this name. -/
def IsStorable (name : String) : Prop :=
  name ≠ "." ∧ name ≠ ".." ∧ name.utf8ByteSize ≤ FileSystem.nameLimit ∧ '\x00' ∉ name.toList

instance (name : String) : Decidable (IsStorable name) := inferInstanceAs (Decidable (_ ∧ _))

/-- Whether below a place there is what members are unpacked to, and nothing else: a directory
wherever some member is one or lies further down, and elsewhere the last file of each path. -/
def HoldsUnpacked (files : FileSystem) (members : List Member) (place : List String) : Prop :=
  ∀ path, path ≠ [] → (files.entryAt? (place ++ path)).map Entry.bytes? =
    if HasDirectory members path then some none
    else (lastFile? members path).map fun member => some member.data

/-- Whether a path leads to a directory that holds the unpacked members of an archive. -/
structure Unpacked (files : FileSystem) (members : List Member) (root : Path)
    (place : List String) : Prop where
  leads : files.resolve root = .ok (place, .directory)
  valid : root.hasNull = false
  storable : ∀ member ∈ members, ∀ name ∈ components member.name, IsStorable name
  holds : HoldsUnpacked files members place

/-- Whether everything in a directory can be asked for: it may be read and searched, and its path is
not too long. -/
structure Askable (files : FileSystem) (root : Path) (place : List String) : Prop where
  readable : ∀ path, place ++ path ∉ files.forbidden
  searchable : ∀ path, place ++ path ∉ files.sealed
  short : ∀ path, files.entryAt? (place ++ path) ≠ none →
    (root.descend path).toString.utf8ByteSize < FileSystem.pathLimit

/-! ## Deciding what is unpacked -/

section

variable {files : FileSystem} {members : List Member} {root : Path} {place path : List String}

/-- The paths at which something stands below a place, or which members lead through. -/
def mentioned (files : FileSystem) (members : List Member) (place : List String) :
    List (List String) :=
  (files.entries.filter fun entry => place <+: entry.1).map (·.1.drop place.length) ++
    members.flatMap fun member => (components member.name).inits

theorem mem_mentioned_of_entry (present : files.entryAt? (place ++ path) ≠ none)
    (below : path ≠ []) : path ∈ mentioned files members place := by
  rcases Option.ne_none_iff_exists'.1 present with ⟨entry, found⟩
  rw [FileSystem.entryAt?, if_neg (by simp [below])] at found
  rcases List.lookup_eq_some_iff.1 found with ⟨before, after, spelled, -⟩
  refine List.mem_append_left _ (List.mem_map.2 ⟨(place ++ path, entry), ?_, by simp⟩)
  simp [spelled]

theorem mem_mentioned_of_member {member : Member} (mem : member ∈ members)
    (onPath : path <+: components member.name) : path ∈ mentioned files members place :=
  List.mem_append_right _ (List.mem_flatMap.2 ⟨member, mem, (List.mem_inits path _).2 onPath⟩)

/-- Only the mentioned paths need to be looked at. -/
theorem holdsUnpacked_iff : HoldsUnpacked files members place ↔
    ∀ path ∈ mentioned files members place, path ≠ [] →
      (files.entryAt? (place ++ path)).map Entry.bytes? =
        if HasDirectory members path then some none
        else (lastFile? members path).map fun member => some member.data := by
  constructor
  · intro holds path _
    exact holds path
  · intro holds path below
    by_cases mem : path ∈ mentioned files members place
    · exact holds path mem below
    · have absent : files.entryAt? (place ++ path) = none :=
        Decidable.not_not.1 fun present => mem (mem_mentioned_of_entry present below)
      have noDirectory : ¬HasDirectory members path := by
        intro given
        rcases given with ⟨member, inMembers, onPath, -⟩
        exact mem (mem_mentioned_of_member inMembers onPath)
      have noFile : lastFile? members path = none := by
        rw [Option.eq_none_iff_forall_ne_some]
        intro member last
        rcases mem_of_lastFile? last with ⟨inMembers, here, -⟩
        exact mem (mem_mentioned_of_member inMembers (here ▸ List.prefix_refl _))
      rw [absent, if_neg noDirectory, noFile]
      rfl

instance : Decidable (HoldsUnpacked files members place) := decidable_of_iff' _ holdsUnpacked_iff

instance : Decidable (Unpacked files members root place) :=
  decidable_of_iff
    (files.resolve root = .ok (place, .directory) ∧ root.hasNull = false ∧
      (∀ member ∈ members, ∀ name ∈ components member.name, IsStorable name) ∧
      HoldsUnpacked files members place)
    ⟨fun ⟨leads, valid, storable, holds⟩ => ⟨leads, valid, storable, holds⟩,
      fun unpacked => ⟨unpacked.leads, unpacked.valid, unpacked.storable, unpacked.holds⟩⟩

instance : Decidable (Askable files root place) :=
  decidable_of_iff
    ((∀ other ∈ files.forbidden, ¬place <+: other) ∧ (∀ other ∈ files.sealed, ¬place <+: other) ∧
      ∀ path ∈ [] :: mentioned files [] place, files.entryAt? (place ++ path) ≠ none →
        (root.descend path).toString.utf8ByteSize < FileSystem.pathLimit)
    (by
      constructor
      · intro given
        rcases given with ⟨readable, searchable, short⟩
        refine ⟨fun path mem => readable _ mem (List.prefix_append place path),
          fun path mem => searchable _ mem (List.prefix_append place path), ?_⟩
        intro path present
        apply short path _ present
        by_cases top : path = []
        · simp [top]
        · exact List.mem_cons_of_mem _ (mem_mentioned_of_entry present top)
      · intro given
        rcases given with ⟨readable, searchable, short⟩
        refine ⟨?_, ?_, fun path _ => short path⟩
        · rintro _ mem ⟨path, rfl⟩
          exact readable path mem
        · rintro _ mem ⟨path, rfl⟩
          exact searchable path mem)

end

namespace Unpacked

variable {files : FileSystem} {members : List Member} {root : Path} {place path : List String}

/-- Where a path leads, a directory stands and can be followed. -/
theorem entryAt?_place (unpacked : Unpacked files members root place) :
    files.walk (files.start root) root.names = .ok place ∧
      files.entryAt? place = some .directory := FileSystem.resolve_eq_ok unpacked.leads

/-- Where something was unpacked to, some member is or lies further down. -/
theorem exists_member (unpacked : Unpacked files members root place)
    (present : files.entryAt? (place ++ path) ≠ none) (below : path ≠ []) :
    ∃ member ∈ members, path <+: components member.name := by
  have held := unpacked.holds path below
  by_cases directory : HasDirectory members path
  · rcases directory with ⟨member, mem, onPath, -⟩
    exact ⟨member, mem, onPath⟩
  · rw [if_neg directory] at held
    cases last : lastFile? members path with
    | none =>
      rw [last, Option.map_none, Option.map_eq_none_iff] at held
      exact absurd held present
    | some member =>
      rcases mem_of_lastFile? last with ⟨mem, here, -⟩
      exact ⟨member, mem, here ▸ List.prefix_refl _⟩

/-- The names on the way to what was unpacked can be stored. -/
theorem storable_of_mem (unpacked : Unpacked files members root place)
    (present : files.entryAt? (place ++ path) ≠ none) {name : String} (mem : name ∈ path) :
    IsStorable name := by
  rcases unpacked.exists_member present (List.ne_nil_of_mem mem) with
    ⟨member, inMembers, onPath⟩
  exact unpacked.storable member inMembers name (onPath.subset mem)

/-- Directories of the archive became directories. -/
theorem entryAt?_of_hasDirectory (unpacked : Unpacked files members root place) (below : path ≠ [])
    (directory : HasDirectory members path) :
    files.entryAt? (place ++ path) = some .directory := by
  have held := unpacked.holds path below
  rw [if_pos directory, Option.map_eq_some_iff] at held
  rcases held with ⟨entry, stands, empty⟩
  cases entry with
  | directory => exact stands
  | file content => cases empty

/-- The places on the way to what was unpacked are directories. -/
theorem directory_above (unpacked : Unpacked files members root place)
    (present : files.entryAt? (place ++ path) ≠ none) {front : List String} {name : String}
    (onPath : front ++ [name] <+: path) : files.entryAt? (place ++ front) = some .directory := by
  by_cases top : front = []
  · rw [top, List.append_nil]
    exact unpacked.entryAt?_place.2
  · have below : path ≠ [] := by
      intro same
      subst same
      simp at onPath
    rcases unpacked.exists_member present below with ⟨member, mem, inMember⟩
    exact unpacked.entryAt?_of_hasDirectory top (hasDirectory_above mem (onPath.trans inMember))

/-- What was unpacked is found by its path, unless that is too long. -/
theorem resolve_descend (unpacked : Unpacked files members root place)
    (askable : Askable files root place) {entry : Entry}
    (stands : files.entryAt? (place ++ path) = some entry) :
    files.resolve (root.descend path) = .ok (place ++ path, entry) := by
  have present : files.entryAt? (place ++ path) ≠ none := by simp [stands]
  have further : files.walk place path = .ok (place ++ path) := by
    apply FileSystem.walk_eq_ok
    · intro name mem
      rcases unpacked.storable_of_mem present mem with ⟨-, down, short, -⟩
      exact ⟨down, short⟩
    · intro front name
      exact unpacked.directory_above present
    · exact askable.searchable
  have walked : files.walk (files.start root) (root.names ++ path) = .ok (place ++ path) := by
    rw [FileSystem.walk_append, unpacked.entryAt?_place.1]
    exact further
  rw [FileSystem.resolve_of_walk (askable.short path present) walked
    fun _ => askable.searchable path, stands]

theorem hasNull_descend (unpacked : Unpacked files members root place)
    (present : files.entryAt? (place ++ path) ≠ none) : (root.descend path).hasNull = false := by
  have valid := unpacked.valid
  simp only [Path.hasNull, Path.descend, List.any_append, Bool.or_eq_false_iff] at valid ⊢
  refine ⟨valid, List.any_eq_false.2 ?_⟩
  intro name mem
  simpa using (unpacked.storable_of_mem present mem).2.2.2

theorem isDirectory_descend (unpacked : Unpacked files members root place)
    (askable : Askable files root place) {entry : Entry}
    (stands : files.entryAt? (place ++ path) = some entry) :
    files.isDirectory (root.descend path) = .ok (entry == .directory) :=
  FileSystem.isDirectory_eq_ok (unpacked.hasNull_descend (by simp [stands]))
    (unpacked.resolve_descend askable stands)

theorem list_descend (unpacked : Unpacked files members root place)
    (askable : Askable files root place)
    (stands : files.entryAt? (place ++ path) = some .directory) :
    files.list (root.descend path) = .ok (files.namesIn (place ++ path)) :=
  FileSystem.list_eq_ok_namesIn (unpacked.hasNull_descend (by simp [stands]))
    (unpacked.resolve_descend askable stands) (askable.readable path)

theorem read_descend (unpacked : Unpacked files members root place)
    (askable : Askable files root place) {content : Content}
    (stands : files.entryAt? (place ++ path) = some (.file content)) :
    files.read (root.descend path) = .ok content :=
  FileSystem.read_eq_ok (unpacked.hasNull_descend (by simp [stands]))
    (unpacked.resolve_descend askable stands) (askable.readable path)

/-! ## The tree of the archive in the directory -/

/-- A directory of the tree became a directory. -/
theorem entryAt?_of_directory (unpacked : Unpacked files members root place) {inner : Children}
    (found : at? (index members) path = some (.directory inner)) :
    files.entryAt? (place ++ path) = some .directory := by
  by_cases top : path = []
  · rw [top, List.append_nil]
    exact unpacked.entryAt?_place.2
  · have shown := member?_at?_index members top
    by_cases directory : HasDirectory members path
    · exact unpacked.entryAt?_of_hasDirectory top directory
    · rw [if_neg directory, found] at shown
      cases last : lastFile? members path <;> simp [last, Tree.member?] at shown

/-- A file of the tree was written with the bytes of the last member of its path. -/
theorem entryAt?_of_file (unpacked : Unpacked files members root place) {name : String}
    (found : at? (index members) path = some (.file name)) :
    ∃ member content, lastFile? members path = some member ∧ member.name = name ∧
      files.entryAt? (place ++ path) = some (.file content) ∧ content.data = member.data := by
  have below : path ≠ [] := by
    intro same
    subst same
    cases found
  have held := unpacked.holds path below
  rcases lastFile?_of_at? found with ⟨directory, member, last, named⟩
  rw [if_neg directory, last, Option.map_some, Option.map_eq_some_iff] at held
  rcases held with ⟨entry, stands, same⟩
  cases entry with
  | directory => cases same
  | file content => exact ⟨member, content, last, named, stands, Option.some.inj same⟩

/-- In the directory something stands where something stands in the archive. -/
theorem entryAt?_ne_none_iff (unpacked : Unpacked files members root place) (below : path ≠ []) :
    files.entryAt? (place ++ path) ≠ none ↔ at? (index members) path ≠ none := by
  have shown := member?_at?_index members below
  have held := unpacked.holds path below
  rw [← Option.isSome_iff_ne_none, ← Option.isSome_iff_ne_none, ← Option.isSome_map,
    held, ← @Option.isSome_map _ _ Tree.member?, shown]
  by_cases directory : HasDirectory members path
  · simp [directory]
  · simp [directory]

/-- A directory lists the names that the archive has there. -/
theorem namesIn_eq (unpacked : Unpacked files members root place) {inner : Children}
    (found : at? (index members) path = some (.directory inner)) :
    files.namesIn (place ++ path) = inner.map Prod.fst := by
  have ascending := (sound_at? (sound_index members) found).ascending
  apply (files.ascending_namesIn _).eq_of_mem_iff ascending
  intro name
  rw [FileSystem.mem_namesIn, List.append_assoc, unpacked.entryAt?_ne_none_iff (by simp),
    at?_append found, at?_singleton]
  simp [List.lookup_eq_none_iff]

end Unpacked

/-! ## The archive and the directory mirror each other -/

/-- Whether two files are what an archive and a directory have at one path. -/
inductive Facing (archive : Archive) (root : Path) : File → File → Prop where
  | root : Facing archive root (.archive archive) (.plain root)
  | folder {path : List String} {inner : Children} (front : String)
      (found : at? archive.children path = some (.directory inner)) :
      Facing archive root (.folder archive (front ++ "/") inner) (.plain (root.descend path))
  | entry {path : List String} {member : String}
      (found : at? archive.children path = some (.file member)) :
      Facing archive root (.entry archive member) (.plain (root.descend path))

section

variable {files : FileSystem} {members : List Member} {root : Path} {place : List String}
  {archive : Archive}

/-- The children of a directory in the archive face what is listed. -/
theorem facing_children (root : Path) (indexed : archive.children = index members)
    {path : List String}
    {inner : Children} (found : at? archive.children path = some (.directory inner))
    {above : String} (opened : above = "" ∨ ∃ front, above = front ++ "/") :
    List.Forall₂ (fun a b => a.name = b.name ∧ Facing archive root a b)
      (inner.map (File.ofTree archive above))
      ((inner.map Prod.fst).map fun name => .plain ((root.descend path).child name)) := by
  have sound : (Tree.directory inner).Sound := sound_at? (indexed ▸ sound_index members) found
  rw [List.map_map, List.forall₂_map_left_iff, List.forall₂_map_right_iff, List.forall₂_same]
  intro child mem
  have deeper : at? archive.children (path ++ [child.1]) = some child.2 := by
    rw [at?_append found, at?_singleton, lookup_of_mem sound.ascending mem]
  constructor
  · rw [(File.ofTree_sound opened sound mem).2]
    simp [File.name, Path.name, Path.child]
  · rcases child with ⟨name, tree⟩
    simp only [Function.comp_apply, Path.child_descend]
    cases tree with
    | file member => exact .entry deeper
    | directory inner => exact .folder (above ++ name) deeper

theorem children_plain {path : Path} {names : List String}
    (kind : files.isDirectory path = .ok true) (listed : files.list path = .ok names) :
    (File.plain path).children files = .ok (names.map fun name => .plain (path.child name)) := by
  rw [File.children]
  refine Collecting.bind_eq_ok.2 ⟨true, kind, ?_⟩
  rw [if_pos rfl, listed]
  rfl

/-- An archive and what it was unpacked to mirror each other. -/
theorem facing_mirrors (read : archive.source.members files = .ok members)
    (indexed : archive.children = index members) (unpacked : Unpacked files members root place)
    (askable : Askable files root place) : File.Mirroring files (Facing archive root) := by
  -- What the archive keeps in its tree, the directory has to be asked for by path.
  have directories : ∀ {path : List String} {inner : Children},
      at? archive.children path = some (.directory inner) →
        files.isDirectory (root.descend path) = .ok true ∧
        (File.plain (root.descend path)).children files = .ok
          ((inner.map Prod.fst).map fun name => .plain ((root.descend path).child name)) := by
    intro path inner found
    rw [indexed] at found
    have stands := unpacked.entryAt?_of_directory found
    have kind := unpacked.isDirectory_descend askable stands
    refine ⟨kind, ?_⟩
    rw [children_plain kind (unpacked.list_descend askable stands), unpacked.namesIn_eq found]
  have top : at? archive.children [] = some (.directory archive.children) := rfl
  intro f g facing
  cases facing with
  | root =>
    rcases directories top with ⟨kind, listed⟩
    rw [Path.descend_nil] at kind listed
    refine ⟨⟨true, rfl, kind⟩, nofun, _, _, rfl, listed, ?_⟩
    have facing := facing_children root indexed top (.inl rfl)
    rwa [Path.descend_nil] at facing
  | folder front found =>
    rcases directories found with ⟨kind, listed⟩
    exact ⟨⟨true, rfl, kind⟩, nofun, _, _, rfl, listed,
      facing_children root indexed found (.inr ⟨front, rfl⟩)⟩
  | entry found =>
    rw [indexed] at found
    rcases unpacked.entryAt?_of_file found with ⟨member, content, last, named, stands, same⟩
    have kind := unpacked.isDirectory_descend askable stands
    refine ⟨⟨false, rfl, kind⟩, fun _ => ⟨member.data, ?_, ?_⟩, [], [], rfl, ?_, .nil⟩
    · -- The tree keeps the name of a member, and the last member of that name is read.
      rw [File.read, ← named]
      exact readMember_of_lastFile? read last
    · rw [File.read, unpacked.read_descend askable stands, Except.map, same]
    · rw [File.children, kind]
      rfl

end

/-- An archive and a directory that holds what it is unpacked to give the same packages, whether
compiled files or sources are asked for. -/
theorem unpacked_mirrored (files : FileSystem) {source : Archive.Source} {members : List Member}
    {root : Path} {place : List String} (read : source.members files = .ok members)
    (unpacked : Unpacked files members root place) (askable : Askable files root place)
    (opening built built' : Nat) (name location : String) (role : Role) (policy : Policy) :
    Package.Mirrored files
      (.directory built role (.archive ⟨opening, source, name, location, index members⟩) policy)
      (.directory built' role (.plain root) policy) :=
  Package.mirrored_of_mirroring (facing_mirrors read rfl unpacked askable) .root built built' role
    policy

/-- An archive that names a directory, writes one path in two ways and leaves a directory to be
guessed. -/
def wovenMembers : List Member :=
  [⟨"p/", []⟩, ⟨"p//A.class", [1]⟩, ⟨"META-INF/MANIFEST.MF", [2]⟩, ⟨"/p/A.class", [3]⟩,
    ⟨"p/q/B.class", [4]⟩]

/-- The directory that this archive is unpacked to. -/
def wovenFiles : FileSystem := FileSystem.ofEntries
  [(["d"], .directory), (["d", "p"], .directory), (["d", "p", "A.class"], .file (.bytes [3])),
    (["d", "p", "q"], .directory), (["d", "p", "q", "B.class"], .file (.bytes [4])),
    (["d", "META-INF"], .directory), (["d", "META-INF", "MANIFEST.MF"], .file (.bytes [2]))]

theorem unpacked_mirrored_woven :
    Unpacked wovenFiles wovenMembers ⟨.root, ["d"]⟩ ["d"] ∧
      Package.Mirrored wovenFiles
        (.directory 1 .binaries
          (.archive ⟨0, .memory wovenMembers, "w.jar", "w.jar", index wovenMembers⟩) .showAll)
        (.directory 2 .binaries (.plain ⟨.root, ["d"]⟩) .showAll) := by
  have unpacked : Unpacked wovenFiles wovenMembers ⟨.root, ["d"]⟩ ["d"] := by decide +kernel
  have askable : Askable wovenFiles ⟨.root, ["d"]⟩ ["d"] := by decide +kernel
  exact ⟨unpacked, unpacked_mirrored wovenFiles rfl unpacked askable 0 1 2 "w.jar" "w.jar" .binaries
    .showAll⟩

/-! ## What cannot be asked for -/

/-- The bytes that names take with a slash before each. -/
def bytesOf : List String → Nat
  | [] => 0
  | name :: rest => name.utf8ByteSize + 1 + bytesOf rest

theorem bytesOf_append (names others : List String) :
    bytesOf (names ++ others) = bytesOf names + bytesOf others := by
  induction names with
  | nil => simp [bytesOf]
  | cons name rest ih => rw [List.cons_append, bytesOf, ih, bytesOf, ← Nat.add_assoc]

theorem utf8ByteSize_join {parts : List String} (nonempty : parts ≠ []) :
    (Text.join '/' parts).utf8ByteSize + 1 = bytesOf parts := by
  induction parts with
  | nil => exact absurd rfl nonempty
  | cons part rest ih =>
    cases rest with
    | nil => simp [Text.join, Text.joined, bytesOf]
    | cons next rest =>
      have joined : Text.join '/' (part :: next :: rest) =
          part ++ "/" ++ Text.join '/' (next :: rest) := by
        simp [Text.join, Text.joined, String.ext_iff]
      have slash : "/".utf8ByteSize = 1 := rfl
      rw [joined, bytesOf, ← ih (by simp), String.utf8ByteSize_append, String.utf8ByteSize_append,
        slash, Nat.add_assoc]

theorem utf8ByteSize_toString {names : List String} (nonempty : names ≠ []) :
    (Path.toString ⟨.root, names⟩).utf8ByteSize = bytesOf names := by
  have slash : "/".utf8ByteSize = 1 := rfl
  rw [Path.toString, if_neg (by simp [Path.current]), String.utf8ByteSize_append, Path.lead, slash,
    ← utf8ByteSize_join nonempty, Nat.add_comm]

/-- One compiled class in one directory. -/
def single : FileSystem := FileSystem.ofEntries
  [(["d"], .directory), (["d", "A.class"], .file (.bytes [1]))]

/-- The same where the directory may not be listed. -/
def locked : FileSystem := { single with forbidden := [["d"]] }

/-- The same where the directory may be listed and not searched. -/
def shut : FileSystem := { single with sealed := [["d"]] }

/-- The path of that directory, spelled by going to it and back some times before. -/
def detour (rounds : Nat) : Path := ⟨.root, (List.replicate rounds ["d", ".."]).flatten ++ ["d"]⟩

theorem utf8ByteSize_detour (rounds : Nat) (names : List String) :
    ((detour rounds).descend names).toString.utf8ByteSize = 5 * rounds + 2 + bytesOf names := by
  have around : bytesOf (List.replicate rounds ["d", ".."]).flatten = 5 * rounds := by
    induction rounds with
    | zero => rfl
    | succ rounds ih =>
      have once : bytesOf ["d", ".."] = 5 := by decide +kernel
      rw [List.replicate_succ, List.flatten_cons, bytesOf_append, ih, once, Nat.mul_succ,
        Nat.add_comm]
  have last : bytesOf ["d"] = 2 := by decide +kernel
  rw [Path.descend, detour, utf8ByteSize_toString (by simp), bytesOf_append, bytesOf_append, around,
    last]

theorem hasNull_detour (rounds : Nat) {names : List String}
    (valid : ∀ name ∈ names, '\x00' ∉ name.toList) :
    ((detour rounds).descend names).hasNull = false := by
  rw [Path.hasNull, List.any_eq_false]
  intro name mem
  simp only [Path.descend, detour, List.mem_append, List.mem_flatten, List.mem_replicate,
    List.mem_singleton] at mem
  rcases mem with (⟨_, ⟨-, rfl⟩, mem⟩ | rfl) | mem
  · simp only [List.mem_cons, List.not_mem_nil, or_false] at mem
    rcases mem with rfl | rfl <;> decide
  · decide
  · simpa using valid name mem

theorem resolve_detour {rounds : Nat} (short : 5 * rounds + 2 < FileSystem.pathLimit) :
    single.resolve (detour rounds) = .ok (["d"], .directory) := by
  have around : ∀ rest, single.walk [] ("d" :: ".." :: rest) = single.walk [] rest := by
    intro rest
    have down : single.entryAt? ["d"] = some .directory := by decide +kernel
    rw [FileSystem.walk, FileSystem.entryAt?_root]
    change single.walk ["d"] (".." :: rest) = _
    rw [FileSystem.walk, down]
    rfl
  have ends :
      single.walk [] ((List.replicate rounds ["d", ".."]).flatten ++ ["d"]) = .ok ["d"] := by
    clear short
    induction rounds with
    | zero => decide +kernel
    | succ rounds ih =>
      rw [List.replicate_succ, List.flatten_cons]
      exact (around _).trans ih
  have size := utf8ByteSize_detour rounds []
  rw [Path.descend_nil] at size
  have down : single.entryAt? ["d"] = some .directory := by decide +kernel
  rw [FileSystem.resolve_of_walk (size.trans_lt short) ends fun _ => List.not_mem_nil, down]

theorem unpacked_detour {rounds : Nat} (short : 5 * rounds + 2 < FileSystem.pathLimit) :
    Unpacked single [⟨"A.class", [1]⟩] (detour rounds) ["d"] where
  leads := resolve_detour short
  valid := Path.descend_nil (detour rounds) ▸ hasNull_detour rounds (by simp)
  storable := by decide +kernel
  holds := by decide +kernel

/-- The path of the class file that is listed there. -/
def behind (rounds : Nat) : Path := (detour rounds).descend ["A.class"]

/-- The class file is listed, but its own path is too long to be asked for. -/
theorem isDirectory_behind {rounds : Nat} (long : FileSystem.pathLimit ≤ 5 * rounds + 10) :
    (File.plain (behind rounds)).isDirectory single =
      .error (.system .nameTooLong (behind rounds).toString) := by
  have bytes : bytesOf ["A.class"] = 8 := by decide +kernel
  apply FileSystem.isDirectory_of_long (hasNull_detour rounds (by decide +kernel))
  rw [utf8ByteSize_detour, bytes]
  omega

theorem children_detour {rounds : Nat} (short : 5 * rounds + 2 < FileSystem.pathLimit) :
    (File.plain (detour rounds)).children single = .ok [.plain (behind rounds)] := by
  have unpacked := unpacked_detour short
  have listed : single.list (detour rounds) = .ok ["A.class"] := by
    have names : single.namesIn ["d"] = ["A.class"] := by decide +kernel
    rw [← names]
    exact FileSystem.list_eq_ok_namesIn unpacked.valid unpacked.leads (by decide)
  exact children_plain (FileSystem.isDirectory_eq_ok unpacked.valid unpacked.leads) listed

/-- So nothing can be said about what is listed. -/
theorem filterM_behind {rounds : Nat} (long : FileSystem.pathLimit ≤ 5 * rounds + 10)
    (kinds : Bool → Bool) (test : String → Bool) :
    ([File.plain (behind rounds)].filterM fun child => do
      return kinds (← child.isDirectory single) && test child.name) =
        .error (.system .nameTooLong (behind rounds).toString) := by
  rw [Collecting.filterM_cons, isDirectory_behind long]
  rfl

section

variable {rounds : Nat} (short : 5 * rounds + 2 < FileSystem.pathLimit)
  (long : FileSystem.pathLimit ≤ 5 * rounds + 10) (built : Nat) (policy : Policy)

include short long

theorem scanClasses_detour :
    (Package.directory built .binaries (.plain (detour rounds)) policy).scanClasses single =
      .error (.system .nameTooLong (behind rounds).toString) := by
  rw [Package.scanClasses, Package.classesIn, children_detour short]
  exact congrArg (· >>= fun shown => shown.mapM (Package.represent .binaries))
    (filterM_behind long (!·) (Package.shows .binaries policy))

theorem scanPackages_detour :
    (Package.directory built .binaries (.plain (detour rounds)) policy).scanPackages single =
      .error (.system .nameTooLong (behind rounds).toString) := by
  rw [Package.scanPackages, Package.packagesIn, children_detour short]
  exact congrArg (fun shown => do
      return (← shown).map fun child => Package.directory built .binaries child policy)
    (filterM_behind long id Naming.isPackage)

end

def singleMembers : List Member := [⟨"A.class", [1]⟩]

def singleArchive : Archive := ⟨0, .memory singleMembers, "a.jar", "a.jar", index singleMembers⟩

/-- An archive shows more than the directory it is unpacked to, if that may not be listed, if it may
not be searched, or if what is in it has too long a path. -/
theorem unpacked_not_mirrored :
    (Unpacked locked singleMembers ⟨.root, ["d"]⟩ ["d"] ∧
      ¬Package.Mirrored locked (.directory 1 .binaries (.archive singleArchive) .showAll)
        (.directory 2 .binaries (.plain ⟨.root, ["d"]⟩) .showAll)) ∧
    (Unpacked shut singleMembers ⟨.root, ["d"]⟩ ["d"] ∧
      ¬Package.Mirrored shut (.directory 1 .binaries (.archive singleArchive) .showAll)
        (.directory 2 .binaries (.plain ⟨.root, ["d"]⟩) .showAll)) ∧
    (Unpacked single singleMembers (detour 818) ["d"] ∧
      ¬Package.Mirrored single (.directory 1 .binaries (.archive singleArchive) .showAll)
        (.directory 2 .binaries (.plain (detour 818)) .showAll)) := by
  refine ⟨⟨by decide +kernel, ?_⟩, ⟨by decide +kernel, ?_⟩, ⟨unpacked_detour (by decide), ?_⟩⟩
  · intro mirrored
    rcases mirrored.scanClasses with ⟨reps, reps', found, found', each⟩
    have one : ((Package.directory 1 .binaries (.archive singleArchive) .showAll).scanClasses
        locked).map List.length = .ok 1 := by decide +kernel
    have nothing : ((Package.directory 2 .binaries (.plain ⟨.root, ["d"]⟩) .showAll).scanClasses
        locked).map List.length = .ok 0 := by decide +kernel
    rw [found] at one
    rw [found'] at nothing
    have same := each.length_eq
    rw [Except.ok.inj one, Except.ok.inj nothing] at same
    cases same
  · intro mirrored
    rcases mirrored.scanClasses with ⟨reps, reps', -, found', -⟩
    have refused : ((Package.directory 2 .binaries (.plain ⟨.root, ["d"]⟩) .showAll).scanClasses
        shut).isOk = false := by decide +kernel
    rw [found'] at refused
    cases refused
  · intro mirrored
    rcases mirrored.scanClasses with ⟨reps, reps', -, found', -⟩
    rw [scanClasses_detour (by decide) (by decide) 2 .showAll] at found'
    cases found'

end JvmClasspath
