import JvmClasspath.Proofs.Opened

/-!
# What stands in an archive

An archive is gone through from its root, one directory after the other. What is met there is what
its members describe: a directory wherever some member is one or lies further down, a file where a
member is one and no directory is, and nothing else. In which order the members come makes no
difference to that.

It does to the bytes. A file is read as the last member of its path, in whatever ways the path is
spelled among the members: the tree keeps the name of that member, and no later one has the name.
-/

namespace JvmClasspath.Archive

variable {files : FileSystem} {archive : Archive} {members : List Member} {path : List String}

/-! ## Going through an archive -/

/-- What is met in an archive, with the names of the directories on the way and its own name
last. -/
inductive Holds (archive : Archive) : List String → File → Prop where
  | root : Holds archive [] (.archive archive)
  | inside {files : FileSystem} {path : List String} {directory child : File}
      {children : List File} (held : Holds archive path directory)
      (listed : directory.children files = .ok children) (mem : child ∈ children) :
      Holds archive (path ++ [child.name]) child

/-- Whether a directory is met at a path, or else a file. -/
def Shows (archive : Archive) (files : FileSystem) (path : List String) (directory : Bool) : Prop :=
  ∃ file, archive.Holds path file ∧ file.isDirectory files = .ok directory

/-- The member path of a directory: its components, each with a slash behind it. -/
def folderPath (path : List String) : String :=
  path.foldl (fun above name => above ++ name ++ "/") ""

theorem folderPath_concat (path : List String) (name : String) :
    folderPath (path ++ [name]) = folderPath path ++ name ++ "/" := by
  simp only [folderPath, List.foldl_append, List.foldl_cons, List.foldl_nil]

theorem folderPath_spelled (path : List String) :
    folderPath path = "" ∨ ∃ front, folderPath path = front ++ "/" := by
  obtain rfl | ⟨front, name, rfl⟩ := List.eq_nil_or_concat' path
  · exact .inl rfl
  · exact .inr ⟨_, folderPath_concat front name⟩

/-- The file that shows what stands at a path of the tree. -/
def fileAt (archive : Archive) : List String → Tree → File
  | _, .file member => .entry archive member
  | [], .directory _ => .archive archive
  | path, .directory children => .folder archive (folderPath path) children

theorem fileAt_concat (archive : Archive) (path : List String) (name : String) (tree : Tree) :
    archive.fileAt (path ++ [name]) tree = File.ofTree archive (folderPath path) (name, tree) := by
  cases tree with
  | file member => cases path <;> rfl
  | directory children =>
    rw [File.ofTree, ← folderPath_concat]
    cases path <;> rfl

theorem isDirectory_fileAt (archive : Archive) (path : List String) (tree : Tree) :
    (archive.fileAt path tree).isDirectory files = .ok tree.member?.isNone := by
  cases tree with
  | file member => cases path <;> rfl
  | directory children => cases path <;> rfl

/-- The children of a directory are shown at their own paths. -/
theorem children_fileAt (files : FileSystem) {inner : Children}
    (found : at? archive.children path = some (.directory inner)) :
    (archive.fileAt path (.directory inner)).children files =
      .ok (inner.map fun child => archive.fileAt (path ++ [child.1]) child.2) := by
  simp only [fileAt_concat]
  cases path with
  | nil =>
    cases found
    rfl
  | cons name rest => rfl

theorem children_fileAt_file (archive : Archive) (path : List String) (member : String) :
    (archive.fileAt path (.file member)).children files = .ok [] := by
  cases path <;> rfl

theorem name_fileAt {inner : Children} (sound : (Tree.directory inner).Sound) (path : List String)
    {child : String × Tree} (mem : child ∈ inner) :
    (archive.fileAt (path ++ [child.1]) child.2).name = child.1 := by
  rw [fileAt_concat]
  exact (File.ofTree_sound (folderPath_spelled path) sound mem).2

/-- What stands below the root stands in a directory. -/
theorem exists_directory_of_at? {children : Children} {name : String} {tree : Tree}
    (found : at? children (path ++ [name]) = some tree) :
    ∃ inner, at? children path = some (.directory inner) ∧ inner.lookup name = some tree := by
  induction path generalizing children with
  | nil => exact ⟨children, rfl, by simpa using found⟩
  | cons first rest ih =>
    rw [List.cons_append, at?] at found
    rw [at?]
    cases here : children.lookup first with
    | none => simp [here] at found
    | some below =>
      cases below with
      | file member => simp [here] at found
      | directory below =>
        simp only [here] at found
        exact ih found

/-- Going through an archive is following paths in its tree. -/
theorem holds_iff (indexed : archive.children = index members) {file : File} :
    archive.Holds path file ↔
      ∃ tree, at? (index members) path = some tree ∧ file = archive.fileAt path tree := by
  rw [← indexed]
  have sound : (Tree.directory archive.children).Sound := indexed ▸ sound_index members
  constructor
  · intro holds
    induction holds with
    | root => exact ⟨_, rfl, rfl⟩
    | inside held listed mem ih =>
      obtain ⟨tree, found, rfl⟩ := ih
      cases tree with
      | file member =>
        rw [children_fileAt_file] at listed
        cases listed
        cases mem
      | directory inner =>
        rw [children_fileAt _ found] at listed
        cases listed
        obtain ⟨child, stands, rfl⟩ := List.mem_map.1 mem
        have inner_sound := sound_at? sound found
        rw [name_fileAt inner_sound _ stands]
        refine ⟨child.2, ?_, rfl⟩
        rw [at?_append found, at?_singleton, lookup_of_mem inner_sound.ascending stands]
  · rintro ⟨tree, found, rfl⟩
    induction path using List.reverseRecOn generalizing tree with
    | nil =>
      cases found
      exact .root
    | append_singleton path name ih =>
      obtain ⟨inner, above, held⟩ := exists_directory_of_at? found
      have stands := mem_of_lookup held
      have inside := (ih _ above).inside (children_fileAt .empty above)
        (List.mem_map_of_mem stands)
      rwa [name_fileAt (sound_at? sound above) path stands] at inside

/-! ## What is met is what the members describe -/

/-- Whether a member is a file of this path. -/
def IsFileAt (path : List String) (member : Member) : Prop :=
  components member.name = path ∧ namesDirectory member.name = false

instance (path : List String) : DecidablePred (IsFileAt path) :=
  fun _ => inferInstanceAs (Decidable (_ ∧ _))

/-- Whether the members describe a directory at a path: the root is one, and so is every place that
a directory member names or that lies above what some member names. -/
def DescribesDirectory (members : List Member) (path : List String) : Prop :=
  path = [] ∨
    (∃ member ∈ members, components member.name = path ∧ namesDirectory member.name = true) ∨
    ∃ member ∈ members, path <+: components member.name ∧ path ≠ components member.name

instance (members : List Member) : DecidablePred (DescribesDirectory members) :=
  fun _ => inferInstanceAs (Decidable (_ ∨ _))

/-- Whether the members describe a file at a path: some member is one, and no directory is there. -/
def DescribesFile (members : List Member) (path : List String) : Prop :=
  (∃ member ∈ members, IsFileAt path member) ∧ ¬DescribesDirectory members path

instance (members : List Member) : DecidablePred (DescribesFile members) :=
  fun _ => inferInstanceAs (Decidable (_ ∧ _))

theorem describesDirectory_iff (below : path ≠ []) :
    DescribesDirectory members path ↔ HasDirectory members path := by
  constructor
  · rintro (root | ⟨member, mem, rfl, directory⟩ | ⟨member, mem, above, apart⟩)
    · exact absurd root below
    · exact ⟨member, mem, List.prefix_rfl, fun _ => directory⟩
    · exact ⟨member, mem, above, fun same => absurd same apart⟩
  · rintro ⟨member, mem, onPath, directory⟩
    by_cases same : path = components member.name
    · exact .inr (.inl ⟨member, mem, same.symm, directory same⟩)
    · exact .inr (.inr ⟨member, mem, onPath, same⟩)

theorem exists_lastFile?_iff :
    (∃ member, lastFile? members path = some member) ↔
      ∃ member ∈ members, IsFileAt path member := by
  rw [← Option.isSome_iff_exists, lastFile?, List.find?_isSome]
  simp [IsFileAt]

theorem shows_iff (indexed : archive.children = index members) {directory : Bool} :
    archive.Shows files path directory ↔
      ∃ tree, at? (index members) path = some tree ∧ tree.member?.isNone = directory := by
  simp only [Shows, holds_iff indexed]
  constructor
  · rintro ⟨file, ⟨tree, found, rfl⟩, kind⟩
    rw [isDirectory_fileAt] at kind
    exact ⟨tree, found, Except.ok.inj kind⟩
  · rintro ⟨tree, found, rfl⟩
    exact ⟨_, ⟨tree, found, rfl⟩, isDirectory_fileAt archive path tree⟩

/-- Below the root it is told by the name that a member has, or has not, at the path. -/
theorem shows_iff_member? (indexed : archive.children = index members) (below : path ≠ [])
    {directory : Bool} :
    archive.Shows files path directory ↔
      ∃ member?, member?.isNone = directory ∧
        (if HasDirectory members path then some none
          else (lastFile? members path).map fun member => some member.name) = some member? := by
  rw [shows_iff indexed, ← member?_at?_index members below]
  constructor
  · rintro ⟨tree, found, kind⟩
    exact ⟨tree.member?, kind, by rw [found, Option.map_some]⟩
  · rintro ⟨member?, kind, found⟩
    obtain ⟨tree, stands, rfl⟩ := Option.map_eq_some_iff.1 found
    exact ⟨tree, stands, kind⟩

theorem shows_directory_iff (indexed : archive.children = index members) :
    archive.Shows files path true ↔ DescribesDirectory members path := by
  by_cases below : path = []
  · subst below
    exact iff_of_true ⟨_, .root, rfl⟩ (.inl rfl)
  · rw [shows_iff_member? indexed below, describesDirectory_iff below]
    by_cases directory : HasDirectory members path
    · simp [directory]
    · simp [directory]

theorem shows_file_iff (indexed : archive.children = index members) :
    archive.Shows files path false ↔ DescribesFile members path := by
  by_cases below : path = []
  · subst below
    simp [shows_iff indexed, Tree.member?, DescribesFile, DescribesDirectory]
  · rw [shows_iff_member? indexed below, DescribesFile, describesDirectory_iff below]
    by_cases directory : HasDirectory members path
    · simp [directory]
    · simp [directory, ← exists_lastFile?_iff]

/-- An archive shows directories and files exactly where its members describe them. One thing stands
at a path, of one of the two kinds, and members in another order give the same paths and kinds. -/
theorem shows_iff_described (indexed : archive.children = index members) (files : FileSystem) :
    (∀ path, archive.Shows files path true ↔ DescribesDirectory members path) ∧
    (∀ path, archive.Shows files path false ↔ DescribesFile members path) ∧
    (∀ path file, archive.Holds path file →
      (∃ directory, file.isDirectory files = .ok directory) ∧
        ∀ other, archive.Holds path other → other = file) ∧
    ∀ (other : Archive) (others : List Member), other.children = index others →
      others.Perm members → ∀ path directory,
        other.Shows files path directory ↔ archive.Shows files path directory := by
  refine ⟨fun _ => shows_directory_iff indexed, fun _ => shows_file_iff indexed, ?_, ?_⟩
  · intro path file held
    obtain ⟨tree, found, rfl⟩ := (holds_iff indexed).1 held
    refine ⟨⟨_, isDirectory_fileAt archive path tree⟩, ?_⟩
    intro other held'
    obtain ⟨tree', found', rfl⟩ := (holds_iff indexed).1 held'
    rw [Option.some.inj (found'.symm.trans found)]
  · intro other others indexed' perm path directory
    have directories : DescribesDirectory others path ↔ DescribesDirectory members path := by
      simp only [DescribesDirectory, perm.mem_iff]
    cases directory with
    | true => rw [shows_directory_iff indexed', shows_directory_iff indexed, directories]
    | false =>
      rw [shows_file_iff indexed', shows_file_iff indexed, DescribesFile, DescribesFile,
        directories]
      simp only [perm.mem_iff]

/-- Members that name a directory as a file too, write one path in several ways, and leave
directories to be guessed. -/
def muddledMembers : List Member :=
  [⟨"a", [1]⟩, ⟨"a//b", [2]⟩, ⟨"/c/", []⟩, ⟨"", [3]⟩, ⟨"c", [4]⟩, ⟨"d/e/f", [5]⟩, ⟨"a/b", [6]⟩,
    ⟨"/a/b", [7]⟩, ⟨"a//b", [8]⟩]

def muddled (members : List Member) : Archive :=
  ⟨0, .memory members, "a.jar", "a.jar", index members⟩

/-- There `a`, `c` and `d` are directories, from whichever end the members are taken. -/
theorem shows_iff_described_muddled :
    (muddled muddledMembers).children = index muddledMembers ∧
      muddledMembers.reverse.Perm muddledMembers ∧
      (muddled muddledMembers).Shows .empty ["a"] true ∧
      ¬(muddled muddledMembers).Shows .empty ["a"] false ∧
      (muddled muddledMembers).Shows .empty ["d", "e", "f"] false ∧
      (muddled muddledMembers.reverse).Shows .empty ["c"] true := by
  have perm := List.reverse_perm muddledMembers
  have indexed : (muddled muddledMembers).children = index muddledMembers := rfl
  obtain ⟨directories, files, -, reordered⟩ := shows_iff_described indexed .empty
  refine ⟨indexed, perm, (directories _).2 (by decide +kernel), ?_,
    (files _).2 (by decide +kernel), ?_⟩
  · intro shown
    exact absurd ((files _).1 shown) (by decide +kernel)
  · exact (reordered (muddled muddledMembers.reverse) _ rfl perm _ _).2
      ((directories _).2 (by decide +kernel))

/-! ## Reading -/

/-- The last file of a path has no other behind it. -/
theorem exists_of_lastFile? {member : Member} (found : lastFile? members path = some member) :
    ∃ before after, members = before ++ member :: after ∧ IsFileAt path member ∧
      ∀ other ∈ after, ¬IsFileAt path other := by
  obtain ⟨here, before, after, spelled, others⟩ := List.find?_eq_some_iff_append.1 found
  refine ⟨after.reverse, before.reverse, ?_, of_decide_eq_true here, ?_⟩
  · rw [← List.reverse_reverse members, spelled]
    simp
  · intro other mem
    simpa [IsFileAt, imp_iff_not_or] using others other (List.mem_reverse.1 mem)

/-- A file of an archive that has not changed since it was opened can be read, and what is read is
the content of the last member that is a file of this path. -/
theorem read_eq_last {later : FileSystem} {opening : Nat} {source : Source} {name location : String}
    (opened : «open» files opening source name location = .ok archive)
    (unchanged : source.members later = source.members files) {file : File}
    (held : archive.Holds path file) (isFile : file.isDirectory later = .ok false) :
    ∃ before member after, source.members files = .ok (before ++ member :: after) ∧
      IsFileAt path member ∧ (∀ other ∈ after, ¬IsFileAt path other) ∧
      file.read later = .ok member.data := by
  obtain ⟨members, read, made⟩ := Collecting.bind_eq_ok.1 opened
  cases made
  obtain ⟨tree, found, rfl⟩ := (holds_iff rfl).1 held
  rw [isDirectory_fileAt] at isFile
  cases tree with
  | directory children => cases isFile
  | file spelling =>
    obtain ⟨-, member, last, rfl⟩ := lastFile?_of_at? found
    obtain ⟨before, after, rfl, here, others⟩ := exists_of_lastFile? last
    refine ⟨before, member, after, read, here, others, ?_⟩
    cases path <;> exact readMember_of_lastFile? (unchanged.trans read) last

/-- A file system with an archive of these members, and one more file. -/
def muddledFiles : FileSystem :=
  FileSystem.ofEntries [(["a.jar"], .file (.archive muddledMembers)), (["b"], .file (.bytes []))]

def muddledOnDisk : Archive :=
  ⟨0, .path ⟨.root, ["a.jar"]⟩, "a.jar", "/a.jar", index muddledMembers⟩

/-- Of the four files at one path the last one is read, which is spelled as the first of them. That
another file is gone by then makes no difference. -/
theorem read_eq_last_muddled :
    «open» muddledFiles 0 muddledOnDisk.source "a.jar" "/a.jar" = .ok muddledOnDisk ∧
      muddledOnDisk.source.members (muddledFiles.remove ["b"]) =
        muddledOnDisk.source.members muddledFiles ∧
      muddledOnDisk.Holds ["a", "b"] (.entry muddledOnDisk "a//b") ∧
      (∃ before member after,
        muddledOnDisk.source.members muddledFiles = .ok (before ++ member :: after) ∧
          IsFileAt ["a", "b"] member ∧ (∀ other ∈ after, ¬IsFileAt ["a", "b"] other) ∧
          (File.entry muddledOnDisk "a//b").read (muddledFiles.remove ["b"]) = .ok member.data) ∧
      (File.entry muddledOnDisk "a//b").read (muddledFiles.remove ["b"]) = .ok [8] := by
  have opened :
      «open» muddledFiles 0 muddledOnDisk.source "a.jar" "/a.jar" = .ok muddledOnDisk := by
    decide +kernel
  have unchanged : muddledOnDisk.source.members (muddledFiles.remove ["b"]) =
      muddledOnDisk.source.members muddledFiles := by
    decide +kernel
  have indexed : muddledOnDisk.children = index muddledMembers := rfl
  have held : muddledOnDisk.Holds ["a", "b"] (.entry muddledOnDisk "a//b") :=
    (holds_iff indexed).2 ⟨.file "a//b", by decide +kernel, rfl⟩
  exact ⟨opened, unchanged, held, read_eq_last opened unchanged held rfl, by decide +kernel⟩

end JvmClasspath.Archive
