import JvmClasspath.Manifest
import JvmClasspath.Proofs.Collecting
import JvmClasspath.Proofs.Overlong

/-!
# Loading a manifest

A manifest at a path where something exists is loaded, or something is wrong with it and the fault
says what. Each fault has its cause in the file: it cannot be opened, its text is no document, its
table or its base directory is none, or a component is neither a text nor a list.

Two kinds of trouble are no faults of the manifest, although they lie in the file just the same: its
bytes are no text, or it holds a whole number that is too long, in decimal to be read or otherwise
to be written. These escape as failures of their own.
-/

namespace JvmClasspath.Manifest

variable {files : FileSystem} {path : Path} {table : Entries}

/-! ## What a file gives -/

/-- Whether the file at a path can be opened, and its bytes are this text. -/
inductive Reads (files : FileSystem) (path : Path) (text : String) : Prop where
  | intro {content : Content} (opened : files.read path = .ok content)
      (decoded : Utf8.decode? content.data = some text)

/-- Whether the file at a path is a document with this table. -/
inductive Gives (files : FileSystem) (path : Path) (table : Entries) : Prop where
  | intro {text : String} {document : Entries} (reads : Reads files path text)
      (parsed : Toml.parse text = .ok document) (tabled : tableOf document = .ok table)

/-- What can be opened exists. -/
theorem isExisting_of_read {content : Content} (opened : files.read path = .ok content) :
    files.isExisting path = .ok true := by
  rw [FileSystem.read] at opened
  rw [FileSystem.isExisting, FileSystem.lookUp]
  split at opened
  · cases opened
  · next noNull =>
    rw [if_neg noNull]
    split at opened
    · cases opened
    · cases opened
    · next place held found =>
      rw [found]
      rfl

/-- A path that leads somewhere is loaded by reading it. -/
theorem load_of_existing (existing : files.isExisting path = .ok true) :
    load files path =
      match files.read path with
      | .error failure => .error (.manifest path.toString (.unreadable failure.message))
      | .ok content => documentOf path content.data >>= ofDocument path := by
  rw [load, existing]
  rfl

theorem load_of_reads {text : String} (reads : Reads files path text) :
    load files path =
      match Toml.parse text with
      | .ok document => ofDocument path document
      | .error (.tooManyDigits count) => .error (.tooManyDigits count)
      | .error fault => .error (.manifest path.toString (.unreadable fault.message)) := by
  obtain ⟨opened, decoded⟩ := reads
  rw [load_of_existing (isExisting_of_read opened), opened]
  simp only [documentOf, decoded]
  cases Toml.parse text with
  | ok document => rfl
  | error fault => cases fault <;> rfl

/-- The manifest that a table describes. -/
def ofTable (path : Path) (table : Entries) : Except Failure Manifest := do
  let given ← givenIn table
  let base ← (baseOf path table).mapError (Failure.manifest path.toString)
  let manifest ← (ofGiven given).mapError fun settings =>
    .manifest path.toString (.notText settings)
  return { manifest with base := some (.path base) }

theorem load_of_gives (gives : Gives files path table) : load files path = ofTable path table := by
  obtain ⟨reads, parsed, tabled⟩ := gives
  rw [load_of_reads reads, parsed]
  simp only [ofDocument, tabled]
  rfl

/-! ## The components of a table -/

/-- What a value is taken for where a component is expected, if its numbers can be written. -/
def takenFor (setting : Setting) : Toml.Value → Given
  | .text text => .text text
  | .array items => .text (Text.join (separator setting) (items.map Toml.Value.plain))
  | _ => .other

/-- What a table holds for a component. -/
def heldFor (table : Entries) (setting : Setting) : Option Given :=
  (table.lookup setting.key).map (takenFor setting)

/-- The components that a table gives as something that is neither a text nor a list. -/
def strays (table : Entries) : List Setting :=
  Setting.components.filter fun setting => heldFor table setting = some .other

/-- Whether the numbers in the lists of a table can all be written. -/
def IsWritable (table : Entries) : Prop :=
  ∀ setting ∈ Setting.components, ∀ items, table.lookup setting.key = some (.array items) →
    Toml.Value.areWritable items = true

/-- Whether a table names no base directory or names it by a text. -/
def HasBase (table : Entries) : Prop :=
  ∀ value, table.lookup Setting.baseDirectory.key = some value → ∃ text, value = .text text

/-- The components that a table gives, in their order. -/
def givenOf (table : Entries) : List (Setting × Given) :=
  Setting.components.filterMap fun setting =>
    (heldFor table setting).map fun given => (setting, given)

theorem givenBy_eq_ok {setting : Setting} {value : Toml.Value}
    (written : ∀ items, value = .array items → Toml.Value.areWritable items = true) :
    givenBy setting value = .ok (takenFor setting value) := by
  unfold givenBy
  split
  · rfl
  · next items =>
    rw [if_pos (written items rfl)]
    rfl
  · next noText noArray =>
    unfold takenFor
    split
    · exact absurd rfl (noText _)
    · exact absurd rfl (noArray _)
    · rfl

/-- With numbers that can be written, each component that a table holds is given as it is taken. -/
theorem givenIn_of_writable (written : IsWritable table) :
    givenIn table = .ok (givenOf table) := by
  apply Collecting.filterMapM_of_answers
  intro setting mem
  rw [heldFor]
  cases found : table.lookup setting.key with
  | none => rfl
  | some value =>
    simp only
    rw [givenBy_eq_ok]
    · rfl
    · rintro items rfl
      exact written setting mem items found

theorem eq_of_givenIn_eq_error {failure : Failure} (failed : givenIn table = .error failure) :
    failure = .tooLargeToWrite := by
  obtain ⟨setting, -, failed⟩ := Collecting.exists_of_filterMapM_eq_error failed
  split at failed
  · cases failed
  · next value found =>
    unfold givenBy at failed
    split at failed
    · cases failed
    · split at failed
      · cases failed
      · cases failed
        rfl
    · cases failed

theorem givenIn_of_not_writable (large : ¬IsWritable table) :
    givenIn table = .error .tooLargeToWrite := by
  cases outcome : givenIn table with
  | error failure => rw [eq_of_givenIn_eq_error outcome]
  | ok given =>
    refine absurd ?_ large
    intro setting mem items found
    obtain ⟨answer, answered⟩ := Collecting.exists_filterMapM_iff.1 ⟨given, outcome⟩ setting mem
    rw [found] at answered
    simp only [givenBy] at answered
    split at answered
    · next written => exact written
    · cases answered

theorem ofGiven_givenOf (table : Entries) :
    ofGiven (givenOf table) =
      if (strays table).isEmpty then .ok ((givenOf table).foldl give empty)
      else .error (strays table) := by
  have asked : ∀ setting ∈ Setting.components,
      (givenOf table).lookup setting = heldFor table setting := by
    intro setting mem
    rw [givenOf, Collecting.lookup_answers, if_pos mem]
  -- The base directory is settled apart, so it is among the settings and never given.
  have unasked : (givenOf table).lookup .baseDirectory = none := by
    rw [givenOf, Collecting.lookup_answers, if_neg (by decide)]
  have wrong : (Setting.components ++ [Setting.baseDirectory]).filter
      (fun setting => (givenOf table).lookup setting = some Given.other) = strays table := by
    rw [List.filter_append, strays, List.filter_singleton, unasked]
    refine (List.append_nil _).trans (List.filter_congr ?_)
    intro setting mem
    rw [asked setting mem]
  simp only [ofGiven, wrong]

/-- Whether a manifest can be made of a table. -/
structure Loadable (table : Entries) : Prop where
  written : IsWritable table
  based : HasBase table
  regular : strays table = []

theorem tableOf_eq_error_iff {document : Entries} {fault : ManifestFault} :
    tableOf document = .error fault ↔ fault = .notATable ∧
      ∃ value, document.lookup "classpath" = some value ∧ ∀ entries, value ≠ .table entries := by
  unfold tableOf
  split
  · next absent => simp [absent]
  · next entries found => simp [found]
  · next value other found =>
    constructor
    · intro failed
      cases failed
      exact ⟨rfl, value, found, other⟩
    · rintro ⟨rfl, -⟩
      rfl

theorem baseOf_of_hasBase (path : Path) (based : HasBase table) :
    ∃ base, baseOf path table = .ok base := by
  unfold baseOf
  split
  · exact ⟨_, rfl⟩
  · exact ⟨_, rfl⟩
  · next value other found =>
    obtain ⟨text, rfl⟩ := based value found
    exact absurd rfl (other text)

theorem baseOf_of_not_hasBase (path : Path) (baseless : ¬HasBase table) :
    baseOf path table = .error .baseDirectoryNotText := by
  unfold baseOf
  split
  · next absent =>
    refine absurd ?_ baseless
    intro value found
    cases absent.symm.trans found
  · next text given =>
    refine absurd ?_ baseless
    intro value found
    cases given.symm.trans found
    exact ⟨text, rfl⟩
  · rfl

/-- After its numbers and its base directory, the last that can be wrong with a table are strays. -/
theorem ofTable_of_baseOf (written : IsWritable table) {base : Path}
    (found : baseOf path table = .ok base) :
    ofTable path table =
      if (strays table).isEmpty then
        .ok { (givenOf table).foldl give empty with base := some (.path base) }
      else .error (.manifest path.toString (.notText (strays table))) := by
  rw [ofTable, givenIn_of_writable written, found]
  -- What was given and the base directory are there: what is left is to put them together.
  change ((ofGiven (givenOf table)).mapError _ >>= _) = _
  rw [ofGiven_givenOf]
  split <;> rfl

theorem ofTable_of_loadable (path : Path) (loadable : Loadable table) :
    ∃ base, ofTable path table =
      .ok { (givenOf table).foldl give empty with base := some (.path base) } := by
  obtain ⟨base, found⟩ := baseOf_of_hasBase path loadable.based
  refine ⟨base, ?_⟩
  rw [ofTable_of_baseOf loadable.written found, loadable.regular]
  rfl

/-! ## Three ends -/

/-- What is wrong with the manifest at a path. -/
inductive Faulty (files : FileSystem) (path : Path) : ManifestFault → Prop where
  | closed {failure : Failure} (refused : files.read path = .error failure) :
      Faulty files path (.unreadable failure.message)
  | malformed {text : String} {fault : Toml.Fault} (reads : Reads files path text)
      (refused : Toml.parse text = .error fault)
      (formal : ∀ count, fault ≠ .tooManyDigits count) :
      Faulty files path (.unreadable fault.message)
  | notATable {text : String} {document : Entries} {value : Toml.Value}
      (reads : Reads files path text) (parsed : Toml.parse text = .ok document)
      (found : document.lookup "classpath" = some value)
      (other : ∀ entries, value ≠ .table entries) : Faulty files path .notATable
  | baseDirectory {table : Entries} (gives : Gives files path table) (written : IsWritable table)
      (baseless : ¬HasBase table) : Faulty files path .baseDirectoryNotText
  | stray {table : Entries} (gives : Gives files path table) (written : IsWritable table)
      (based : HasBase table) (strayed : strays table ≠ []) :
      Faulty files path (.notText (strays table))

/-- What a file holds that makes loading it fail, and yet is no fault of the manifest. -/
inductive Escapes (files : FileSystem) (path : Path) : Failure → Prop where
  | notUtf8 {content : Content} (opened : files.read path = .ok content)
      (undecoded : Utf8.decode? content.data = none) : Escapes files path .notUtf8
  | tooManyDigits {text : String} {count : Nat} (reads : Reads files path text)
      (refused : Toml.parse text = .error (.tooManyDigits count)) :
      Escapes files path (.tooManyDigits count)
  | tooLargeToWrite {table : Entries} (gives : Gives files path table)
      (large : ¬IsWritable table) : Escapes files path .tooLargeToWrite

theorem load_of_faulty {fault : ManifestFault} (existing : files.isExisting path = .ok true)
    (faulty : Faulty files path fault) :
    load files path = .error (.manifest path.toString fault) := by
  cases faulty with
  | closed refused => rw [load_of_existing existing, refused]
  | @malformed text fault reads refused formal =>
    rw [load_of_reads reads, refused]
    cases fault with
    | tooManyDigits count => exact absurd rfl (formal count)
    | _ => rfl
  | @notATable text document value reads parsed found other =>
    rw [load_of_reads reads, parsed]
    simp only [ofDocument, tableOf_eq_error_iff.2 ⟨rfl, value, found, other⟩]
    rfl
  | baseDirectory gives written baseless =>
    rw [load_of_gives gives, ofTable, givenIn_of_writable written,
      baseOf_of_not_hasBase path baseless]
    rfl
  | @stray table gives written based strayed =>
    obtain ⟨base, found⟩ := baseOf_of_hasBase path based
    rw [load_of_gives gives, ofTable_of_baseOf written found, if_neg (by simpa using strayed)]

theorem load_of_escapes {failure : Failure} (escapes : Escapes files path failure) :
    load files path = .error failure := by
  cases escapes with
  | notUtf8 opened undecoded =>
    rw [load_of_existing (isExisting_of_read opened), opened]
    simp only [documentOf, undecoded]
    rfl
  | tooManyDigits reads refused => rw [load_of_reads reads, refused]
  | tooLargeToWrite gives large =>
    rw [load_of_gives gives, ofTable, givenIn_of_not_writable large]
    rfl

/-- Every file is loaded, faulty or such that its failure escapes. -/
theorem gives_or_faulty_or_escapes (files : FileSystem) (path : Path) :
    (∃ table, Gives files path table ∧ Loadable table) ∨ (∃ fault, Faulty files path fault) ∨
      ∃ failure, Escapes files path failure := by
  -- The cases come in the order in which a file is examined; the first that applies decides.
  cases opened : files.read path with
  | error failure => exact .inr (.inl ⟨_, .closed opened⟩)
  | ok content =>
    cases decoded : Utf8.decode? content.data with
    | none => exact .inr (.inr ⟨_, .notUtf8 opened decoded⟩)
    | some text =>
      have reads : Reads files path text := ⟨opened, decoded⟩
      cases parsed : Toml.parse text with
      | error fault =>
        by_cases long : ∃ count, fault = .tooManyDigits count
        · obtain ⟨count, rfl⟩ := long
          exact .inr (.inr ⟨_, .tooManyDigits reads parsed⟩)
        · rw [not_exists] at long
          exact .inr (.inl ⟨_, .malformed reads parsed long⟩)
      | ok document =>
        cases tabled : tableOf document with
        | error fault =>
          obtain ⟨-, value, found, other⟩ := tableOf_eq_error_iff.1 tabled
          exact .inr (.inl ⟨_, .notATable reads parsed found other⟩)
        | ok table =>
          have gives : Gives files path table := ⟨reads, parsed, tabled⟩
          by_cases written : IsWritable table
          · by_cases based : HasBase table
            · by_cases regular : strays table = []
              · exact .inl ⟨table, gives, written, based, regular⟩
              · exact .inr (.inl ⟨_, .stray gives written based regular⟩)
            · exact .inr (.inl ⟨_, .baseDirectory gives written based⟩)
          · exact .inr (.inr ⟨_, .tooLargeToWrite gives written⟩)

theorem Escapes.not_manifest {place : String} {fault : ManifestFault} :
    ¬Escapes files path (.manifest place fault) := nofun

/-- A number is too long to be read only in a text that has as many characters. -/
theorem Escapes.long {count : Nat} (escapes : Escapes files path (.tooManyDigits count)) :
    Text.digitLimit < count ∧ ∃ text, Reads files path text ∧ count ≤ text.length := by
  cases escapes with
  | tooManyDigits reads refused =>
    obtain ⟨above, below⟩ := Toml.parse_counts _ count refused
    exact ⟨above, _, reads, below⟩

theorem exists_load_iff (existing : files.isExisting path = .ok true) :
    (∃ manifest, load files path = .ok manifest) ↔
      ∃ table, Gives files path table ∧ Loadable table := by
  constructor
  · rintro ⟨manifest, loaded⟩
    obtain given | ⟨fault, faulty⟩ | ⟨failure, escapes⟩ := gives_or_faulty_or_escapes files path
    · exact given
    · cases loaded.symm.trans (load_of_faulty existing faulty)
    · cases loaded.symm.trans (load_of_escapes escapes)
  · rintro ⟨table, gives, loadable⟩
    obtain ⟨base, made⟩ := ofTable_of_loadable path loadable
    exact ⟨_, (load_of_gives gives).trans made⟩

/-- What a path that leads somewhere is refused for is wrong with the manifest, or escapes. -/
theorem faulty_or_escapes_of_load {failure : Failure} (existing : files.isExisting path = .ok true)
    (failed : load files path = .error failure) :
    (∃ fault, failure = .manifest path.toString fault ∧ Faulty files path fault) ∨
      Escapes files path failure := by
  obtain given | ⟨fault, faulty⟩ | ⟨other, escapes⟩ := gives_or_faulty_or_escapes files path
  · obtain ⟨manifest, loaded⟩ := (exists_load_iff existing).2 given
    cases failed.symm.trans loaded
  · cases failed.symm.trans (load_of_faulty existing faulty)
    exact .inl ⟨fault, rfl, faulty⟩
  · cases failed.symm.trans (load_of_escapes escapes)
    exact .inr escapes

/-- A path that leads somewhere is loaded as a manifest exactly if one can be made of its table, and
refused as a manifest for exactly the faults that it has. Any other failure is one of the three that
escape; where it is that a number has too many digits, the text has as many characters. -/
theorem load_ends (existing : files.isExisting path = .ok true) :
    ((∃ manifest, load files path = .ok manifest) ↔
      ∃ table, Gives files path table ∧ Loadable table) ∧
    (∀ fault, load files path = .error (.manifest path.toString fault) ↔
      Faulty files path fault) ∧
    (∀ failure, (∀ fault, failure ≠ .manifest path.toString fault) →
      (load files path = .error failure ↔ Escapes files path failure)) ∧
    ∀ count, Escapes files path (.tooManyDigits count) →
      Text.digitLimit < count ∧ ∃ text, Reads files path text ∧ count ≤ text.length := by
  refine ⟨exists_load_iff existing, ?_, ?_, fun _ => Escapes.long⟩
  · intro fault
    refine ⟨?_, load_of_faulty existing⟩
    intro failed
    obtain ⟨fault', same, faulty⟩ | escapes := faulty_or_escapes_of_load existing failed
    · cases same
      exact faulty
    · exact absurd escapes Escapes.not_manifest
  · intro failure other
    refine ⟨?_, load_of_escapes⟩
    intro failed
    obtain ⟨fault, rfl, -⟩ | escapes := faulty_or_escapes_of_load existing failed
    · exact absurd rfl (other fault)
    · exact escapes

/-- One byte that is no text, where a manifest is expected. -/
def garbled : FileSystem := .ofEntries [(["m.toml"], .file (.bytes [0xFF]))]

/-- Bytes that are no text escape, and nothing is wrong with the manifest itself. -/
theorem load_ends_garbled :
    garbled.isExisting (Path.ofString "/m.toml") = .ok true ∧
      Escapes garbled (Path.ofString "/m.toml") .notUtf8 ∧
      ∀ fault, ¬Faulty garbled (Path.ofString "/m.toml") fault := by
  have existing : garbled.isExisting (Path.ofString "/m.toml") = .ok true := by decide +kernel
  have failed : load garbled (Path.ofString "/m.toml") = .error .notUtf8 := by decide +kernel
  obtain ⟨-, faults, others, -⟩ := load_ends existing
  refine ⟨existing, (others .notUtf8 nofun).1 failed, ?_⟩
  intro fault faulty
  cases failed.symm.trans ((faults fault).2 faulty)

/-- A file that exists is neither loaded nor refused as a manifest. -/
theorem load_escapes_garbled :
    garbled.isExisting (Path.ofString "/m.toml") = .ok true ∧
      ¬((∃ manifest, load garbled (Path.ofString "/m.toml") = .ok manifest) ∨
        ∃ place fault, load garbled (Path.ofString "/m.toml") =
          .error (.manifest place fault)) := by
  have failed : load garbled (Path.ofString "/m.toml") = .error .notUtf8 := by decide +kernel
  refine ⟨by decide +kernel, ?_⟩
  rintro (⟨manifest, loaded⟩ | ⟨place, fault, refused⟩)
  · cases failed.symm.trans loaded
  · cases failed.symm.trans refused

end JvmClasspath.Manifest
