import JvmClasspath.Proofs.Encoding
import JvmClasspath.Proofs.Outcomes

/-!
# Files by URL and by path

The boot path names local files by their paths, a codebase by URLs. The URL of a path spells it in
characters that have no meaning between the parts of a URL and none between the URLs of a codebase,
so every path arrives as it was meant. A class path whose codebase is made of such URLs has the same
entries and the same skips, one for one, as a class path that has the paths themselves for its boot
path.

The two are assembled in sessions of their own and number what they open differently. So their runs
are set side by side: step by step both fail alike, or give values that differ in the numbers alone.
-/

namespace JvmClasspath

open Session Session.Run

/-! ## Lists written as one text -/

namespace Text

/-- What was joined is found again also when the empty pieces are left out, since no part is one. -/
theorem filter_split_join {separator : Char} {parts : List String}
    (absent : ∀ part ∈ parts, separator ∉ part.toList) (nonempty : ∀ part ∈ parts, part ≠ "") :
    (split separator (join separator parts)).filter (· ≠ "") = parts := by
  cases parts with
  | nil => simp [split, join, joined, pieces]
  | cons part others =>
    rw [split_join (List.cons_ne_nil part others) absent, List.filter_eq_self]
    intro text mem
    exact decide_eq_true (nonempty text mem)

variable (separator : Char)

theorem exists_joined_cons (part : List Char) (others : List (List Char)) :
    ∃ behind, joined separator (part :: others) = part ++ behind := by
  cases others with
  | nil => exact ⟨[], (List.append_nil part).symm⟩
  | cons next others => exact ⟨_, rfl⟩

theorem exists_joined_concat (others : List (List Char)) (part : List Char) :
    ∃ front, joined separator (others ++ [part]) = front ++ part := by
  induction others with
  | nil => exact ⟨[], rfl⟩
  | cons first rest ih =>
    obtain ⟨front, spelled⟩ := ih
    refine ⟨first ++ separator :: front, ?_⟩
    rw [List.cons_append, joined, spelled, List.append_assoc, List.cons_append]
    simp

/-- Joined parts without blanks have no blanks at their ends, whatever they are joined with. -/
theorem stripped_joined {parts : List (List Char)} (nonempty : ∀ part ∈ parts, part ≠ [])
    (firm : ∀ part ∈ parts, ∀ c ∈ part, isBlank c = false) :
    stripped (joined separator parts) = joined separator parts := by
  have begins : (joined separator parts).dropWhile isBlank = joined separator parts := by
    cases parts with
    | nil => rfl
    | cons part others =>
      obtain ⟨c, rest, rfl⟩ := List.exists_cons_of_ne_nil (nonempty part List.mem_cons_self)
      obtain ⟨behind, spelled⟩ := exists_joined_cons separator (c :: rest) others
      have stays : isBlank c = false := firm _ List.mem_cons_self c List.mem_cons_self
      rw [spelled, List.cons_append, List.dropWhile_cons_of_neg (by simp [stays])]
  have ends : (joined separator parts).reverse.dropWhile isBlank =
      (joined separator parts).reverse := by
    obtain rfl | ⟨others, part, rfl⟩ := List.eq_nil_or_concat' parts
    · rfl
    · have mem : part ∈ others ++ [part] := List.mem_concat_self
      obtain rfl | ⟨init, c, rfl⟩ := List.eq_nil_or_concat' part
      · exact absurd rfl (nonempty [] mem)
      · obtain ⟨front, spelled⟩ :=
          exists_joined_concat separator others (init ++ [c])
        have stays : isBlank c = false := firm _ mem c List.mem_concat_self
        rw [spelled, ← List.append_assoc, List.reverse_concat,
          List.dropWhile_cons_of_neg (by simp [stays])]
  rw [stripped, strippedOf, begins, ends, List.reverse_reverse]

end Text

/-! ## The URL of a path -/

namespace Url

/-- The URL of a local file. -/
def fileUrl (path : String) : String := "file://" ++ String.ofList (percentEncode path.toList)

theorem toList_fileUrl (path : String) :
    (fileUrl path).toList = ['f', 'i', 'l', 'e', ':', '/', '/'] ++ percentEncode path.toList := by
  simp [fileUrl]

/-- What an encoded text is made of is visible and begins neither a query nor a fragment. -/
theorem plain_of_mem_percentEncode (text : List Char) : ∀ c ∈ percentEncode text,
    0x20 < c.toNat ∧ Text.isBlank c = false ∧ c ≠ '?' ∧ c ≠ '#' :=
  forall_mem_percentEncode (by decide) text

theorem plain_of_mem_fileUrl (path : String) :
    ∀ c ∈ (fileUrl path).toList, 0x20 < c.toNat ∧ Text.isBlank c = false := by
  rw [toList_fileUrl, List.forall_mem_append]
  refine ⟨by simp [Text.isBlank], ?_⟩
  intro c mem
  obtain ⟨visible, firm, -, -⟩ := plain_of_mem_percentEncode _ c mem
  exact ⟨visible, firm⟩

theorem cleaned_fileUrl (path : String) :
    cleaned (fileUrl path).toList = (fileUrl path).toList := by
  have visible := plain_of_mem_fileUrl path
  have begins : (fileUrl path).toList.dropWhile (·.toNat ≤ 0x20) = (fileUrl path).toList := by
    rw [toList_fileUrl, List.cons_append, List.dropWhile_cons_of_neg (by decide)]
  rw [cleaned, begins, List.filter_eq_self]
  intro c mem
  have apart : ∀ other : Char, other.toNat ≤ 0x20 → c ≠ other := by
    rintro other small rfl
    exact absurd (visible c mem).1 (Nat.not_lt.2 small)
  exact decide_eq_true ⟨apart _ (by decide), apart _ (by decide), apart _ (by decide)⟩

variable {path : String} (absolute : path.toList.head? = some '/')
include absolute

/-- A slash stands for itself. -/
theorem head?_percentEncode : (percentEncode path.toList).head? = some '/' := by
  cases spelled : path.toList with
  | nil => simp [spelled] at absolute
  | cons c rest =>
    rw [spelled] at absolute
    cases absolute
    rfl

/-- The URL of a path is cut into its scheme, no authority, and the encoded path. -/
theorem parse_fileUrl :
    parse (fileUrl path) = .ok ⟨"file", "", String.ofList (percentEncode path.toList)⟩ := by
  have plain := plain_of_mem_percentEncode path.toList
  have begins := head?_percentEncode absolute
  rw [parse, cleaned_fileUrl, toList_fileUrl]
  generalize percentEncode path.toList = encoded at plain begins
  have scheme : cutScheme (['f', 'i', 'l', 'e', ':', '/', '/'] ++ encoded) =
      (['f', 'i', 'l', 'e'], '/' :: '/' :: encoded) := rfl
  have authority : cutAuthority ('/' :: '/' :: encoded) = ([], encoded) := by
    cases encoded with
    | nil => cases begins
    | cons c rest =>
      cases begins
      rfl
  have noFragment : Text.upTo '#' encoded = encoded := by
    rw [Text.upTo, List.takeWhile_eq_self_iff]
    intro c mem
    exact decide_eq_true (plain c mem).2.2.2
  have noQuery : Text.upTo '?' encoded = encoded := by
    rw [Text.upTo, List.takeWhile_eq_self_iff]
    intro c mem
    exact decide_eq_true (plain c mem).2.2.1
  have noParameters : String.ofList ['f', 'i', 'l', 'e'] ∉ schemesWithParameters := by decide
  rw [scheme]
  simp only [authority, noFragment, noQuery, if_neg noParameters]
  rfl

theorem isCodebaseUrl_fileUrl : Expansion.isCodebaseUrl (fileUrl path) = true := by
  have begins := head?_percentEncode absolute
  rw [Expansion.isCodebaseUrl, parse_fileUrl absolute]
  have known : "file" ∈ Expansion.codebaseSchemes := by decide
  have nonempty : String.ofList (percentEncode path.toList) ≠ "" := by
    intro empty
    rw [String.ofList_eq_empty_iff] at empty
    rw [empty] at begins
    cases begins
  simp [known, nonempty]

end Url

namespace Assembly

/-- Items without blanks are the tokens of the codebase that they are joined to. -/
theorem codebaseTokens_join {items : List String} (nonempty : ∀ item ∈ items, item ≠ "")
    (firm : ∀ item ∈ items, ∀ c ∈ item.toList, Text.isBlank c = false) :
    codebaseTokens (Text.join ' ' items) = items := by
  have whole : Text.stripped (Text.join ' ' items).toList = (Text.join ' ' items).toList := by
    rw [Text.join, String.toList_ofList]
    apply Text.stripped_joined
    · rw [List.forall_mem_map]
      intro item mem empty
      exact nonempty item mem (String.toList_eq_nil_iff.1 empty)
    · rw [List.forall_mem_map]
      exact firm
  rw [codebaseTokens, whole, String.ofList_toList]
  refine Text.filter_split_join ?_ nonempty
  intro item mem space
  exact absurd (firm item mem ' ' space) (by decide)

/-- A codebase made of the URLs of paths has these for its tokens. -/
theorem codebaseTokens_fileUrls (paths : List String) :
    codebaseTokens (Text.join ' ' (paths.map Url.fileUrl)) = paths.map Url.fileUrl := by
  apply codebaseTokens_join
  · rw [List.forall_mem_map]
    intro path _ empty
    have spelled := Url.toList_fileUrl path
    rw [empty] at spelled
    cases spelled
  · rw [List.forall_mem_map]
    exact fun path _ c mem => (Url.plain_of_mem_fileUrl path c mem).2

end Assembly

/-! ## Opening both -/

/-- Whether two files are what one place opens as, the number of the opening apart. -/
inductive File.SameRoot : File → File → Prop where
  | plain (path : Path) : SameRoot (.plain path) (.plain path)
  | archive (opening opening' : Nat) (source : Archive.Source) (name location : String)
      (children : Archive.Children) :
      SameRoot (.archive ⟨opening, source, name, location, children⟩)
        (.archive ⟨opening', source, name, location, children⟩)

namespace Session.Run

variable {α α' β β' ι : Type}

/-- Whether two answers are one failure or two values that are related. -/
inductive SameAnswer (related : α → α' → Prop) : Except Failure α → Except Failure α' → Prop where
  | failed (failure : Failure) : SameAnswer related (.error failure) (.error failure)
  | given {value : α} {value' : α'} (same : related value value') :
      SameAnswer related (.ok value) (.ok value')

/-- Whether two runs, each in any session, give the same answer. -/
def Alongside (run : Run α) (run' : Run α') (related : α → α' → Prop) : Prop :=
  ∀ session session' : Session,
    SameAnswer related (run.run.run session).1 (run'.run.run session').1

variable {run : Run α} {run' : Run α'} {related : α → α' → Prop} {related' : β → β' → Prop}

theorem alongside_pure {value : α} {value' : α'} (same : related value value') :
    Alongside (pure value) (pure value') related :=
  fun _ _ => .given same

theorem alongside_throw (failure : Failure) :
    Alongside (throw failure : Run α) (throw failure : Run α') related :=
  fun _ _ => .failed failure

theorem Alongside.bind {next : α → Run β} {next' : α' → Run β'}
    (first : run.Alongside run' related)
    (second : ∀ value value', related value value' →
      (next value).Alongside (next' value') related') :
    (run >>= next).Alongside (run' >>= next') related' := by
  intro session session'
  have same := first session session'
  rw [Collecting.run_bind, Collecting.run_bind]
  cases outcome : run.run.run session with
  | mk answer later =>
    cases outcome' : run'.run.run session' with
    | mk answer' later' =>
      rw [outcome, outcome'] at same
      cases same with
      | failed failure => exact .failed failure
      | given same => exact second _ _ same later later'

theorem lift_ok_bind (value : α) (next : α → Run β) :
    liftM (Except.ok value : Except Failure α) >>= next = next value := rfl

/-- What has the same answer whatever the session is alongside itself. -/
theorem alongside_lift_bind {answer : Except Failure α} {next : α → Run β} {next' : α → Run β'}
    (second : ∀ value, answer = .ok value → (next value).Alongside (next' value) related') :
    Alongside (liftM answer >>= next) (liftM answer >>= next') related' := by
  cases answer with
  | error failure => exact fun _ _ => .failed failure
  | ok value => exact second value rfl

theorem alongside_fresh : fresh.Alongside fresh fun _ _ => True :=
  fun _ _ => .given trivial

theorem alongside_note (notice notice' : Notice) :
    (note notice).Alongside (note notice') fun _ _ => True :=
  fun _ _ => .given trivial

/-- Two runs that go through one list come to lists of related values. -/
theorem alongside_mapM {ask : ι → Run α} {ask' : ι → Run α'} {related : ι → α → α' → Prop}
    {asked : List ι} (each : ∀ i ∈ asked, (ask i).Alongside (ask' i) (related i)) :
    (asked.mapM ask).Alongside (asked.mapM ask') fun values values' =>
      ∃ pairs, List.Forall₂ (fun i pair => related i pair.1 pair.2) asked pairs ∧
        values = pairs.map Prod.fst ∧ values' = pairs.map Prod.snd := by
  induction asked with
  | nil => exact alongside_pure ⟨[], .nil, rfl, rfl⟩
  | cons i rest ih =>
    rw [List.forall_mem_cons] at each
    rw [List.mapM_cons, List.mapM_cons]
    apply each.1.bind
    intro value value' here
    apply (ih each.2).bind
    rintro _ _ ⟨pairs, below, rfl, rfl⟩
    exact alongside_pure ⟨(value, value') :: pairs, .cons here below, rfl, rfl⟩

end Session.Run

namespace Location

theorem openArchive?_alongside (files : FileSystem) (path : Path) :
    (openArchive? files path).Alongside (openArchive? files path)
      (Option.Rel File.SameRoot) := by
  apply alongside_fresh.bind
  intro opening opening' _
  rw [Archive.openPath, Archive.openPath, Archive.open, Archive.open]
  cases (Archive.Source.path path).members files with
  | error failure =>
    change Alongside (if failure.closesArchive then _ else _)
      (if failure.closesArchive then _ else _) _
    split
    · apply (alongside_note _ _).bind
      intro _ _ _
      exact alongside_pure .none
    · exact alongside_throw failure
  | ok members => exact alongside_pure (.some (.archive opening opening' ..))

/-- A path that is opened twice opens as the same, the number of the opening apart. -/
theorem openPath?_alongside (files : FileSystem) (path : Path) :
    (openPath? files path).Alongside (openPath? files path) (Option.Rel File.SameRoot) := by
  rw [openPath?_eq]
  apply alongside_lift_bind
  intro entry _
  cases entry with
  | none => exact alongside_pure .none
  | some entry =>
    cases entry with
    | directory => exact alongside_pure (.some (.plain path))
    | file content =>
      simp only
      split
      · exact openArchive?_alongside files path
      · exact alongside_pure .none

/-- The URL of a path is opened by opening the path. -/
theorem openUrl_fileUrl {path : String} (absolute : path.toList.head? = some '/') (world : World) :
    openUrl world (Url.fileUrl path) =
      return (← openPath? world.files (Path.ofString path)).elim (.error .notOpenable) .ok := by
  have spelled : String.ofList (Url.percentDecode
      (String.ofList (Url.percentEncode path.toList)).toList) = path := by
    rw [String.toList_ofList, Url.percentDecode_percentEncode, String.ofList_toList]
  rw [openUrl, Url.parse_fileUrl absolute, Except.mapError, lift_ok_bind, if_pos rfl]
  simp only [spelled]
  apply bind_congr
  intro answer
  cases answer <;> rfl

end Location

namespace Assembly

/-- What becomes of a location on the boot path and of its URL in a codebase: entries that show the
same, or skips for the same reason. -/
inductive Outcome.SameAt (policy : Policy) (path : String) : Outcome → Outcome → Prop where
  | entry (built built' : Nat) {file file' : File} (same : file.SameRoot file') :
      SameAt policy path (.entry (.directory built .binaries file policy))
        (.entry (.directory built' .binaries file' policy))
  | skip {reason reason' : SkipReason} (same : reason.message = reason'.message) :
      SameAt policy path (.skip ⟨.boot, path, reason⟩)
        (.skip ⟨.codebase, Url.fileUrl path, reason'⟩)

variable {setup : Setup}

theorem enter_alongside {file file' : File} (same : file.SameRoot file') (path : String) :
    (enter setup .binaries file).Alongside (enter setup .binaries file')
      (Outcome.SameAt setup.policy path) := by
  apply alongside_fresh.bind
  intro built built' _
  exact alongside_pure (.entry built built' same)

theorem leaveOut_alongside {path : String} {reason reason' : SkipReason}
    (same : reason.message = reason'.message) :
    (leaveOut .boot path reason).Alongside (leaveOut .codebase (Url.fileUrl path) reason')
      (Outcome.SameAt setup.policy path) := by
  apply (alongside_note _ _).bind
  intro _ _ _
  exact alongside_pure (.skip same)

/-- A path from the root is opened where it leads, whatever the base directory. -/
theorem within_of_absolute {path : String} (absolute : path.toList.head? = some '/')
    (base : Option Path) : (Path.ofString path).within base = Path.ofString path := by
  have anchored := Path.isAbsolute_ofString.2 absolute
  cases base with
  | none => rfl
  | some directory => exact Path.join_absolute anchored

/-- One path, on the boot path and as a URL. -/
theorem locationOutcome_alongside (setup : Setup) {path : String}
    (absolute : path.toList.head? = some '/') :
    (locationOutcome setup .boot .binaries path).Alongside (urlOutcome setup (Url.fileUrl path))
      (Outcome.SameAt setup.policy path) := by
  rw [locationOutcome, openLocation, within_of_absolute absolute, urlOutcome,
    if_pos (Url.isCodebaseUrl_fileUrl absolute), Location.openUrl_fileUrl absolute, bind_assoc]
  apply (Location.openPath?_alongside setup.world.files (Path.ofString path)).bind
  intro file? file?' same
  cases same with
  | some same => exact enter_alongside same path
  | none => exact leaveOut_alongside rfl

/-! ## The whole class path -/

/-- Nothing but a boot path. -/
def onBoot (boot : String) : Components := ⟨boot, "", "", "", ""⟩

/-- Nothing but a codebase. -/
def onCodebase (codebase : String) : Components := ⟨"", "", "", "", codebase⟩

theorem pathOutcomes_empty (setup : Setup) (component : Component) (stars : Bool) (role : Role) :
    pathOutcomes setup component stars role "" = pure [] := by
  cases stars <;> rfl

theorem extOutcomes_empty (setup : Setup) : extOutcomes setup "" = pure [] := rfl

theorem outcomes_onBoot (setup : Setup) {paths : List String}
    (absolute : ∀ path ∈ paths, path.toList.head? = some '/')
    (whole : ∀ path ∈ paths, ':' ∉ path.toList) :
    outcomes setup (onBoot (Text.join ':' paths)) =
      paths.mapM (locationOutcome setup .boot .binaries) := by
  have nonempty : ∀ path ∈ paths, path ≠ "" := by
    rintro path mem rfl
    simpa using absolute "" mem
  have located : (Expansion.locations (Text.join ':' paths)).filter (· ≠ "") = paths :=
    Text.filter_split_join whole nonempty
  simp only [outcomes, onBoot, pathOutcomes_empty, extOutcomes_empty, codebaseTokens_empty,
    List.mapM_nil, pure_bind, List.append_nil, bind_pure]
  rw [pathOutcomes, Expansion.expandAll, if_neg (by simp), lift_ok_bind, located]

theorem outcomes_onCodebase (setup : Setup) (paths : List String) :
    outcomes setup (onCodebase (Text.join ' ' (paths.map Url.fileUrl))) =
      paths.mapM fun path => urlOutcome setup (Url.fileUrl path) := by
  simp only [outcomes, onCodebase, pathOutcomes_empty, extOutcomes_empty, codebaseTokens_fileUrls,
    pure_bind, List.append_nil, List.nil_append, bind_pure, List.mapM_map, Function.comp_def]

/-- Whether two class paths are the halves of two sequences of outcomes, one for each path, that are
the same at each path. -/
def SameAtEach (setup : Setup) (paths : List String) (package package' : Package) : Prop :=
  ∃ built built' pairs,
    List.Forall₂ (fun path pair => Outcome.SameAt setup.policy path pair.1 pair.2) paths pairs ∧
      package = ofOutcomes setup built (pairs.map Prod.fst) ∧
      package' = ofOutcomes setup built' (pairs.map Prod.snd)

/-- It makes no difference whether files are named by their paths, on the boot path, or by the URLs
of these, in a codebase: either both class paths are refused for the same reason, or both have the
same outcomes at the same positions. -/
theorem assemble_fileUrls {paths : List String}
    (absolute : ∀ path ∈ paths, path.toList.head? = some '/')
    (whole : ∀ path ∈ paths, ':' ∉ path.toList) (setup : Setup) :
    (assemble setup (onBoot (Text.join ':' paths))).Alongside
      (assemble setup (onCodebase (Text.join ' ' (paths.map Url.fileUrl))))
      (SameAtEach setup paths) := by
  rw [assemble, assemble, outcomes_onBoot setup absolute whole, outcomes_onCodebase]
  have each : ∀ path ∈ paths, (locationOutcome setup .boot .binaries path).Alongside
      (urlOutcome setup (Url.fileUrl path)) (Outcome.SameAt setup.policy path) :=
    fun path mem => locationOutcome_alongside setup (absolute path mem)
  apply (alongside_mapM each).bind
  rintro _ _ ⟨pairs, same, rfl, rfl⟩
  apply (alongside_note _ _).bind
  intro _ _ _
  apply alongside_fresh.bind
  intro built built' _
  exact alongside_pure ⟨built, built', pairs, same, rfl, rfl⟩

/-- Paths with all that separates something elsewhere. The first leads to a directory, the last to
an archive, and the one with two slashes to nothing. -/
def wildPaths : List String := ["/a b#c?d%41;e", "//x/ü", "/é.jar"]

def wildSetup : Setup where
  world :=
    ⟨FileSystem.ofEntries [(["a b#c?d%41;e"], .directory), (["é.jar"], .file (.archive []))], ⟨[]⟩⟩
  base := some ⟨.root, ["w"]⟩
  policy := .showAll

/-- What is assembled from their URLs. -/
def wild : Package :=
  .merged 3
    (.wholeClassPath [⟨.codebase, "file:////x/%C3%BC", .url .notOpenable⟩])
    [.directory 0 .binaries (.plain ⟨.root, ["a b#c?d%41;e"]⟩) .showAll,
      .directory 2 .binaries
        (.archive ⟨1, .path ⟨.root, ["é.jar"]⟩, "é.jar", "/é.jar", []⟩) .showAll]
    .showAll

theorem assemble_fileUrls_wild :
    ((∀ path ∈ wildPaths, path.toList.head? = some '/') ∧
      ∀ path ∈ wildPaths, ':' ∉ path.toList) ∧
      ((assemble wildSetup (onCodebase
        "file:///a%20b%23c%3Fd%2541%3Be file:////x/%C3%BC file:///%C3%A9.jar")).run.run .start).1 =
          .ok wild ∧
      ∃ package, ((assemble wildSetup (onBoot "/a b#c?d%41;e://x/ü:/é.jar")).run.run .start).1 =
          .ok package ∧ SameAtEach wildSetup wildPaths package wild := by
  have absolute : ∀ path ∈ wildPaths, path.toList.head? = some '/' := by decide +kernel
  have whole : ∀ path ∈ wildPaths, ':' ∉ path.toList := by decide +kernel
  have boot : Text.join ':' wildPaths = "/a b#c?d%41;e://x/ü:/é.jar" := by decide +kernel
  have codebase : Text.join ' ' (wildPaths.map Url.fileUrl) =
      "file:///a%20b%23c%3Fd%2541%3Be file:////x/%C3%BC file:///%C3%A9.jar" := by decide +kernel
  have returned : ((assemble wildSetup (onCodebase
      "file:///a%20b%23c%3Fd%2541%3Be file:////x/%C3%BC file:///%C3%A9.jar")).run.run .start).1 =
        .ok wild := by decide +kernel
  have same := assemble_fileUrls absolute whole wildSetup .start .start
  rw [boot, codebase, returned] at same
  refine ⟨⟨absolute, whole⟩, returned, ?_⟩
  generalize ((assemble wildSetup (onBoot _)).run.run .start).1 = answer at same
  cases same with
  | given same => exact ⟨_, rfl, same⟩

end Assembly

end JvmClasspath
