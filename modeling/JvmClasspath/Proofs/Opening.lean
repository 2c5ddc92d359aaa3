import JvmClasspath.Assembly
import JvmClasspath.Proofs.Collecting
import JvmClasspath.Proofs.Ending
import JvmClasspath.Proofs.Listing

/-!
# What opens

Whether a location opens, and what it opens as, is up to the files and the web alone. A session only
numbers the archives that are opened, and keeps what there was to note.

So an opening can be judged without a session: by when it gives an answer at all, which is the same
in every session, and by what its answers have in common. Both are put together from those of its
steps.

Two things may be missing for an answer. The system may refuse to look up a path, so that it cannot
be asked for; and what is to be opened may be an archive that is not supported.
-/

namespace JvmClasspath

variable {α β : Type}

/-! ## Runs -/

namespace Session.Run

/-- Whether a run can give this value. -/
def Returns (run : Run α) (value : α) : Prop :=
  ∃ session : Session, (run.run.run session).1 = .ok value

/-- Whether a run, in every session, gives a value exactly if `fine` holds, and only values that are
`good`. -/
structure Yields (run : Run α) (fine : Prop) (good : α → Prop) : Prop where
  returns_iff : ∀ session : Session, (∃ value, (run.run.run session).1 = .ok value) ↔ fine
  good : ∀ {session : Session} {value : α}, (run.run.run session).1 = .ok value → good value

variable {run : Run α} {fine fine' : Prop} {good good' : α → Prop}

/-- What follows need only be the same after values that can be returned. -/
theorem bind_congr_of_returns {next next' : α → Run β}
    (same : ∀ value, run.Returns value → next value = next' value) :
    (run >>= next) = (run >>= next') := by
  funext session
  change (run >>= next).run.run session = (run >>= next').run.run session
  rw [Collecting.run_bind, Collecting.run_bind]
  cases outcome : run.run.run session with
  | mk result later =>
    cases result with
    | error failure => rfl
    | ok value =>
      simp only
      rw [same value ⟨session, by rw [outcome]⟩]

theorem Yields.congr (yields : run.Yields fine good) (same : fine ↔ fine') :
    run.Yields fine' good :=
  ⟨fun session => (yields.returns_iff session).trans same, yields.good⟩

/-- What is good about a value may be said with the value being returned. -/
theorem Yields.imp (yields : run.Yields fine good)
    (better : ∀ value, run.Returns value → good value → good' value) : run.Yields fine good' :=
  ⟨yields.returns_iff, fun returned => better _ ⟨_, returned⟩ (yields.good returned)⟩

/-- Where a value is returned, what the run needs does hold. -/
theorem Yields.and_fine (yields : run.Yields fine good) :
    run.Yields fine fun value => good value ∧ fine :=
  yields.imp fun _ ⟨session, returned⟩ fits =>
    ⟨fits, (yields.returns_iff session).1 ⟨_, returned⟩⟩

theorem yields_pure {value : α} (fits : good value) : Yields (pure value) True good where
  returns_iff _ := ⟨fun _ => trivial, fun _ => ⟨value, rfl⟩⟩
  good returned := Except.ok.inj returned ▸ fits

theorem yields_throw (failure : Failure) : Yields (throw failure : Run α) False good :=
  ⟨fun _ => ⟨nofun, nofun⟩, nofun⟩

theorem yields_lift (answer : Except Failure α) :
    Yields (liftM answer) (∃ value, answer = .ok value) (answer = .ok ·) := by
  cases answer with
  | error failure => exact ⟨fun _ => Iff.rfl, nofun⟩
  | ok value => exact ⟨fun _ => Iff.rfl, fun returned => returned⟩

theorem yields_fresh : Yields fresh True fun _ => True :=
  ⟨fun session => ⟨fun _ => trivial, fun _ => ⟨session.next, rfl⟩⟩, fun _ => trivial⟩

theorem yields_note (notice : Notice) : Yields (note notice) True fun _ => True :=
  ⟨fun _ => ⟨fun _ => trivial, fun _ => ⟨(), rfl⟩⟩, fun _ => trivial⟩

theorem yields_download (web : Web) (url : String) :
    Yields (download web url) True (web.download url = ·) :=
  ⟨fun _ => ⟨fun _ => trivial, fun _ => ⟨_, rfl⟩⟩, fun returned => Except.ok.inj returned⟩

/-- One run after another. What the second one needs must be the same after all good values of the
first. -/
theorem Yields.bind {next : α → Run β} {need : Prop} {last : β → Prop}
    (first : run.Yields fine good) (second : ∀ value, good value → (next value).Yields need last) :
    (run >>= next).Yields (fine ∧ need) last where
  returns_iff session := by
    have returns := first.returns_iff session
    have result := @first.good session
    rw [Collecting.run_bind]
    cases outcome : run.run.run session with
    | mk answer later =>
      rw [outcome] at returns result
      cases answer with
      | error failure =>
        constructor
        · exact nofun
        · intro needed
          exact nomatch returns.2 needed.1
      | ok value =>
        have fits := (second value (result rfl)).returns_iff later
        exact ⟨fun given => ⟨returns.1 ⟨value, rfl⟩, fits.1 given⟩, fun needed => fits.2 needed.2⟩
  good := by
    intro session value returned
    have result := @first.good session
    rw [Collecting.run_bind] at returned
    cases outcome : run.run.run session with
    | mk answer later =>
      rw [outcome] at returned result
      cases answer with
      | error failure => cases returned
      | ok middle => exact (second middle (result rfl)).good returned

/-- A run that is followed by one that never fails. -/
theorem Yields.followed {next : α → Run β} {last : β → Prop} (first : run.Yields fine good)
    (second : ∀ value, good value → (next value).Yields True last) :
    (run >>= next).Yields fine last :=
  (first.bind second).congr (and_iff_left trivial)

theorem Yields.and (left : run.Yields fine good) (right : run.Yields fine good') :
    run.Yields fine fun value => good value ∧ good' value :=
  ⟨left.returns_iff, fun returned => ⟨left.good returned, right.good returned⟩⟩

/-- A run that goes on with a value that is there or not, whatever the session. -/
theorem yields_lift_bind {answer : Except Failure α} {next : α → Run β} {need : α → Prop}
    {last : β → Prop}
    (second : ∀ value, answer = .ok value → (next value).Yields (need value) last) :
    (liftM answer >>= next).Yields (∃ value, answer = .ok value ∧ need value) last := by
  cases answer with
  | error failure =>
    constructor
    · intro session
      exact ⟨nofun, nofun⟩
    · exact nofun
  | ok value =>
    have fits := (yields_lift (.ok value)).bind fun other same => by
      cases same
      exact second value rfl
    exact fits.congr (by simp)

theorem yields_mapM {ask : α → Run β} {fine : α → Prop} {good : α → β → Prop}
    (each : ∀ a, (ask a).Yields (fine a) (good a)) (asked : List α) :
    (asked.mapM ask).Yields (∀ a ∈ asked, fine a) (List.Forall₂ good asked) := by
  induction asked with
  | nil =>
    rw [List.mapM_nil]
    exact (yields_pure .nil).congr (by simp)
  | cons a rest ih =>
    rw [List.mapM_cons, List.forall_mem_cons]
    apply (each a).bind
    intro here fits
    apply ih.followed
    intro below all
    exact yields_pure (.cons fits all)

end Session.Run

open Session Session.Run

/-! ## Paths -/

namespace FileSystem

/-- Whether a path can be asked for: it holds a U+0000, which leads nowhere, or the system does not
refuse to look it up. -/
def Takes (files : FileSystem) (path : Path) : Prop :=
  path.hasNull = true ∨ ∀ cause, files.resolve path = .error cause → cause.meansAbsent = true

theorem lookUp_eq_ok_iff {files : FileSystem} {path : Path} :
    (∃ entry, files.lookUp path = .ok entry) ↔ files.Takes path := by
  rw [lookUp, Takes]
  cases path.hasNull with
  | true => simp
  | false =>
    rcases files.resolve path with cause | ⟨place, entry⟩
    · cases absent : cause.meansAbsent <;> simp [absent]
    · simp

/-- What can be read is a file. -/
theorem lookUp_of_read {files : FileSystem} {path : Path} {content : Content}
    (read : files.read path = .ok content) :
    files.lookUp path = .ok (some (.file content)) := by
  rw [FileSystem.read] at read
  rw [lookUp]
  split at read
  · cases read
  · next noNull =>
    split at read
    · cases read
    · cases read
    · next place content' leads =>
      split at read
      · cases read
      · cases read
        rw [if_neg noNull, leads]

/-- A file can be read, or the system refuses to open it. -/
theorem read_of_lookUp {files : FileSystem} {path : Path} {content : Content}
    (found : files.lookUp path = .ok (some (.file content))) :
    files.read path = .ok content ∨
      files.read path = .error (.system .permissionDenied path.toString) := by
  rw [lookUp] at found
  rw [FileSystem.read]
  split at found
  · cases found
  · next noNull =>
    rw [if_neg noNull]
    cases leads : files.resolve path with
    | error cause =>
      rw [leads] at found
      cases absent : cause.meansAbsent <;> simp [absent] at found
    | ok here =>
      rcases here with ⟨place, entry⟩
      rw [leads] at found
      cases found
      by_cases closed : place ∈ files.forbidden
      · exact .inr (if_pos closed)
      · exact .inl (if_neg closed)

theorem isDirectory_eq_ok_iff {files : FileSystem} {path : Path} :
    (∃ answer, files.isDirectory path = .ok answer) ↔ files.Takes path :=
  Collecting.exists_map_eq_ok.trans lookUp_eq_ok_iff

theorem isFile_eq_ok_iff {files : FileSystem} {path : Path} :
    (∃ answer, files.isFile path = .ok answer) ↔ files.Takes path :=
  Collecting.exists_map_eq_ok.trans lookUp_eq_ok_iff

end FileSystem

/-- Whether what a file holds is anything but an archive that is not supported. -/
def Content.IsSupported : Content → Prop
  | .bytes _ => True
  | .archive _ => True
  | .unsupported .. => False

theorem Content.isSupported_of_members {content : Content} {members : List Member}
    (read : content.members = .ok members) : content.IsSupported := by
  cases content with
  | bytes data => trivial
  | archive members => trivial
  | unsupported data obstacle => cases read

theorem Content.isSupported_of_notAnArchive {content : Content}
    (unread : content.members = .error .notAnArchive) : content.IsSupported := by
  cases content with
  | bytes data => trivial
  | archive members => cases unread
  | unsupported data obstacle => cases unread

/-- Where not all contents of a kind are supported, one of them is an archive that is not. -/
theorem Content.exists_unsupported {fits : Content → Prop}
    (unsupported : ¬∀ content, fits content → content.IsSupported) :
    ∃ data obstacle, fits (.unsupported data obstacle) := by
  obtain ⟨content, unsupported⟩ := Classical.not_forall.1 unsupported
  obtain ⟨here, unsupported⟩ := Classical.not_imp.1 unsupported
  cases content with
  | bytes data => exact absurd trivial unsupported
  | archive members => exact absurd trivial unsupported
  | unsupported data obstacle => exact ⟨data, obstacle, here⟩

namespace Location

variable {files : FileSystem}

/-- What a path opens as: a directory as it stands, or a file that is named as an archive and is
one. The archive may have any number. -/
inductive Opens (files : FileSystem) (path : Path) : File → Prop where
  | directory (found : files.lookUp path = .ok (some .directory)) : Opens files path (.plain path)
  | archive {content : Content} {members : List Member} (opening : Nat)
      (found : files.lookUp path = .ok (some (.file content)))
      (named : hasArchiveSuffix path = true)
      (read : (Archive.Source.path path).members files = .ok members) :
      Opens files path
        (.archive ⟨opening, .path path, path.name, path.toString, Archive.index members⟩)

/-- Whether an answer tells what opens, or tells rightly that nothing does. -/
def Tells (opens : File → Prop) : Option File → Prop
  | some file => opens file
  | none => ∀ file, ¬opens file

/-- What opens is returned in the end, be it another opening of it. -/
theorem exists_returns_iff {opens : File → Prop} {run : Run (Option File)} {fine : Prop}
    (yields : run.Yields fine (Tells opens)) (taken : ∀ file, opens file → fine) :
    (∃ file, run.Returns (some file)) ↔ ∃ file, opens file := by
  constructor
  · rintro ⟨file, session, returned⟩
    exact ⟨file, yields.good returned⟩
  · rintro ⟨file, opened⟩
    obtain ⟨answer, returned⟩ := (yields.returns_iff .start).2 (taken file opened)
    cases answer with
    | none => exact absurd opened (yields.good returned file)
    | some file => exact ⟨file, .start, returned⟩

/-- Whether what would be opened as an archive at a path is anything but one that is not
supported. -/
def Supports (files : FileSystem) (path : Path) : Prop :=
  hasArchiveSuffix path = true → ∀ content, files.read path = .ok content → content.IsSupported

/-- Whether it can be told what a path opens as, were it nothing: the path can be asked for, and no
archive that is not supported is opened there. -/
structure Takes (files : FileSystem) (path : Path) : Prop where
  asked : files.Takes path
  supported : Supports files path

theorem takes_of_opens {path : Path} {file : File} (opens : Opens files path file) :
    Takes files path := by
  cases opens with
  | directory found =>
    refine ⟨FileSystem.lookUp_eq_ok_iff.1 ⟨_, found⟩, ?_⟩
    intro _ content read
    cases found.symm.trans (FileSystem.lookUp_of_read read)
  | archive opening found named members =>
    refine ⟨FileSystem.lookUp_eq_ok_iff.1 ⟨_, found⟩, ?_⟩
    intro _ content read
    rw [Archive.Source.members, read] at members
    exact Content.isSupported_of_members members

/-- An archive that fails to open is taken for none unless it is not supported. -/
theorem closesArchive_iff {path : Path} {content : Content} {failure : Failure}
    (found : files.lookUp path = .ok (some (.file content)))
    (failed : (Archive.Source.path path).members files = .error failure) :
    failure.closesArchive = true ↔
      ∀ content, files.read path = .ok content → content.IsSupported := by
  rw [Archive.Source.members] at failed
  rcases FileSystem.read_of_lookUp found with read | refused
  · rw [read] at failed ⊢
    cases content with
    | bytes data =>
      cases failed
      simp [Failure.closesArchive, Content.IsSupported]
    | archive members => cases failed
    | unsupported data obstacle =>
      cases failed
      simp [Failure.closesArchive, Content.IsSupported]
  · rw [refused] at failed ⊢
    cases failed
    simp [Failure.closesArchive]

/-- What is done with a file that is named as an archive. -/
def openArchive? (files : FileSystem) (path : Path) : Run (Option File) := do
  match Archive.openPath files (← Session.fresh) path with
  | .ok archive => return some (.archive archive)
  | .error failure =>
    if failure.closesArchive then
      Session.note (.unreadableArchive path.toString failure)
      return none
    else throw failure

/-- A path is looked up once. -/
theorem openPath?_eq (files : FileSystem) (path : Path) :
    openPath? files path = do
      match ← files.lookUp path with
      | none => return none
      | some .directory => return some (.plain path)
      | some (.file _) =>
        if hasArchiveSuffix path then openArchive? files path else return none := by
  rw [openPath?, FileSystem.isDirectory, FileSystem.isFile]
  rcases files.lookUp path with failure | _ | _ | content
  · rfl
  · rfl
  · rfl
  · cases hasArchiveSuffix path <;> rfl

theorem openArchive?_yields {path : Path} {content : Content}
    (found : files.lookUp path = .ok (some (.file content)))
    (named : hasArchiveSuffix path = true) :
    (openArchive? files path).Yields
      (∀ content, files.read path = .ok content → content.IsSupported)
      (Tells (Opens files path)) := by
  apply (yields_fresh.bind _).congr (iff_of_eq (true_and _))
  intro opening _
  rw [Archive.openPath, Archive.open]
  cases read : (Archive.Source.path path).members files with
  | error failure =>
    rw [← closesArchive_iff found read]
    change Yields (if failure.closesArchive then _ else _) _ _
    by_cases closes : failure.closesArchive = true
    · rw [if_pos closes]
      apply ((yields_note _).followed _).congr (iff_of_true trivial closes)
      intro _ _
      apply yields_pure
      intro file opens
      cases opens with
      | directory found' => simp [found] at found'
      | archive opening found' named' read' => simp [read] at read'
    · rw [if_neg closes]
      exact (yields_throw failure).congr (iff_of_false id closes)
  | ok members =>
    have opens := Opens.archive opening found named read
    have told : Tells (Opens files path) (some _) := opens
    exact (yields_pure told).congr (iff_of_true trivial ((takes_of_opens opens).supported named))

/-- Opening a path fails only if the path cannot be asked for, or leads to an archive that is not
supported. -/
theorem openPath?_yields (files : FileSystem) (path : Path) :
    (openPath? files path).Yields (Takes files path) (Tells (Opens files path)) := by
  have parts : (∃ entry, files.lookUp path = .ok entry ∧ Supports files path) ↔
      Takes files path := by
    rw [exists_and_right, FileSystem.lookUp_eq_ok_iff]
    exact ⟨fun ⟨asked, supported⟩ => ⟨asked, supported⟩,
      fun taken => ⟨taken.asked, taken.supported⟩⟩
  rw [openPath?_eq, ← parts]
  apply yields_lift_bind
  intro entry found
  -- Only a file can be read, so of anything else nothing more is asked.
  have unread : (∀ content, entry ≠ some (.file content)) → (True ↔ Supports files path) := by
    intro noFile
    refine iff_of_true trivial fun _ content read => ?_
    exact absurd (Except.ok.inj (found.symm.trans (FileSystem.lookUp_of_read read)))
      (noFile content)
  cases entry with
  | none =>
    apply (yields_pure _).congr (unread nofun)
    intro file opens
    cases opens with
    | directory found' => simp [found] at found'
    | archive opening found' named' read' => simp [found] at found'
  | some entry =>
    cases entry with
    | directory => exact (yields_pure (.directory found)).congr (unread nofun)
    | file content =>
      by_cases named : hasArchiveSuffix path = true
      · simp only [named, if_true, Supports, forall_const]
        exact openArchive?_yields found named
      · simp only [named]
        apply (yields_pure _).congr (by simp [Supports, named])
        intro file opens
        cases opens with
        | directory found' => simp [found] at found'
        | archive opening found' named' read' => exact named named'

/-! ## URLs -/

/-- The path that a URL of a local file spells. -/
def localPath (url : Url) : Path :=
  Path.ofString (String.ofList (Url.percentDecode url.path.toList))

/-- What a URL opens as: what its path opens as, or an archive that is downloaded. -/
inductive UrlOpens (world : World) (text : String) : File → Prop where
  | local {url : Url} {file : File} (parsed : Url.parse text = .ok url)
      (scheme : url.scheme = "file") (opens : Opens world.files (localPath url) file) :
      UrlOpens world text file
  | web {url : Url} {body : Content} {members : List Member} (opening : Nat)
      (parsed : Url.parse text = .ok url) (scheme : url.scheme ∈ webSchemes)
      (downloaded : world.web.download text = .ok body) (read : body.members = .ok members) :
      UrlOpens world text
        (.archive ⟨opening, .memory members, downloadName url, text, Archive.index members⟩)

/-- Whether it can be told what a URL opens as, were it nothing: the URL can be cut into parts, of a
local one this can be told of its path, and what is downloaded is supported. -/
def TakesUrl (world : World) (text : String) : Prop :=
  ∃ url, Url.parse text = .ok url ∧ (url.scheme = "file" → Takes world.files (localPath url)) ∧
    (url.scheme ∈ webSchemes → ∀ body, world.web.download text = .ok body → body.IsSupported)

/-- What a URL opens as, said of its parts. -/
theorem urlOpens_iff {world : World} {text : String} {url : Url}
    (parsed : Url.parse text = .ok url) {file : File} :
    UrlOpens world text file ↔
      (url.scheme = "file" ∧ Opens world.files (localPath url) file) ∨
        (url.scheme ∈ webSchemes ∧ ∃ opening body members, world.web.download text = .ok body ∧
          body.members = .ok members ∧ file = .archive
            ⟨opening, .memory members, downloadName url, text, Archive.index members⟩) := by
  constructor
  · intro opens
    cases opens with
    | «local» parsed' scheme opens =>
      cases parsed.symm.trans parsed'
      exact .inl ⟨scheme, opens⟩
    | web opening parsed' scheme downloaded read =>
      cases parsed.symm.trans parsed'
      exact .inr ⟨scheme, opening, _, _, downloaded, read, rfl⟩
  · rintro (⟨scheme, opens⟩ | ⟨scheme, opening, body, members, downloaded, read, rfl⟩)
    · exact .local parsed scheme opens
    · exact .web opening parsed scheme downloaded read

/-- Why a URL that can be asked for does not open: nothing opens at its path, its scheme leads
nowhere, it cannot be downloaded, or what is downloaded is no archive. -/
inductive UrlCloses (world : World) (text : String) : UrlFault → Prop where
  | place {url : Url} (parsed : Url.parse text = .ok url) (scheme : url.scheme = "file")
      (taken : Takes world.files (localPath url))
      (nothing : ∀ file, ¬Opens world.files (localPath url) file) :
      UrlCloses world text .notOpenable
  | scheme {url : Url} (parsed : Url.parse text = .ok url) (elsewhere : url.scheme ≠ "file")
      (unknown : url.scheme ∉ webSchemes) : UrlCloses world text (.unsupportedScheme url.scheme)
  | download {url : Url} {reason : String} (parsed : Url.parse text = .ok url)
      (scheme : url.scheme ∈ webSchemes) (failed : world.web.download text = .error reason) :
      UrlCloses world text (.unreachable reason)
  | content {url : Url} {body : Content} (parsed : Url.parse text = .ok url)
      (scheme : url.scheme ∈ webSchemes) (downloaded : world.web.download text = .ok body)
      (unread : body.members = .error .notAnArchive) : UrlCloses world text .notAnArchive

/-- Whether an answer tells what a URL opens as, or why it does not open. -/
def UrlAnswers (world : World) (text : String) : Except UrlFault File → Prop
  | .ok file => UrlOpens world text file
  | .error fault => UrlCloses world text fault

section

variable {world : World} {text : String} {url : Url}

theorem scheme_ne_file (known : url.scheme ∈ webSchemes) : url.scheme ≠ "file" := by
  intro scheme
  simp [webSchemes, scheme] at known

/-- What is closed for some reason opens as nothing. -/
theorem UrlCloses.not_opens {fault : UrlFault} (closes : UrlCloses world text fault) (file : File) :
    ¬UrlOpens world text file := by
  intro opens
  cases closes with
  | place parsed scheme taken nothing =>
    rcases (urlOpens_iff parsed).1 opens with ⟨-, opens⟩ | ⟨onWeb, -⟩
    · exact nothing file opens
    · exact scheme_ne_file onWeb scheme
  | scheme parsed elsewhere unknown => simp [urlOpens_iff parsed, elsewhere, unknown] at opens
  | download parsed scheme failed =>
    simp [urlOpens_iff parsed, scheme_ne_file scheme, failed] at opens
  | content parsed scheme downloaded unread =>
    simp [urlOpens_iff parsed, scheme_ne_file scheme, downloaded, unread] at opens

/-- The URL of a local file opens as its path does. -/
theorem openLocal_yields (parsed : Url.parse text = .ok url) (scheme : url.scheme = "file") :
    Yields (do
        match ← openPath? world.files (localPath url) with
        | some file => return .ok file
        | none => return .error .notOpenable)
      (Takes world.files (localPath url)) (UrlAnswers world text) := by
  apply (openPath?_yields world.files (localPath url)).and_fine.followed
  rintro answer ⟨tells, taken⟩
  cases answer with
  | some file => exact yields_pure (.local parsed scheme tells)
  | none => exact yields_pure (.place parsed scheme taken tells)

/-- A URL that is not local opens as what is downloaded. -/
theorem openWeb_yields (parsed : Url.parse text = .ok url) (elsewhere : url.scheme ≠ "file") :
    Yields (do
        if url.scheme ∉ webSchemes then
          return .error (.unsupportedScheme url.scheme)
        else
          match ← Session.download world.web text with
          | .error reason =>
            Session.note (.unreachable text reason)
            return .error (.unreachable reason)
          | .ok body =>
            match Archive.ofContent (← Session.fresh) body (downloadName url) text with
            | .ok archive => return .ok (.archive archive)
            | .error .notAnArchive =>
              Session.note (.notAnArchive text)
              return .error .notAnArchive
            | .error failure => throw failure)
      (url.scheme ∈ webSchemes → ∀ body, world.web.download text = .ok body → body.IsSupported)
      (UrlAnswers world text) := by
  split
  · next unknown =>
    exact (yields_pure (.scheme parsed elsewhere unknown)).congr (by simp [unknown])
  · next known =>
    have scheme : url.scheme ∈ webSchemes := Decidable.not_not.1 known
    simp only [scheme, forall_const]
    apply ((yields_download world.web text).bind _).congr (iff_of_eq (true_and _))
    intro answer downloaded
    rw [downloaded]
    cases answer with
    | error reason =>
      apply ((yields_note _).followed _).congr (by simp)
      intro _ _
      exact yields_pure (.download parsed scheme downloaded)
    | ok body =>
      simp only [Except.ok.injEq, forall_eq']
      apply (yields_fresh.bind _).congr (iff_of_eq (true_and _))
      intro opening _
      cases body with
      | bytes data =>
        apply (yields_note _).followed
        intro _ _
        exact yields_pure (.content parsed scheme downloaded rfl)
      | archive members => exact yields_pure (.web opening parsed scheme downloaded rfl)
      | unsupported data obstacle => exact yields_throw _

/-- Opening a URL fails only if it cannot be told what the URL opens as. -/
theorem openUrl_answers (world : World) (text : String) :
    (openUrl world text).Yields (TakesUrl world text) (UrlAnswers world text) := by
  have parses : ∀ {url}, (Url.parse text).mapError Failure.malformedUrl = .ok url ↔
      Url.parse text = .ok url := by
    cases Url.parse text <;> simp [Except.mapError]
  rw [openUrl, TakesUrl]
  simp only [← parses]
  apply yields_lift_bind
  intro url parsed
  by_cases scheme : url.scheme = "file"
  · have notOnWeb : url.scheme ∉ webSchemes := fun known => scheme_ne_file known scheme
    simp only [scheme, if_true, forall_const]
    exact (openLocal_yields (parses.1 parsed) scheme).congr (by simp [notOnWeb, ← scheme])
  · simp only [scheme, if_false]
    exact (openWeb_yields (parses.1 parsed) scheme).congr (by simp)

theorem openUrl_yields (world : World) (text : String) :
    (openUrl world text).Yields (TakesUrl world text)
      (fun answer => Tells (UrlOpens world text) answer.toOption) := by
  apply (openUrl_answers world text).imp
  intro answer _ answers
  cases answer with
  | ok file => exact answers
  | error fault => exact answers.not_opens

end

/-! ## Extensions -/

/-- What a child of an extension directory opens as. -/
def ExtensionOpens (files : FileSystem) : File → File → Prop
  | .plain path, file => Opens files path file
  | child, file => child.isDirectory files = .ok true ∧ file = child

/-- Whether it can be told what a child of an extension directory opens as. Of what lies inside an
archive it always can. -/
def TakesFile (files : FileSystem) : File → Prop
  | .plain path => Takes files path
  | _ => True

/-- Where it can be told what a file opens as, the file can be told to be a directory or not. -/
theorem isDirectory_of_takesFile {file : File} (taken : TakesFile files file) :
    ∃ answer, file.isDirectory files = .ok answer := by
  cases file with
  | plain path => exact FileSystem.isDirectory_eq_ok_iff.2 taken.asked
  | archive archive => exact ⟨true, rfl⟩
  | folder archive member children => exact ⟨true, rfl⟩
  | entry archive member => exact ⟨false, rfl⟩

/-- Of a file that is not named as an archive nothing more needs to be known. -/
theorem takesFile_of_isDirectory {file : File} {answer : Bool} (unnamed : ¬EndsAsArchive file.name)
    (known : file.isDirectory files = .ok answer) : TakesFile files file := by
  cases file with
  | plain path =>
    refine ⟨FileSystem.isDirectory_eq_ok_iff.1 ⟨answer, known⟩, ?_⟩
    intro named
    exact absurd (hasArchiveSuffix_iff.1 named).1 unnamed
  | archive archive => trivial
  | folder archive member children => trivial
  | entry archive member => trivial

/-- It can be told what the children of a path open as if it can be told of all that is listed
there. -/
theorem takes_children_iff {path : Path} {directory : File}
    (opens : Opens files path directory) :
    (∃ children, directory.children files = .ok children ∧
        ∀ child ∈ children, TakesFile files child) ↔
      ∀ names, files.list path = .ok names → ∀ name ∈ names, Takes files (path.child name) := by
  cases opens with
  | directory found =>
    have asked : files.isDirectory path = .ok true := by rw [FileSystem.isDirectory, found]; rfl
    rw [File.children, asked]
    cases files.list path with
    | error failure => simp [bind, Except.bind, pure, Except.pure]
    | ok names => simp [bind, Except.bind, pure, Except.pure, TakesFile]
  | archive opening found named read =>
    constructor
    · intro _ names listed
      cases found.symm.trans (FileSystem.lookUp_of_list listed)
    · intro _
      refine ⟨_, rfl, ?_⟩
      intro child mem
      rcases List.mem_map.1 mem with ⟨⟨name, tree⟩, -, rfl⟩
      cases tree <;> trivial

/-- Opening a child of an extension directory fails only if it cannot be told what it opens as. -/
theorem openExtension_yields (files : FileSystem) (child : File) :
    (Assembly.openExtension files child).Yields (TakesFile files child)
      (Tells (ExtensionOpens files child)) := by
  cases child with
  | plain path => exact openPath?_yields files path
  | archive archive => exact yields_pure ⟨rfl, rfl⟩
  | folder archive member children => exact yields_pure ⟨rfl, rfl⟩
  | entry archive member => exact yields_pure fun file opens => nomatch opens.1

end Location

end JvmClasspath
