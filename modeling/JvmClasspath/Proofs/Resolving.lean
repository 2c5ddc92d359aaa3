import JvmClasspath.Proofs.Locating

/-!
# What becomes of a URL

Asking for a URL has one of three ends. It opens, as a directory or as the root of an archive; it is
closed, and the fault says why nothing opens; or it is refused, and then there is no answer at all.
Which one it is depends on the URL, the files and the web alone, and no text has two of them.

Refused is a text that cannot be cut into the parts of a URL, whatever its scheme, the URL of a
local file whose path the system refuses to look up, and a URL that leads to an archive that is not
supported, be it a local file or downloaded. Everything else has an answer, be the web as it may.
-/

namespace JvmClasspath

open Session.Run

/-- Whether a file is one that a location opens as: a directory, or the root of an archive. -/
inductive File.IsRoot (files : FileSystem) : File → Prop where
  | directory {path : Path} (found : files.isDirectory path = .ok true) : IsRoot files (.plain path)
  | archive (archive : Archive) : IsRoot files (.archive archive)

namespace Location

variable {world : World} {text : String}

theorem isRoot_of_opens {files : FileSystem} {path : Path} {file : File}
    (opens : Opens files path file) : file.IsRoot files := by
  cases opens with
  | directory found =>
    refine .directory ?_
    rw [FileSystem.isDirectory, found]
    rfl
  | archive opening found named read => exact .archive _

theorem UrlOpens.isRoot {file : File} (opens : UrlOpens world text file) :
    file.IsRoot world.files := by
  cases opens with
  | «local» parsed scheme opens => exact isRoot_of_opens opens
  | web opening parsed scheme downloaded read => exact .archive _

/-! ## Closed for one reason -/

/-- A URL is closed for one reason at most. -/
theorem UrlCloses.unique {fault fault' : UrlFault} (closes : UrlCloses world text fault)
    (closes' : UrlCloses world text fault') : fault = fault' := by
  cases closes with
  | place parsed scheme taken nothing => cases closes' <;> grind [scheme_ne_file]
  | scheme parsed elsewhere unknown => cases closes' <;> grind
  | download parsed known failed => cases closes' <;> grind [scheme_ne_file]
  | content parsed known downloaded unread => cases closes' <;> grind [scheme_ne_file]

theorem UrlCloses.takesUrl {fault : UrlFault} (closes : UrlCloses world text fault) :
    TakesUrl world text := by
  cases closes with
  | place parsed scheme taken nothing =>
    exact ⟨_, parsed, fun _ => taken, fun known => absurd scheme (scheme_ne_file known)⟩
  | scheme parsed elsewhere unknown =>
    exact ⟨_, parsed, fun scheme => absurd scheme elsewhere, fun known => absurd known unknown⟩
  | download parsed known failed =>
    refine ⟨_, parsed, fun scheme => absurd scheme (scheme_ne_file known), fun _ body given => ?_⟩
    cases failed.symm.trans given
  | content parsed known downloaded unread =>
    refine ⟨_, parsed, fun scheme => absurd scheme (scheme_ne_file known), fun _ body given => ?_⟩
    cases downloaded.symm.trans given
    exact Content.isSupported_of_notAnArchive unread

/-! ## Refused -/

/-- Why a URL is refused: it cannot be cut into parts, it is that of a local file whose path the
system refuses to look up, or it leads to an archive that is not supported. -/
inductive RefusesUrl (world : World) (text : String) : Failure → Prop where
  | malformed {cause : Url.Error} (parsed : Url.parse text = .error cause) :
      RefusesUrl world text (.malformedUrl cause)
  | path {url : Url} {cause : SystemError} (parsed : Url.parse text = .ok url)
      (scheme : url.scheme = "file") (noNull : (localPath url).hasNull = false)
      (refused : world.files.resolve (localPath url) = .error cause)
      (stays : cause.meansAbsent = false) :
      RefusesUrl world text (.system cause (localPath url).toString)
  | archive {url : Url} {data : List UInt8} {obstacle : Zip.Obstacle}
      (parsed : Url.parse text = .ok url) (scheme : url.scheme = "file")
      (named : hasArchiveSuffix (localPath url) = true)
      (read : world.files.read (localPath url) = .ok (.unsupported data obstacle)) :
      RefusesUrl world text (.unsupportedArchive obstacle)
  | download {url : Url} {data : List UInt8} {obstacle : Zip.Obstacle}
      (parsed : Url.parse text = .ok url) (known : url.scheme ∈ webSchemes)
      (downloaded : world.web.download text = .ok (.unsupported data obstacle)) :
      RefusesUrl world text (.unsupportedArchive obstacle)

/-- A path of which it cannot be told what it opens as is refused, or leads to an archive that is
not supported. -/
theorem refused_of_not_takes {files : FileSystem} {path : Path} (untaken : ¬Takes files path) :
    (path.hasNull = false ∧
        ∃ cause, files.resolve path = .error cause ∧ cause.meansAbsent = false) ∨
      (hasArchiveSuffix path = true ∧
        ∃ data obstacle, files.read path = .ok (.unsupported data obstacle)) := by
  by_cases asked : files.Takes path
  · have unsupported : ¬Supports files path := fun supported => untaken ⟨asked, supported⟩
    obtain ⟨named, unsupported⟩ := Classical.not_imp.1 unsupported
    exact .inr ⟨named, Content.exists_unsupported unsupported⟩
  · rw [FileSystem.Takes, not_or, Bool.not_eq_true] at asked
    obtain ⟨cause, stays⟩ := Classical.not_forall.1 asked.2
    obtain ⟨refused, stays⟩ := Classical.not_imp.1 stays
    exact .inl ⟨asked.1, cause, refused, by simpa using stays⟩

/-- Where it cannot be told what a URL opens as, it is refused for a reason. -/
theorem exists_refusesUrl (untaken : ¬TakesUrl world text) :
    ∃ failure, RefusesUrl world text failure := by
  cases parsed : Url.parse text with
  | error cause => exact ⟨_, .malformed parsed⟩
  | ok url =>
    by_cases scheme : url.scheme = "file"
    · have notTaken : ¬Takes world.files (localPath url) := fun taken =>
        untaken ⟨url, parsed, fun _ => taken, fun known => absurd scheme (scheme_ne_file known)⟩
      rcases refused_of_not_takes notTaken with
        ⟨noNull, cause, refused, stays⟩ | ⟨named, data, obstacle, read⟩
      · exact ⟨_, .path parsed scheme noNull refused stays⟩
      · exact ⟨_, .archive parsed scheme named read⟩
    · have unsupported : ¬(url.scheme ∈ webSchemes →
          ∀ body, world.web.download text = .ok body → body.IsSupported) := fun supported =>
        untaken ⟨url, parsed, fun local_url => absurd local_url scheme, supported⟩
      obtain ⟨known, unsupported⟩ := Classical.not_imp.1 unsupported
      obtain ⟨data, obstacle, downloaded⟩ := Content.exists_unsupported unsupported
      exact ⟨_, .download parsed known downloaded⟩

theorem openUrl_of_refuses {failure : Failure} (refuses : RefusesUrl world text failure)
    (session : Session) : ((openUrl world text).run.run session).1 = .error failure := by
  cases refuses with
  | malformed parsed =>
    rw [openUrl, parsed]
    rfl
  | @path url cause parsed scheme noNull refused stays =>
    have unanswered : world.files.lookUp (localPath url) =
        .error (.system cause (localPath url).toString) := by
      simp [FileSystem.lookUp, noNull, refused, stays]
    rw [openUrl_of_file world parsed scheme, openPath?_eq, unanswered]
    rfl
  | @archive url data obstacle parsed scheme named read =>
    have unread : (Archive.Source.path (localPath url)).members world.files =
        .error (.unsupportedArchive obstacle) := by
      rw [Archive.Source.members, read]
      rfl
    rw [openUrl_of_file world parsed scheme, openPath?_eq, FileSystem.lookUp_of_read read,
      lift_ok_bind]
    simp only [if_pos named, openArchive?, Archive.openPath, Archive.open, unread]
    rfl
  | @download url data obstacle parsed known downloaded =>
    rw [openUrl, parsed, Except.mapError, lift_ok_bind, if_neg (scheme_ne_file known),
      if_neg (not_not_intro known), Session.download, downloaded]
    rfl

/-! ## The three ends -/

theorem requireUrl_of_closes {fault : UrlFault} {session : Session}
    (closed : ((openUrl world text).run.run session).1 = .ok (.error fault)) :
    ((requireUrl world text).run.run session).1 = .error (.unavailable text fault.message) := by
  rw [requireUrl, Collecting.run_bind]
  rcases outcome : (openUrl world text).run.run session with ⟨answer, later⟩
  rw [outcome] at closed
  cases closed
  rfl

/-- A URL opens as a directory or as the root of an archive, or it is closed and its fault is
reported with it, or it is refused. It is closed for exactly the faults that it has, and refused for
exactly the reasons that there are. -/
theorem openUrl_ends (world : World) (text : String) (session : Session) :
    (∀ file, ((openUrl world text).run.run session).1 = .ok (.ok file) →
      UrlOpens world text file ∧ file.IsRoot world.files) ∧
    (∀ fault, ((openUrl world text).run.run session).1 = .ok (.error fault) ↔
      UrlCloses world text fault) ∧
    (∀ fault, UrlCloses world text fault →
      ((requireUrl world text).run.run session).1 = .error (.unavailable text fault.message)) ∧
    ∀ failure, ((openUrl world text).run.run session).1 = .error failure ↔
      RefusesUrl world text failure := by
  have answers := openUrl_answers world text
  have closed_of_closes : ∀ fault, UrlCloses world text fault →
      ((openUrl world text).run.run session).1 = .ok (.error fault) := by
    intro fault closes
    obtain ⟨answer, returned⟩ := (answers.returns_iff session).2 closes.takesUrl
    have told := answers.good returned
    cases answer with
    | ok file => exact absurd told (closes.not_opens file)
    | error fault' => rw [returned, UrlCloses.unique told closes]
  refine ⟨?_, ?_, ?_, ?_⟩
  · intro file returned
    have opens : UrlOpens world text file := answers.good returned
    exact ⟨opens, opens.isRoot⟩
  · intro fault
    exact ⟨answers.good, closed_of_closes fault⟩
  · intro fault closes
    exact requireUrl_of_closes (closed_of_closes fault closes)
  · intro failure
    constructor
    · intro failed
      have untaken : ¬TakesUrl world text := by
        intro taken
        obtain ⟨answer, returned⟩ := (answers.returns_iff session).2 taken
        cases failed.symm.trans returned
      obtain ⟨cause, refuses⟩ := exists_refusesUrl untaken
      cases failed.symm.trans (openUrl_of_refuses refuses session)
      exact refuses
    · exact fun refuses => openUrl_of_refuses refuses session

/-- What is refused: a bracket without its partner, whether the URL is that of a local file or is to
be downloaded, a local file in a directory that may not be searched, and an archive that is not
supported, whether it is a local file or was downloaded. -/
theorem openUrl_refuses :
    ((openUrl ⟨.empty, ⟨[]⟩⟩ "http://[").run.run .start).1 =
      .error (.malformedUrl .strayBracket) ∧
    ((openUrl ⟨.empty, ⟨[]⟩⟩ "file://]/a.jar").run.run .start).1 =
      .error (.malformedUrl .strayBracket) ∧
    ((openUrl Assembly.guarded.world "file:///d/a.jar").run.run .start).1 =
      .error (.system .permissionDenied "/d/a.jar") ∧
    ((openUrl Assembly.guarded.world "file:///b.jar").run.run .start).1 =
      .error (.unsupportedArchive (.laterVersion 99)) ∧
    ((openUrl Assembly.guarded.world "http://h/c.jar").run.run .start).1 =
      .error (.unsupportedArchive (.laterVersion 99)) := by
  refine ⟨?_, ?_, ?_, ?_, ?_⟩ <;> decide +kernel

end Location

end JvmClasspath
