import JvmClasspath.Proofs.Addressing
import JvmClasspath.Proofs.Relocating

/-!
# Where the URLs of local files lead

A codebase may name local files by their URLs, which are opened at the path that they spell with
their triples decoded. If this path starts at the root, the URL leads to one place whatever the
current directory is.

The test of what a codebase may name asks for a host or a path, and not for a path from the root. So
two kinds of URLs pass that lead elsewhere from every directory: one without a host whose path is
relative, and one that has a host and nothing behind it. The host is not looked at when the URL is
opened, and the empty path is the current directory itself.
-/

namespace JvmClasspath

open Session.Run

/-! ## The parts of a URL -/

namespace Url

/-- Behind a host stands nothing, or what ends the host. -/
theorem cutAuthority_ends (text : List Char) :
    (cutAuthority text).1 = [] ∨
      ∀ c ∈ (cutAuthority text).2.head?, c = '/' ∨ c = '?' ∨ c = '#' := by
  unfold cutAuthority
  split
  · next rest =>
    right
    simp only
    intro c first
    have whole := List.takeWhile_append_dropWhile
      (p := fun c => decide (c ≠ '/' ∧ c ≠ '?' ∧ c ≠ '#')) (l := rest)
    have ended := List.head?_dropWhile_not (fun c => decide (c ≠ '/' ∧ c ≠ '?' ∧ c ≠ '#')) rest
    generalize List.takeWhile _ rest = host at *
    generalize List.dropWhile _ rest = behind at *
    rw [← whole, List.drop_left, Option.mem_def] at first
    rw [first] at ended
    have some : ¬(c ≠ '/' ∧ c ≠ '?' ∧ c ≠ '#') := of_decide_eq_false ended
    tauto
  · exact .inl rfl

/-- What is left without the query and the fragment starts with a slash if one stands in front of
both, and else there is nothing left. -/
theorem upTo_ends {behind : List Char} (ends : ∀ c ∈ behind.head?, c = '/' ∨ c = '?' ∨ c = '#') :
    Text.upTo '?' (Text.upTo '#' behind) = [] ∨
      (Text.upTo '?' (Text.upTo '#' behind)).head? = some '/' := by
  cases behind with
  | nil => exact .inl rfl
  | cons c rest =>
    rcases ends c rfl with rfl | rfl | rfl
    · right
      simp [Text.upTo]
    · left
      simp [Text.upTo]
    · left
      simp [Text.upTo]

/-- The path of a URL with a host is empty or starts with a slash. -/
theorem path_of_authority {text : String} {url : Url} (parsed : parse text = .ok url)
    (scheme : url.scheme = "file") :
    url.authority = "" ∨ url.path = "" ∨ url.path.toList.head? = some '/' := by
  rw [parse] at parsed
  generalize cutScheme (cleaned text.toList) = parts at parsed
  obtain ⟨lead, afterScheme⟩ := parts
  have ends := cutAuthority_ends afterScheme
  simp only at parsed
  generalize cutAuthority afterScheme = parts at parsed ends
  obtain ⟨host, behind⟩ := parts
  obtain ⟨-, -, parsed⟩ := Collecting.bind_eq_ok.1 parsed
  obtain ⟨-, -, parsed⟩ := Collecting.bind_eq_ok.1 parsed
  cases parsed
  have noParameters : String.ofList lead ∉ schemesWithParameters := by
    rw [show String.ofList lead = "file" from scheme]
    decide
  simp only [if_neg noParameters, String.ofList_eq_empty_iff, String.toList_ofList]
  rcases ends with noHost | ends
  · exact .inl noHost
  · exact .inr (upTo_ends ends)

/-- Whether the path that a URL spells, its triples decoded, starts at the root. -/
def IsRooted (url : Url) : Prop := (percentDecode url.path.toList).head? = some '/'

instance : DecidablePred IsRooted := fun _ => inferInstanceAs (Decidable (_ = _))

/-- A slash in front needs no decoding. -/
theorem isRooted_of_slash {url : Url} (slash : url.path.toList.head? = some '/') :
    url.IsRooted := by
  rw [IsRooted]
  cases spelled : url.path.toList with
  | nil => simp [spelled] at slash
  | cons c rest =>
    rw [spelled] at slash
    cases slash
    rfl

theorem isAbsolute_localPath {url : Url} :
    (Location.localPath url).isAbsolute = true ↔ url.IsRooted := by
  rw [Location.localPath, Path.isAbsolute_ofString, String.toList_ofList, IsRooted]

/-- The two kinds of URLs that are accepted without leading to a place of their own: a host with
nothing behind it, and a relative path without a host. -/
inductive Strays : Url → Prop where
  | host {url : Url} (named : url.authority ≠ "") (nothing : url.path = "") : Strays url
  | relative {url : Url} (hostless : url.authority = "") (something : url.path ≠ "")
      (noSlash : url.path.toList.head? ≠ some '/') : Strays url

/-- What a codebase may name is rooted, or strays. -/
theorem strays_of_not_isRooted {text : String} {url : Url}
    (accepted : Expansion.isCodebaseUrl text = true) (parsed : parse text = .ok url)
    (scheme : url.scheme = "file") (notRooted : ¬url.IsRooted) : url.Strays := by
  have noSlash : url.path.toList.head? ≠ some '/' :=
    fun slash => notRooted (isRooted_of_slash slash)
  have something : url.authority ≠ "" ∨ url.path ≠ "" := by
    rw [Expansion.isCodebaseUrl, parsed] at accepted
    simpa using (Bool.and_eq_true_iff.1 accepted).2
  by_cases hostless : url.authority = ""
  · exact .relative hostless (something.resolve_left (not_not.2 hostless)) noSlash
  · rcases path_of_authority parsed scheme with noHost | nothing | slash
    · exact absurd noHost hostless
    · exact .host hostless nothing
    · exact absurd slash noSlash

end Url

/-! ## Opening -/

namespace Location

variable {text : String} {url : Url}

/-- The URL of a local file is opened by opening its path. -/
theorem openUrl_of_file (world : World) (parsed : Url.parse text = .ok url)
    (scheme : url.scheme = "file") :
    openUrl world text = do
      match ← openPath? world.files (localPath url) with
      | some file => return .ok file
      | none => return .error .notOpenable := by
  rw [openUrl, parsed, Except.mapError, lift_ok_bind, if_pos scheme]
  rfl

/-- What a URL of a local file opens as is anchored exactly if the path starts at the root. -/
theorem anchored_iff_of_openUrl {world : World} (parsed : Url.parse text = .ok url)
    (scheme : url.scheme = "file") {file : File}
    (returned : (openUrl world text).Returns (.ok file)) : file.Anchored ↔ url.IsRooted := by
  obtain ⟨session, returned⟩ := returned
  have opens := (openUrl_yields world text).good returned
  rcases (urlOpens_iff parsed).1 opens with ⟨-, opens⟩ | ⟨onWeb, -⟩
  · rw [← Url.isAbsolute_localPath]
    cases opens with
    | directory found => exact Iff.rfl
    | archive opening found named read => exact Iff.rfl
  · simp [webSchemes, scheme] at onWeb

/-- A URL of a local file that a codebase may name either leads to a place of its own: its path
starts at the root, it is opened in the same way from every directory, with the same outcome, and
what it opens as is found from the root. Or it is one of the two kinds that stray, and whatever it
opens as is found from the current directory; with a host, it is the current directory. -/
theorem openUrl_rooted_or_strays (accepted : Expansion.isCodebaseUrl text = true)
    (parsed : Url.parse text = .ok url) (scheme : url.scheme = "file") :
    (url.IsRooted ∧
      (∀ world world' : World, world.files.SameTree world'.files →
        openUrl world text = openUrl world' text) ∧
      ∀ world file, (openUrl world text).Returns (.ok file) → file.Anchored) ∨
    (¬url.IsRooted ∧ url.Strays ∧ (url.authority ≠ "" → localPath url = .current) ∧
      ∀ world file, (openUrl world text).Returns (.ok file) → ¬file.Anchored) := by
  have anchored_iff := @anchored_iff_of_openUrl text url
  by_cases rooted : url.IsRooted
  · left
    refine ⟨rooted, ?_, ?_⟩
    · intro world world' same
      rw [openUrl_of_file world parsed scheme, openUrl_of_file world' parsed scheme,
        openPath?_congr same (Url.isAbsolute_localPath.2 rooted)]
    · intro world file returned
      exact (anchored_iff parsed scheme returned).2 rooted
  · right
    have strays := Url.strays_of_not_isRooted accepted parsed scheme rooted
    refine ⟨rooted, strays, ?_, ?_⟩
    · intro named
      cases strays with
      | host named nothing =>
        rw [localPath, nothing]
        rfl
      | relative hostless something noSlash => exact absurd hostless named
    · intro world file returned anchored
      exact rooted ((anchored_iff parsed scheme returned).1 anchored)

/-- A directory with another one in it, beside an empty one. -/
def yard : FileSystem :=
  FileSystem.ofEntries [(["a"], .directory), (["a", "lib"], .directory), (["b"], .directory)]

/-- The world as it is seen from a place in the yard. -/
def yardFrom (place : List String) : World := ⟨yard.changeDirectory place, ⟨[]⟩⟩

/-- A slash that is spelled by its triple is one, so this URL leads to one place. -/
theorem openUrl_rooted_or_strays_yard :
    Expansion.isCodebaseUrl "file:%2Fa/lib" = true ∧
      Url.parse "file:%2Fa/lib" = .ok ⟨"file", "", "%2Fa/lib"⟩ ∧
      openUrl (yardFrom ["a"]) "file:%2Fa/lib" = openUrl (yardFrom ["b"]) "file:%2Fa/lib" ∧
      ((openUrl (yardFrom ["b"]) "file:%2Fa/lib").run.run .start).1 =
        .ok (.ok (.plain ⟨.root, ["a", "lib"]⟩)) := by
  have accepted : Expansion.isCodebaseUrl "file:%2Fa/lib" = true := by decide +kernel
  have parsed : Url.parse "file:%2Fa/lib" = .ok ⟨"file", "", "%2Fa/lib"⟩ := by decide +kernel
  refine ⟨accepted, parsed, ?_, by decide +kernel⟩
  have sameTree : (yardFrom ["a"]).files.SameTree (yardFrom ["b"]).files :=
    ⟨fun _ => rfl, fun _ => Iff.rfl, fun _ => Iff.rfl⟩
  rcases openUrl_rooted_or_strays accepted parsed rfl with ⟨-, same, -⟩ | ⟨notRooted, -⟩
  · exact same (yardFrom ["a"]) (yardFrom ["b"]) sameTree
  · exact absurd (by decide +kernel) notRooted

/-- A relative path is opened in one directory and not in another one, and a host with nothing
behind it is the directory that one is in, with whatever that holds. -/
theorem openUrl_strays :
    Expansion.isCodebaseUrl "file:lib" = true ∧ Expansion.isCodebaseUrl "file://lib" = true ∧
      ((openUrl (yardFrom ["a"]) "file:lib").run.run .start).1 =
        .ok (.ok (.plain ⟨.here, ["lib"]⟩)) ∧
      ((openUrl (yardFrom ["b"]) "file:lib").run.run .start).1 = .ok (.error .notOpenable) ∧
      ((openUrl (yardFrom ["a"]) "file://lib").run.run .start).1 = .ok (.ok (.plain .current)) ∧
      (File.plain .current).children (yardFrom ["a"]).files = .ok [.plain ⟨.here, ["lib"]⟩] ∧
      ((openUrl (yardFrom ["b"]) "file://lib").run.run .start).1 = .ok (.ok (.plain .current)) ∧
      (File.plain .current).children (yardFrom ["b"]).files = .ok [] := by
  refine ⟨?_, ?_, ?_, ?_, ?_, ?_, ?_, ?_⟩ <;> decide +kernel

end Location

end JvmClasspath
