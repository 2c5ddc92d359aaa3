import JvmClasspath.Text.Quoted
import JvmClasspath.Url.Address

/-!
# URLs

A URL is cut into scheme, authority and path without decoding anything. Cutting hardly fails: almost
any text is a URL of some kind, perhaps a relative one without a scheme. What it refuses are
brackets in the authority that do not enclose an address, and characters there that a later
normalisation would turn into separators.
-/

namespace JvmClasspath

/-- The parts of a URL that say where it leads. Parameters, query and fragment are cut off. -/
structure Url where
  scheme : String
  authority : String
  path : String
deriving DecidableEq, Repr

namespace Url

/-- Why a text is refused. -/
inductive Error where
  /-- A bracket without its partner, or text beside the brackets. -/
  | strayBracket
  /-- The host in brackets starts with `v` and is no address of a later version. -/
  | futureAddress
  | notAnAddress (host : String)
  | ipv4InBrackets
  /-- Normalising the authority would bring in a separator. -/
  | hiddenSeparator (authority : String)
deriving DecidableEq, Repr

def Error.message : Error → String
  | strayBracket => "Invalid IPv6 URL"
  | futureAddress => "IPvFuture address is invalid"
  | notAnAddress host => Text.quoted host ++ " does not appear to be an IPv4 or IPv6 address"
  | ipv4InBrackets => "An IPv4 address cannot be in brackets"
  | hiddenSeparator authority =>
    "netloc '" ++ authority ++ "' contains invalid characters under NFKC normalization"

/-- The text without the spaces and control characters in front and without line breaks and tabs. -/
def cleaned (text : List Char) : List Char :=
  (text.dropWhile (·.toNat ≤ 0x20)).filter fun c => c ≠ '\t' ∧ c ≠ '\r' ∧ c ≠ '\n'

def isSchemeChar (c : Char) : Bool :=
  c.isAlphanum || c == '+' || c == '-' || c == '.'

/-- The scheme, in lower case, and the text after its colon. Without a proper scheme the text stays
whole. -/
def cutScheme (text : List Char) : List Char × List Char :=
  match Text.cutFirst? ':' text with
  | some (before, after) =>
    if before.head?.any Char.isAlpha ∧ before.all isSchemeChar then
      (Text.lowerAscii before, after)
    else ([], text)
  | none => ([], text)

/-- The authority, after two slashes, and what follows it. -/
def cutAuthority : List Char → List Char × List Char
  | '/' :: '/' :: rest =>
    let authority := rest.takeWhile fun c => c ≠ '/' ∧ c ≠ '?' ∧ c ≠ '#'
    (authority, rest.drop authority.length)
  | text => ([], text)

/-- The part of an authority after the user's name, where the host stands. -/
def hostPart (authority : List Char) : List Char :=
  match Text.cutLast? '@' authority with
  | some (_, after) => after
  | none => authority

/-- The host that stands in brackets, with nothing before them and nothing but a colon right behind
them. An authority whose brackets belong to the user's name has its host up to the colon. -/
def bracketedHost (authority : List Char) : Except Error (List Char) :=
  let part := hostPart authority
  match Text.cutFirst? '[' part with
  | none => .ok (Text.upTo ':' part)
  | some (before, after) =>
    let host := Text.upTo ']' after
    let behind := after.drop (host.length + 1)
    if !before.isEmpty then .error .strayBracket
    else if !behind.isEmpty && behind.head? ≠ some ':' then .error .strayBracket
    else .ok host

def checkHost (host : List Char) : Except Error Unit :=
  if host.head? = some 'v' then
    if isFutureAddress host then .ok () else .error .futureAddress
  else if isIpv4 host then .error .ipv4InBrackets
  else if isIpv6 host then .ok ()
  else .error (.notAnAddress (String.ofList host))

def checkBrackets (authority : List Char) : Except Error Unit :=
  match decide ('[' ∈ authority), decide (']' ∈ authority) with
  | false, false => .ok ()
  | true, true => bracketedHost authority >>= checkHost
  | _, _ => .error .strayBracket

/-- The characters that compatibility normalisation turns into text with one of `/?#@:` in it. -/
def hiddenSeparators : List Nat := [
  0x2047, 0x2048, 0x2049, 0x2100, 0x2101, 0x2105, 0x2106, 0x2A74, 0xFE13, 0xFE16, 0xFE55, 0xFE56,
  0xFE5F, 0xFE6B, 0xFF03, 0xFF0F, 0xFF1A, 0xFF1F, 0xFF20]

def checkSeparators (authority : List Char) : Except Error Unit :=
  if authority.any fun c => hiddenSeparators.contains c.toNat then
    .error (.hiddenSeparator (String.ofList authority))
  else .ok ()

/-- The schemes whose last path segment may end in parameters. -/
def schemesWithParameters : List String := [
  "", "ftp", "hdl", "prospero", "http", "imap", "https", "shttp", "rtsp", "rtspu", "sip", "sips",
  "mms", "sftp", "tel"]

/-- The path without the parameters of its last segment. -/
def withoutParameters (path : List Char) : List Char :=
  match Text.cutLast? '/' path with
  | some (before, segment) => before ++ '/' :: Text.upTo ';' segment
  | none => Text.upTo ';' path

/-- Cuts a text into the parts of a URL. -/
def parse (text : String) : Except Error Url := do
  let (scheme, afterScheme) := cutScheme (cleaned text.toList)
  let (authority, afterAuthority) := cutAuthority afterScheme
  checkBrackets authority
  let path := Text.upTo '?' (Text.upTo '#' afterAuthority)
  checkSeparators authority
  let path :=
    if String.ofList scheme ∈ schemesWithParameters then withoutParameters path else path
  return ⟨String.ofList scheme, String.ofList authority, String.ofList path⟩

end Url

end JvmClasspath
