import JvmClasspath.Text.Split

/-!
# Addresses in brackets

The host of a URL may stand in brackets. It is then an IPv6 address, with an optional scope after a
percent sign and an optional IPv4 tail, or an address of a later version, which starts with `v`.
-/

namespace JvmClasspath.Url

def isHexDigit (c : Char) : Bool :=
  c.isDigit || ('a' ≤ c && c ≤ 'f') || ('A' ≤ c && c ≤ 'F')

/-- A number of an IPv4 address: up to 255, without zeros in front. -/
def isOctet (text : List Char) : Bool :=
  text.all Char.isDigit && (text == ['0'] || text.head?.any (· ≠ '0')) && text.length ≤ 3 &&
    Nat.ofDigitChars 10 text 0 ≤ 255

/-- Four octets between dots. -/
def isIpv4 (text : List Char) : Bool :=
  let octets := Text.pieces '.' text
  octets.length == 4 && octets.all isOctet

/-- A group of an IPv6 address: one to four hexadecimal digits. -/
def isHextet (text : List Char) : Bool :=
  !text.isEmpty && text.length ≤ 4 && text.all isHexDigit

/-- The groups of an address, an IPv4 tail standing for two of them. -/
def groups? (text : List Char) : Option (List (List Char)) :=
  let parts := Text.pieces ':' text
  match parts.getLast? with
  | some last =>
    if '.' ∉ last then some parts
    else if isIpv4 last then some (parts.dropLast ++ [['0'], ['0']])
    else none
  | none => some parts

/-- The groups on one side of `::`. At the end of the address that side may be a lone empty group,
which then stands for nothing. -/
def isSide (atEnd : Option (List Char)) (side : List (List Char)) : Bool :=
  if atEnd = some [] then side.length == 1 else side.all isHextet

/-- How many groups a side stands for. -/
def sideSize (side : List (List Char)) : Nat := if side = [[]] then 0 else side.length

/-- The groups before and after the first empty group that is neither the first nor the last. -/
def cutAtGap (groups : List (List Char)) : Option (List (List Char) × List (List Char)) :=
  let front := groups.drop 1 |>.takeWhile (!·.isEmpty)
  match groups.drop (front.length + 2) with
  | [] => none
  | back => some (groups.take 1 ++ front, back)

/-- Eight groups, or fewer with one gap. -/
def areGroups (groups : List (List Char)) : Bool :=
  groups.length ≤ 9 &&
    match cutAtGap groups with
    | some (front, back) =>
      isSide front.head? front && isSide back.getLast? back && sideSize front + sideSize back ≤ 7
    | none => groups.length == 8 && groups.all isHextet

/-- The address without its scope, which must not be empty and has no further percent sign. -/
def withoutScope? (text : List Char) : Option (List Char) :=
  match Text.cutFirst? '%' text with
  | none => some text
  | some (address, scope) => if scope.isEmpty ∨ '%' ∈ scope then none else some address

def isIpv6 (text : List Char) : Bool :=
  match withoutScope? text with
  | none => false
  | some address =>
    !address.isEmpty && (Text.pieces ':' address).length ≥ 3 && (groups? address).any areGroups

/-- `v`, hexadecimal digits, a dot and something after it. -/
def isFutureAddress : List Char → Bool
  | 'v' :: rest =>
    let version := rest.takeWhile isHexDigit
    !version.isEmpty &&
      match rest.drop version.length with
      | '.' :: c :: body => (c :: body).all (· ≠ '\n')
      | _ => false
  | _ => false

example : isIpv6 "::".toList ∧ isIpv6 "1::2".toList ∧ isIpv6 "fe80::1%eth0".toList ∧
    isIpv6 "::ffff:1.2.3.4".toList := by decide +kernel
example : ¬ isIpv6 ":::".toList ∧ ¬ isIpv6 "1:2:3".toList ∧ ¬ isIpv6 "1::2::3".toList ∧
    ¬ isIpv6 "12345::".toList := by decide +kernel

end JvmClasspath.Url
