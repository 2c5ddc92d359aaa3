import JvmClasspath.Text.Split
import JvmClasspath.Text.Utf8

/-!
# Zip files

The bytes of a zip file. It holds each member with a header of its own, then a directory that lists
the members and where they start, and a record at its end that says where the directory is.

Files are written plainly: nothing is compressed, and every member has the earliest date there is.
Reading needs only the directory. What a member holds is kept if it is stored as it is; a compressed
member keeps its name only.

Bytes that are no zip file differ from a zip file that is not supported: one that asks for a later
version of the format, or that marks a name as UTF-8 which is not.
-/

namespace JvmClasspath

/-- A member of an archive: its name as the archive spells it, and its content. -/
structure Member where
  name : String
  data : List UInt8
deriving DecidableEq, Repr

/-- The member that an archive keeps under a name. A name ends where a U+0000 stands. -/
def Member.named (name : String) (data : List UInt8) : Member :=
  ⟨String.ofList (Text.upTo '\x00' name.toList), data⟩

namespace Zip

/-! ## Writing -/

/-- One bit of the checksum register. -/
def crcBit (register : UInt32) : UInt32 :=
  if register &&& 1 = 1 then (register >>> 1) ^^^ 0xEDB88320 else register >>> 1

def crcByte (register : UInt32) (byte : UInt8) : UInt32 :=
  (List.range 8).foldl (fun r _ => crcBit r) (register ^^^ byte.toUInt32)

/-- The cyclic redundancy check of a member's content. -/
def crc32 (data : List UInt8) : UInt32 :=
  data.foldl crcByte 0xFFFFFFFF ^^^ 0xFFFFFFFF

/-- A number in so many bytes, the least significant first. -/
def littleEndian : (size number : Nat) → List UInt8
  | 0, _ => []
  | size + 1, number => UInt8.ofNat (number % 256) :: littleEndian size (number / 256)

@[simp] theorem length_littleEndian (size number : Nat) :
    (littleEndian size number).length = size := by
  induction size generalizing number with
  | zero => rfl
  | succ size ih => simp [littleEndian, ih]

def localMark : List UInt8 := [0x50, 0x4B, 3, 4]

def directoryMark : List UInt8 := [0x50, 0x4B, 1, 2]

def endMark : List UInt8 := [0x50, 0x4B, 5, 6]

/-- The mark of the record at the end of a large file. -/
def largeEndMark : List UInt8 := [0x50, 0x4B, 6, 6]

/-- The mark of what says where this record is. -/
def locatorMark : List UInt8 := [0x50, 0x4B, 6, 7]

/-- The format version that a reader must know. -/
def version : Nat := 20

/-- The first of January 1980. -/
def firstDate : Nat := 0x21

/-- The flag that says that a name is in UTF-8. -/
def nameFlags (name : String) : Nat :=
  if name.toList.all (·.toNat < 0x80) then 0 else 0x800

/-- What the header and the directory say alike about a member: version, flags, method, time, date,
checksum, both sizes, and the lengths of the name and of nothing further. -/
def description (member : Member) : List UInt8 :=
  littleEndian 2 version ++ littleEndian 2 (nameFlags member.name) ++ littleEndian 2 0 ++
    littleEndian 2 0 ++ littleEndian 2 firstDate ++ littleEndian 4 (crc32 member.data).toNat ++
    littleEndian 4 member.data.length ++ littleEndian 4 member.data.length ++
    littleEndian 2 (Utf8.encode member.name).length ++ littleEndian 2 0

/-- A member with its header. -/
def localRecord (member : Member) : List UInt8 :=
  localMark ++ description member ++ Utf8.encode member.name ++ member.data

/-- The system that made a file, as the directory names it, with the version it knows. -/
def madeBy : Nat := 0x300 + version

/-- The rights of a file that only its owner may read and write, where the directory keeps them. -/
def ownerOnly : Nat := 0o600 * 0x10000

/-- A member's line in the directory. -/
def directoryRecord (member : Member) (start : Nat) : List UInt8 :=
  directoryMark ++ littleEndian 2 madeBy ++ description member ++ littleEndian 2 0 ++
    littleEndian 2 0 ++ littleEndian 2 0 ++ littleEndian 4 ownerOnly ++ littleEndian 4 start ++
    Utf8.encode member.name

/-- The directory of members that start at this place in the file. -/
def directory (start : Nat) : List Member → List UInt8
  | [] => []
  | member :: rest =>
    directoryRecord member start ++ directory (start + (localRecord member).length) rest

/-- A zip file with these members. -/
def write (members : List Member) : List UInt8 :=
  let content := members.flatMap localRecord
  let lines := directory 0 members
  content ++ lines ++ endMark ++ littleEndian 2 0 ++ littleEndian 2 0 ++
    littleEndian 2 members.length ++ littleEndian 2 members.length ++
    littleEndian 4 lines.length ++ littleEndian 4 content.length ++ littleEndian 2 0

/-! ## Reading -/

/-- Why a zip file is not supported. -/
inductive Obstacle where
  /-- A member asks for this version of the format, counted in tenths. -/
  | laterVersion (needed : Nat)
  /-- A member's name is marked as UTF-8 and is not. -/
  | garbledName
deriving DecidableEq, Repr

/-- The text that reports an obstacle. -/
def Obstacle.message : Obstacle → String
  | laterVersion needed => s!"zip file version {needed / 10}.{needed % 10}"
  | garbledName => "the bytes are not UTF-8"

/-- What reading comes to: nothing if the bytes are no zip file, else a result or an obstacle. -/
abbrev Reading := ExceptT Obstacle Option

/-- The number in so many bytes from a place on, the least significant first. Beyond the end of the
file there are only zeros. -/
def number (file : ByteArray) (place : Nat) : (size : Nat) → Nat
  | 0 => 0
  | size + 1 => (file.data.getD place 0).toNat + 256 * number file (place + 1) size

def bytesAt (file : ByteArray) (place size : Nat) : List UInt8 :=
  (file.extract place (place + size)).toList

def hasMark (file : ByteArray) (place : Nat) (mark : List UInt8) : Bool :=
  bytesAt file place 4 = mark

/-- The place of the record at the end. Only a comment of at most 65536 bytes may follow it, and the
mark of the record must not stand in the comment. -/
def endPlace? (file : ByteArray) : Option Nat :=
  let last := file.size - 22
  if last + 22 = file.size && hasMark file last endMark && number file (last + 20) 2 = 0 then
    some last
  else
    (List.range (min (file.size - 3) 65555)).findSome? (fun back =>
      let place := file.size - 4 - back
      if hasMark file place endMark then some place else none)
    |>.filter (· + 22 ≤ file.size)

/-- What a zip file says about its directory: where it ends, how long it is, and where it started
when the file was written. -/
structure Ending where
  stop : Nat
  size : Nat
  start : Nat

/-- What the record at the end says about the directory. In a large file, another record in front of
it says so instead. A file that is one of several parts is no zip file. -/
def ending? (file : ByteArray) (place : Nat) : Option Ending :=
  let said : Ending := ⟨place, number file (place + 12) 4, number file (place + 16) 4⟩
  if place < 20 || !hasMark file (place - 20) locatorMark then some said
  else if number file (place - 16) 4 ≠ 0 || number file (place - 4) 4 > 1 || place < 76 then none
  else
    let large := place - 76
    if hasMark file large largeEndMark then
      some ⟨large, number file (large + 40) 8, number file (large + 48) 8⟩
    else some said

/-- The last version of the format that is read, in tenths. -/
def latestVersion : Nat := 63

/-- The characters of code page 437 from the byte 0x80 on. -/
def upperHalf : String :=
  "ÇüéâäàåçêëèïîìÄÅÉæÆôöòûùÿÖÜ¢£¥₧ƒáíóúñÑªº¿⌐¬½¼¡«»░▒▓│┤╡╢╖╕╣║╗╝╜╛┐" ++
    "└┴┬├─┼╞╟╚╔╩╦╠═╬╧╨╤╥╙╘╒╓╫╪┘┌█▄▌▐▀αßΓπΣσµτΦΘΩδ∞φε∩≡±≥≤⌠⌡÷≈°∙·√ⁿ²■\u00A0"

/-- The text of a name that is not marked as UTF-8. -/
def decodeUnmarked (bytes : List UInt8) : String :=
  String.ofList (bytes.map fun byte =>
    if byte < 0x80 then Char.ofNat byte.toNat
    else upperHalf.toList.getD (byte.toNat - 0x80) '\uFFFD')

/-- The text of a name, which the flags of its line say how to read. -/
def decodeName (flags : Nat) (bytes : List UInt8) : Reading String :=
  if flags / 0x800 % 2 = 1 then
    match Utf8.decode? bytes with
    | some name => return name
    | none => throw .garbledName
  else return decodeUnmarked bytes

/-- How long a member is, as it is and as it is kept, and where it starts. -/
structure Extent where
  size : Nat
  kept : Nat
  start : Nat

/-- The number that takes the place of one that is too large for four bytes. -/
def tooLarge : Nat := 0xFFFFFFFF

/-- A number from a line, or, if it is too large for the line, from the next eight bytes of a field,
with the place where the field goes on. -/
def widened (file : ByteArray) (stop : Nat) (isTooLarge : Bool) (given place : Nat) :
    Option (Nat × Nat) :=
  if !isTooLarge then some (given, place)
  else if place + 8 ≤ stop then some (number file place 8, place + 8)
  else none

/-- The extent of a member, with what a field for large numbers says. -/
def Extent.widened (file : ByteArray) (place stop : Nat) (extent : Extent) : Option Extent := do
  let (size, place) ← Zip.widened file stop
    (extent.size = tooLarge || extent.size = 0xFFFFFFFFFFFFFFFF) extent.size place
  let (kept, place) ← Zip.widened file stop (extent.kept = tooLarge) extent.kept place
  let (start, _) ← Zip.widened file stop (extent.start = tooLarge) extent.start place
  return ⟨size, kept, start⟩

/-- The extent of a member, with what the further fields of its line say. All fields must be whole,
but up to three bytes may be left over. -/
def readFields (file : ByteArray) (place stop : Nat) (extent : Extent) : Option Extent :=
  if place + 4 ≤ stop then do
    let next := place + 4 + number file (place + 2) 2
    if next > stop then none
    let known ← if number file place 2 = 1 then extent.widened file (place + 4) next else extent
    readFields file next stop known
  else extent
termination_by stop - place

/-- What a member holds. All that its archive says about places is to be moved by `base`. -/
def dataAt (file : ByteArray) (base : Int) (extent : Extent) : List UInt8 :=
  let start := (base + extent.start).toNat
  bytesAt file (start + 30 + number file (start + 26) 2 + number file (start + 28) 2) extent.kept

/-- The members that the lines of the directory list, from a place on and before another. -/
def readLines (file : ByteArray) (base : Int) (line stop : Nat) : Reading (List Member) := do
  if line < stop then
    if hasMark file line directoryMark && line + 46 ≤ stop then
      let nameEnd := line + 46 + number file (line + 28) 2
      let fieldsEnd := nameEnd + number file (line + 30) 2
      let name ← decodeName (number file (line + 8) 2)
        (bytesAt file (line + 46) (min nameEnd stop - (line + 46)))
      let needed := number file (line + 6) 1
      if needed > latestVersion then throw (.laterVersion needed)
      let extent ← readFields file nameEnd (min fieldsEnd stop)
        ⟨number file (line + 24) 4, number file (line + 20) 4, number file (line + 42) 4⟩
      let isStored := number file (line + 10) 2 = 0
      let rest ← readLines file base (fieldsEnd + number file (line + 32) 2) stop
      return .named name (if isStored then dataAt file base extent else []) :: rest
    else (none : Option (List Member))
  else return []
termination_by stop - line

/-- The members of a zip file. Other bytes may stand before it. -/
def read (file : ByteArray) : Reading (List Member) := do
  let place ← endPlace? file
  let ⟨stop, size, start⟩ ← ending? file place
  if size > stop then (none : Option Unit)
  readLines file (stop - size - start) (stop - size) stop

end Zip

end JvmClasspath
