/-!
# UTF-8

Bytes are read one at a time. Between characters the reader owes nothing; after a leading byte it
owes one to three more, and the next of them must lie in a range that rules out overlong forms,
surrogates and values beyond U+10FFFF.

A byte that does not fit ends the character it interrupts, which counts as one malformed place, and
is then read afresh. So a malformed place is never longer than the part of a character it could have
been, which is what the replacement of U+FFFD counts.
-/

namespace JvmClasspath.Utf8

/-- The bytes of a text. -/
def encode (text : String) : List UInt8 :=
  text.toList.flatMap String.utf8EncodeChar

/-- A character that has begun: the bytes still owed, the range of the next one, and the bits so
far. -/
structure Pending where
  owed : Nat
  low : Nat
  high : Nat
  bits : Nat
deriving DecidableEq

/-- What one byte settles: the places that are now complete, `none` for a malformed one, and the
character that has begun. -/
structure Step where
  settled : List (Option Char)
  pending : Option Pending

/-- A byte between characters. -/
def lead (byte : Nat) : Step :=
  if byte < 0x80 then ⟨[some (Char.ofNat byte)], none⟩
  else if byte < 0xC2 then ⟨[none], none⟩
  else if byte < 0xE0 then ⟨[], some ⟨1, 0x80, 0xBF, byte - 0xC0⟩⟩
  else if byte = 0xE0 then ⟨[], some ⟨2, 0xA0, 0xBF, 0⟩⟩
  else if byte = 0xED then ⟨[], some ⟨2, 0x80, 0x9F, 0xD⟩⟩
  else if byte < 0xF0 then ⟨[], some ⟨2, 0x80, 0xBF, byte - 0xE0⟩⟩
  else if byte = 0xF0 then ⟨[], some ⟨3, 0x90, 0xBF, 0⟩⟩
  else if byte < 0xF4 then ⟨[], some ⟨3, 0x80, 0xBF, byte - 0xF0⟩⟩
  else if byte = 0xF4 then ⟨[], some ⟨3, 0x80, 0x8F, 4⟩⟩
  else ⟨[none], none⟩

/-- A byte after what has begun. -/
def feed (begun : Option Pending) (byte : Nat) : Step :=
  match begun with
  | none => lead byte
  | some p =>
    if p.low ≤ byte ∧ byte ≤ p.high then
      let bits := p.bits * 64 + byte % 64
      if p.owed ≤ 1 then ⟨[some (Char.ofNat bits)], none⟩
      else ⟨[], some ⟨p.owed - 1, 0x80, 0xBF, bits⟩⟩
    else
      let fresh := lead byte
      ⟨none :: fresh.settled, fresh.pending⟩

/-- The characters and malformed places of a byte sequence, after what has begun. -/
def places (begun : Option Pending) : List UInt8 → List (Option Char)
  | [] => if begun.isSome then [none] else []
  | byte :: rest =>
    let step := feed begun byte.toNat
    step.settled ++ places step.pending rest

/-- The text that the bytes spell, if they are well formed throughout. -/
def decode? (bytes : List UInt8) : Option String :=
  ((places none bytes).mapM id).map String.ofList

/-- The text that the bytes spell, with U+FFFD for each malformed place. -/
def decodeLossy (bytes : List UInt8) : List Char :=
  (places none bytes).map (·.getD '\uFFFD')

end JvmClasspath.Utf8
