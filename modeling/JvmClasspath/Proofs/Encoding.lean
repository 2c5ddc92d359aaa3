import JvmClasspath.Url.Percent
import Mathlib

/-!
# Encoded text

A text is encoded for a URL byte by byte: its characters are written in UTF-8, and each byte that is
no unreserved ASCII character becomes a triple. Decoding gives the text back, whatever characters it
holds, and the encoded text holds nothing that could be taken for a part of a URL.
-/

namespace JvmClasspath

/-! ## UTF-8 -/

namespace Utf8

theorem places_cons (begun : Option Pending) {byte : Nat} (small : byte < 256)
    (rest : List UInt8) :
    places begun (UInt8.ofNat byte :: rest) =
      (feed begun byte).settled ++ places (feed begun byte).pending rest := by
  have same : (UInt8.ofNat byte).toNat = byte := Nat.mod_eq_of_lt small
  rw [places, same]

section

variable {low high next bits : Nat} (small : next < 64) (above : low ≤ next + 128)
  (below : next + 128 ≤ high) (rest : List UInt8)
include small above below

/-- Six more bits of a character that owes further ones. -/
theorem places_more (owed : Nat) :
    places (some ⟨owed + 2, low, high, bits⟩) (UInt8.ofNat (next + 128) :: rest) =
      places (some ⟨owed + 1, 0x80, 0xBF, bits * 64 + next⟩) rest := by
  have tail : (next + 128) % 64 = next := by omega
  rw [places_cons _ (by omega)]
  simp [feed, above, below, tail]

/-- The last six bits of a character. -/
theorem places_last :
    places (some ⟨1, low, high, bits⟩) (UInt8.ofNat (next + 128) :: rest) =
      some (Char.ofNat (bits * 64 + next)) :: places none rest := by
  have tail : (next + 128) % 64 = next := by omega
  rw [places_cons _ (by omega)]
  simp [feed, above, below, tail]

end

theorem lead_two {front : Nat} (least : 2 ≤ front) (small : front < 32) :
    lead (front + 192) = ⟨[], some ⟨1, 0x80, 0xBF, front⟩⟩ := by
  rw [lead, if_neg (by omega), if_neg (by omega), if_pos (by omega), Nat.add_sub_cancel]

/-- The first of three bytes restricts the second one to what two bytes cannot hold and what is no
surrogate. -/
theorem exists_lead_three (front next : Nat) (small : front < 16) (next_small : next < 64)
    (least : front = 0 → 32 ≤ next) (noSurrogate : front = 13 → next < 32) :
    ∃ low high, lead (front + 224) = ⟨[], some ⟨2, low, high, front⟩⟩ ∧
      low ≤ next + 128 ∧ next + 128 ≤ high := by
  rw [lead, if_neg (by omega), if_neg (by omega), if_neg (by omega)]
  by_cases first : front = 0
  · subst first
    have := least rfl
    exact ⟨0xA0, 0xBF, rfl, by omega, by omega⟩
  · rw [if_neg (by omega)]
    by_cases before : front = 13
    · subst before
      have := noSurrogate rfl
      exact ⟨0x80, 0x9F, rfl, by omega, by omega⟩
    · rw [if_neg (by omega), if_pos (by omega), Nat.add_sub_cancel]
      exact ⟨0x80, 0xBF, rfl, by omega, by omega⟩

/-- The first of four bytes restricts the second one to what three bytes cannot hold and what is a
character at all. -/
theorem exists_lead_four (front next : Nat) (small : front ≤ 4) (next_small : next < 64)
    (least : front = 0 → 16 ≤ next) (most : front = 4 → next < 16) :
    ∃ low high, lead (front + 240) = ⟨[], some ⟨3, low, high, front⟩⟩ ∧
      low ≤ next + 128 ∧ next + 128 ≤ high := by
  rw [lead, if_neg (by omega), if_neg (by omega), if_neg (by omega), if_neg (by omega),
    if_neg (by omega), if_neg (by omega)]
  by_cases first : front = 0
  · subst first
    have := least rfl
    exact ⟨0x90, 0xBF, rfl, by omega, by omega⟩
  · rw [if_neg (by omega)]
    by_cases last : front = 4
    · subst last
      have := most rfl
      exact ⟨0x80, 0x8F, rfl, by omega, by omega⟩
    · rw [if_pos (by omega), Nat.add_sub_cancel]
      exact ⟨0x80, 0xBF, rfl, by omega, by omega⟩

/-- The bytes of a character are read as this character, whatever follows. -/
theorem places_utf8EncodeChar (c : Char) (rest : List UInt8) :
    places none (String.utf8EncodeChar c ++ rest) = some c :: places none rest := by
  have whole : Char.ofNat c.val.toNat = c := Char.ofNat_toNat c
  have valid : c.val.toNat < 0xD800 ∨ 0xDFFF < c.val.toNat ∧ c.val.toNat < 0x110000 := c.valid
  rw [String.utf8EncodeChar]
  generalize c.val.toNat = code at whole valid ⊢
  split
  · rw [List.singleton_append, places_cons none (by omega), feed, lead, if_pos (by omega), whole]
    rfl
  · split
    · have bits : code / 64 % 32 * 64 + code % 64 = code := by omega
      rw [List.cons_append, places_cons none (by omega), feed, lead_two (by omega) (by omega),
        List.nil_append, List.singleton_append,
        places_last (by omega) (by omega) (by omega), bits, whole]
    · split
      · have bits : (code / 4096 % 16 * 64 + code / 64 % 64) * 64 + code % 64 = code := by omega
        obtain ⟨low, high, led, above, below⟩ :=
          exists_lead_three (code / 4096 % 16) (code / 64 % 64)
            (by omega) (by omega) (by omega) (by omega)
        rw [List.cons_append, places_cons none (by omega), feed, led, List.nil_append,
          List.cons_append, places_more (by omega) above below, List.singleton_append,
          places_last (by omega) (by omega) (by omega), bits, whole]
      · have bits : ((code / 262144 % 8 * 64 + code / 4096 % 64) * 64 + code / 64 % 64) * 64 +
            code % 64 = code := by omega
        obtain ⟨low, high, led, above, below⟩ :=
          exists_lead_four (code / 262144 % 8) (code / 4096 % 64)
            (by omega) (by omega) (by omega) (by omega)
        rw [List.cons_append, places_cons none (by omega), feed, led, List.nil_append,
          List.cons_append, places_more (by omega) above below, List.cons_append,
          places_more (by omega) (by omega) (by omega), List.singleton_append,
          places_last (by omega) (by omega) (by omega), bits, whole]

/-- The bytes of a text are read as its characters, none of them malformed. -/
theorem places_encode (text : List Char) :
    places none (text.flatMap String.utf8EncodeChar) = text.map some := by
  induction text with
  | nil => rfl
  | cons c rest ih => rw [List.flatMap_cons, places_utf8EncodeChar, List.map_cons, ih]

theorem decodeLossy_encode (text : List Char) :
    decodeLossy (text.flatMap String.utf8EncodeChar) = text := by
  rw [decodeLossy, places_encode, List.map_map]
  exact List.map_id text

/-- A text is read back from its bytes. -/
theorem decode?_encode (text : String) : decode? (encode text) = some text := by
  have whole : (text.toList.map some).mapM id = some text.toList := by
    have each : text.toList.mapM some = some (text.toList.map id) := List.mapM_pure
    rw [List.mapM_map, Function.id_comp, each, List.map_id]
  rw [decode?, encode, places_encode, whole, Option.map_some, String.ofList_toList]

/-- A character of ASCII is its only byte, and all bytes of others lie beyond ASCII. -/
theorem utf8EncodeChar_eq (c : Char) :
    (c.toNat < 0x80 ∧ String.utf8EncodeChar c = [UInt8.ofNat c.toNat]) ∨
      (0x80 ≤ c.toNat ∧ ∀ byte ∈ String.utf8EncodeChar c, 0x80 ≤ byte.toNat) := by
  rw [String.utf8EncodeChar, Char.toNat_val]
  generalize c.toNat = code
  have beyond : ∀ n, 0x80 ≤ n → n < 256 → 0x80 ≤ (UInt8.ofNat n).toNat := by
    intro n least small
    rwa [UInt8.toNat_ofNat', Nat.mod_eq_of_lt small]
  split
  · exact .inl ⟨by omega, rfl⟩
  · refine .inr ⟨by omega, ?_⟩
    split
    · simp only [List.forall_mem_cons, List.not_mem_nil, false_implies, implies_true, and_true]
      exact ⟨beyond _ (by omega) (by omega), beyond _ (by omega) (by omega)⟩
    · split
      · simp only [List.forall_mem_cons, List.not_mem_nil, false_implies, implies_true, and_true]
        exact ⟨beyond _ (by omega) (by omega), beyond _ (by omega) (by omega),
          beyond _ (by omega) (by omega)⟩
      · simp only [List.forall_mem_cons, List.not_mem_nil, false_implies, implies_true, and_true]
        exact ⟨beyond _ (by omega) (by omega), beyond _ (by omega) (by omega),
          beyond _ (by omega) (by omega), beyond _ (by omega) (by omega)⟩

end Utf8

/-! ## Triples -/

namespace Url

theorem toNat_lt_of_isUnreserved {c : Char} (unreserved : isUnreserved c = true) :
    c.toNat < 0x80 := by
  simp only [isUnreserved, Char.isAlphanum, Char.isAlpha, Char.isUpper, Char.isLower, Char.isDigit,
    Bool.or_eq_true, Bool.and_eq_true, decide_eq_true_eq, beq_iff_eq, ge_iff_le,
    UInt32.le_iff_toNat_le, Char.toNat_val, ← Char.toNat_inj, Char.reduceToNat] at unreserved
  omega

theorem toNat_ofNat_toNat (byte : UInt8) : (Char.ofNat byte.toNat).toNat = byte.toNat := by
  have small := byte.toNat_lt
  have valid : byte.toNat.isValidChar := .inl (by omega)
  rw [Char.toNat_ofNat, if_pos valid]

/-- What a byte becomes: the character that it is, if that is unreserved, or else a triple. -/
def encodedByte (byte : UInt8) : List Char :=
  if isUnreserved (Char.ofNat byte.toNat) then [Char.ofNat byte.toNat] else percentByte byte

/-- A text is encoded byte by byte. -/
theorem percentEncode_eq (text : List Char) :
    percentEncode text = (text.flatMap String.utf8EncodeChar).flatMap encodedByte := by
  rw [percentEncode, List.flatMap_assoc]
  apply List.flatMap_congr
  intro c _
  obtain ⟨small, only⟩ | ⟨large, beyond⟩ := Utf8.utf8EncodeChar_eq c
  · have same : Char.ofNat (UInt8.ofNat c.toNat).toNat = c := by
      rw [UInt8.toNat_ofNat', Nat.mod_eq_of_lt (by omega), Char.ofNat_toNat]
    simp only [only, List.flatMap_singleton, encodedByte, same]
  · have reserved : ¬isUnreserved c = true := by
      intro unreserved
      have := toNat_lt_of_isUnreserved unreserved
      omega
    rw [if_neg reserved]
    apply List.flatMap_congr
    intro byte mem
    rw [encodedByte, if_neg]
    intro unreserved
    have small := toNat_lt_of_isUnreserved unreserved
    have := beyond byte mem
    rw [toNat_ofNat_toNat] at small
    omega

/-- Below sixteen the digit has the value of the number. -/
theorem hexValue_hexDigit : ∀ n < 16,
    isHexDigit (hexDigit n) = true ∧ hexValue (hexDigit n) = n ∧
      isUnreserved (hexDigit n) = true := by
  decide

/-- A character is read as its bytes, unless it begins a triple. -/
theorem percentBytes_cons {c : Char} (apart : c ≠ '%') (rest : List Char) :
    percentBytes (c :: rest) = String.utf8EncodeChar c ++ percentBytes rest := by
  rw [percentBytes]
  rintro _ _ _ rfl
  exact absurd rfl apart

/-- An encoded byte is decoded, whatever follows. -/
theorem percentBytes_encodedByte (byte : UInt8) (rest : List Char) :
    percentBytes (encodedByte byte ++ rest) = byte :: percentBytes rest := by
  rw [encodedByte]
  split
  · next unreserved =>
    have small := toNat_lt_of_isUnreserved unreserved
    have apart : Char.ofNat byte.toNat ≠ '%' := by
      intro same
      rw [same] at unreserved
      exact absurd unreserved (by decide)
    obtain ⟨-, only⟩ | ⟨large, -⟩ := Utf8.utf8EncodeChar_eq (Char.ofNat byte.toNat)
    · rw [List.singleton_append, percentBytes_cons apart, only, toNat_ofNat_toNat,
        UInt8.ofNat_toNat]
      rfl
    · omega
  · have small := byte.toNat_lt
    obtain ⟨first_hex, first_value, -⟩ := hexValue_hexDigit (byte.toNat / 16) (by omega)
    obtain ⟨second_hex, second_value, -⟩ := hexValue_hexDigit (byte.toNat % 16) (by omega)
    have whole : byte.toNat / 16 * 16 + byte.toNat % 16 = byte.toNat := by omega
    rw [percentByte, List.cons_append, List.cons_append, List.singleton_append, percentBytes,
      first_hex, second_hex, first_value, second_value, whole, UInt8.ofNat_toNat]
    rfl

theorem percentBytes_flatMap_encodedByte (bytes : List UInt8) :
    percentBytes (bytes.flatMap encodedByte) = bytes := by
  induction bytes with
  | nil => rfl
  | cons byte rest ih => rw [List.flatMap_cons, percentBytes_encodedByte, ih]

/-- Every text survives encoding. -/
theorem percentDecode_percentEncode (text : List Char) :
    percentDecode (percentEncode text) = text := by
  rw [percentDecode, percentEncode_eq, percentBytes_flatMap_encodedByte, Utf8.decodeLossy_encode]

/-! ## What an encoded text is made of -/

/-- An encoded text holds percent signs and what stands for itself. -/
theorem mem_percentEncode {text : List Char} {c : Char} (mem : c ∈ percentEncode text) :
    isUnreserved c = true ∨ c = '%' := by
  rw [percentEncode_eq, List.mem_flatMap] at mem
  obtain ⟨byte, -, mem⟩ := mem
  have small := byte.toNat_lt
  rw [encodedByte] at mem
  split at mem
  · next unreserved =>
    rw [List.mem_singleton.1 mem]
    exact .inl unreserved
  · rw [percentByte, List.mem_cons, List.mem_cons, List.mem_singleton] at mem
    obtain rfl | rfl | rfl := mem
    · exact .inr rfl
    · exact .inl (hexValue_hexDigit _ (by omega)).2.2
    · exact .inl (hexValue_hexDigit _ (by omega)).2.2

/-- What holds of each percent sign and of all that stands for itself holds throughout an encoded
text. All of it is ASCII, so there are few cases. -/
theorem forall_mem_percentEncode {P : Char → Prop}
    (each : ∀ n < 0x80, isUnreserved (Char.ofNat n) = true ∨ Char.ofNat n = '%' → P (Char.ofNat n))
    (text : List Char) : ∀ c ∈ percentEncode text, P c := by
  intro c mem
  have kind := mem_percentEncode mem
  have small : c.toNat < 0x80 := by
    obtain unreserved | rfl := kind
    · exact toNat_lt_of_isUnreserved unreserved
    · decide
  have given := each c.toNat small
  rw [Char.ofNat_toNat] at given
  exact given kind

end Url

end JvmClasspath
