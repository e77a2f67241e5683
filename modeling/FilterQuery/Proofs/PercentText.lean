import FilterQuery.Text.Percent
import Mathlib.Data.List.Basic
/-!
# Percent-encoded text, written and read back

What is proved here of an encoder rests on one thing that is said of it: it
writes the UTF-8 bytes of a text one by one. A byte is written as the URL-safe
character that it stands for, or else as a group, and either is read as that
byte, whatever follows it. So the bytes that are read are those of the text.
The encoder of the program goes by characters instead, but the bytes of the
characters that it keeps are ASCII, and no byte of another character looks like
one of them.
-/

namespace FilterQuery.Text

/-! ## The alphabet -/

/-- ASCII letters and digits, and the marks `-`, `_`, `.` and `~`. -/
def IsUrlSafe (c : Char) : Prop :=
  ('A' ≤ c ∧ c ≤ 'Z') ∨ ('a' ≤ c ∧ c ≤ 'z') ∨ ('0' ≤ c ∧ c ≤ '9') ∨ c ∈ ['-', '_', '.', '~']

instance : DecidablePred IsUrlSafe := fun c =>
  inferInstanceAs (Decidable (('A' ≤ c ∧ c ≤ 'Z') ∨ ('a' ≤ c ∧ c ≤ 'z') ∨
    ('0' ≤ c ∧ c ≤ '9') ∨ c ∈ ['-', '_', '.', '~']))

def IsUpperHexDigit (c : Char) : Prop := ('0' ≤ c ∧ c ≤ '9') ∨ ('A' ≤ c ∧ c ≤ 'F')

instance : DecidablePred IsUpperHexDigit := fun c =>
  inferInstanceAs (Decidable (('0' ≤ c ∧ c ≤ '9') ∨ ('A' ≤ c ∧ c ≤ 'F')))

/-- A text of URL-safe characters and of groups, each a percent sign and two
upper-case hexadecimal digits. -/
inductive IsUrlText : Text → Prop
  | nil : IsUrlText []
  | kept {c : Char} {rest : Text} : IsUrlSafe c → IsUrlText rest → IsUrlText (c :: rest)
  | group {high low : Char} {rest : Text} : IsUpperHexDigit high → IsUpperHexDigit low →
      IsUrlText rest → IsUrlText ('%' :: high :: low :: rest)

theorem IsUrlText.append {left right : Text} (hleft : IsUrlText left) (hright : IsUrlText right) :
    IsUrlText (left ++ right) := by
  induction hleft with
  | nil => exact hright
  | kept hsafe _ ih => exact .kept hsafe ih
  | group hhigh hlow _ ih => exact .group hhigh hlow ih

theorem isUpperHexDigit_upperHexDigit {n : Nat} (h : n < 16) :
    IsUpperHexDigit (upperHexDigit n) := by
  revert n
  decide

theorem isUrlText_percentByte (byte : UInt8) : IsUrlText (percentByte byte) := by
  have hlt : byte.toNat < 256 := byte.toNat_lt
  exact .group (isUpperHexDigit_upperHexDigit (by omega)) (isUpperHexDigit_upperHexDigit (by omega))
    .nil

theorem toNat_le_of_isUrlSafe {c : Char} (h : IsUrlSafe c) : c.toNat ≤ 0x7f := by
  have hle : ∀ last : Char, last.toNat ≤ 0x7f → c ≤ last → c.toNat ≤ 0x7f :=
    fun last hlast hc => Nat.le_trans (UInt32.le_iff_toNat_le.mp hc) hlast
  rcases h with ⟨-, hupper⟩ | ⟨-, hlower⟩ | ⟨-, hdigit⟩ | hmark
  · exact hle 'Z' (by decide) hupper
  · exact hle 'z' (by decide) hlower
  · exact hle '9' (by decide) hdigit
  · simp only [List.mem_cons, List.not_mem_nil, or_false] at hmark
    rcases hmark with rfl | rfl | rfl | rfl <;> decide

/-! ## Bytes one by one -/

/-- A byte as it is written: as the URL-safe character that it stands for, or
else as a group. -/
def writtenByte (byte : UInt8) : Text :=
  if IsUrlSafe (Char.ofNat byte.toNat) then [Char.ofNat byte.toNat] else percentByte byte

theorem isUrlText_writtenByte (byte : UInt8) : IsUrlText (writtenByte byte) := by
  unfold writtenByte
  split
  next hsafe => exact .kept hsafe .nil
  next => exact isUrlText_percentByte byte

theorem isUrlText_flatMap_writtenByte (bytes : List UInt8) :
    IsUrlText (bytes.flatMap writtenByte) := by
  induction bytes with
  | nil => exact .nil
  | cons byte bytes ih => exact (isUrlText_writtenByte byte).append ih

theorem toNat_ofNat_byte (byte : UInt8) : (Char.ofNat byte.toNat).toNat = byte.toNat := by
  have hlt : byte.toNat < 256 := byte.toNat_lt
  have hvalid : byte.toNat.isValidChar := .inl (by omega)
  rw [Char.ofNat, dif_pos hvalid]
  rfl

theorem digitValue?_upperHexDigit {n : Nat} (h : n < 16) :
    digitValue? (upperHexDigit n) = some n := by
  revert n
  decide

theorem percentBytes?_percentByte (byte : UInt8) (rest : Text) :
    percentBytes? (percentByte byte ++ rest) = (percentBytes? rest).map (byte :: ·) := by
  have hlt : byte.toNat < 256 := byte.toNat_lt
  have hhigh := digitValue?_upperHexDigit (n := byte.toNat / 16) (by omega)
  have hlow := digitValue?_upperHexDigit (n := byte.toNat % 16) (by omega)
  have hbyte : UInt8.ofNat (byte.toNat / 16 * 16 + byte.toNat % 16) = byte := by
    rw [Nat.div_add_mod', UInt8.ofNat_toNat]
  rw [percentByte, List.cons_append, List.cons_append, List.cons_append, List.nil_append,
    percentBytes?, if_pos rfl, hhigh, hlow]
  simp only [Option.bind_eq_bind, Option.bind_some, hbyte]
  cases percentBytes? rest <;> rfl

/-- A character other than the percent sign stands for its own bytes. -/
theorem percentBytes?_cons {c : Char} (h : c ≠ '%') (rest : Text) :
    percentBytes? (c :: rest) = (percentBytes? rest).map (String.utf8EncodeChar c ++ ·) := by
  match rest with
  | [] => simp [percentBytes?, h]
  | [d] => conv => lhs; rw [percentBytes?, if_neg h]
  | d :: e :: rest => conv => lhs; rw [percentBytes?, if_neg h]

/-- However a byte is written, it is read as that byte, whatever follows it. -/
theorem percentBytes?_writtenByte (byte : UInt8) (rest : Text) :
    percentBytes? (writtenByte byte ++ rest) = (percentBytes? rest).map (byte :: ·) := by
  unfold writtenByte
  split
  next hsafe =>
    have hpercent : Char.ofNat byte.toNat ≠ '%' := by
      intro heq
      rw [heq] at hsafe
      exact absurd hsafe (by decide)
    have hbytes : String.utf8EncodeChar (Char.ofNat byte.toNat) = [byte] := by
      refine (if_pos (toNat_le_of_isUrlSafe hsafe)).trans ?_
      change [UInt8.ofNat (Char.ofNat byte.toNat).toNat] = [byte]
      rw [toNat_ofNat_byte, UInt8.ofNat_toNat]
    rw [List.singleton_append, percentBytes?_cons hpercent, hbytes]
    rfl
  next => exact percentBytes?_percentByte byte rest

theorem percentBytes?_flatMap_writtenByte (bytes : List UInt8) :
    percentBytes? (bytes.flatMap writtenByte) = some bytes := by
  induction bytes with
  | nil => rfl
  | cons byte bytes ih =>
      rw [List.flatMap_cons, percentBytes?_writtenByte, ih]
      rfl

/-! ## Encoders -/

/-- What is said of an encoder: it writes the UTF-8 bytes of a text one by one. -/
def EncodesBytes (encode : Text → Text) : Prop :=
  ∀ text : Text, encode text = text.toUtf8.flatMap writtenByte

section

variable {encode : Text → Text} (h : EncodesBytes encode)
include h

theorem EncodesBytes.isUrlText (text : Text) : IsUrlText (encode text) := by
  rw [h text]
  exact isUrlText_flatMap_writtenByte text.toUtf8

/-- What has been encoded is read back. -/
theorem EncodesBytes.percentDecode?_eq (text : Text) :
    percentDecode? (encode text) = some text := by
  rw [h text, percentDecode?, percentBytes?_flatMap_writtenByte]
  exact ofUtf8?_toUtf8 text

theorem EncodesBytes.append (left right : Text) :
    encode (left ++ right) = encode left ++ encode right := by
  rw [h, h, h, toUtf8, List.flatMap_append, List.flatMap_append]
  rfl

end

/-! ## The encoder of the program -/

theorem isUnreserved_iff {c : Char} : isUnreserved c = true ↔ IsUrlSafe c := by
  have halphanum : c.isAlphanum = (c.isUpper || c.isLower || c.isDigit) := rfl
  have hupper : c.isUpper = true ↔ 'A' ≤ c ∧ c ≤ 'Z' := decide_eq_true_iff
  have hlower : c.isLower = true ↔ 'a' ≤ c ∧ c ≤ 'z' :=
    Bool.and_eq_true_iff.trans (and_congr decide_eq_true_iff decide_eq_true_iff)
  have hdigit : c.isDigit = true ↔ '0' ≤ c ∧ c ≤ '9' :=
    Bool.and_eq_true_iff.trans (and_congr decide_eq_true_iff decide_eq_true_iff)
  simp only [isUnreserved, halphanum, Bool.or_eq_true, beq_iff_eq, hupper, hlower, hdigit,
    or_assoc, IsUrlSafe, List.mem_cons, List.not_mem_nil, or_false]

/-- The bytes of a character outside ASCII are outside ASCII too. -/
theorem le_toNat_of_mem_utf8EncodeChar {c : Char} (h : 0x7f < c.toNat) {byte : UInt8}
    (hbyte : byte ∈ String.utf8EncodeChar c) : 0x7f < byte.toNat := by
  unfold String.utf8EncodeChar at hbyte
  change 0x7f < c.val.toNat at h
  simp only [if_neg (Nat.not_le.mpr h)] at hbyte
  split at hbyte
  · simp only [List.mem_cons, List.not_mem_nil, or_false] at hbyte
    rcases hbyte with rfl | rfl <;> simp only [UInt8.toNat_ofNat'] <;> omega
  · split at hbyte
    · simp only [List.mem_cons, List.not_mem_nil, or_false] at hbyte
      rcases hbyte with rfl | rfl | rfl <;> simp only [UInt8.toNat_ofNat'] <;> omega
    · simp only [List.mem_cons, List.not_mem_nil, or_false] at hbyte
      rcases hbyte with rfl | rfl | rfl | rfl <;> simp only [UInt8.toNat_ofNat'] <;> omega

theorem writtenByte_of_lt {byte : UInt8} (h : 0x7f < byte.toNat) :
    writtenByte byte = percentByte byte := by
  refine if_neg fun hsafe => ?_
  have hle := toNat_le_of_isUrlSafe hsafe
  rw [toNat_ofNat_byte] at hle
  omega

theorem percentChar_eq_flatMap (c : Char) :
    percentChar c = (String.utf8EncodeChar c).flatMap writtenByte := by
  by_cases hascii : c.toNat ≤ 0x7f
  · have hbytes : String.utf8EncodeChar c = [UInt8.ofNat c.toNat] := if_pos hascii
    have hback : Char.ofNat (UInt8.ofNat c.toNat).toNat = c := by
      rw [UInt8.toNat_ofNat', Nat.mod_eq_of_lt (by omega), Char.ofNat_toNat]
    simp only [percentChar, hbytes, List.flatMap_singleton, writtenByte, hback, isUnreserved_iff]
  · have hkept : ¬ isUnreserved c = true :=
      fun h => hascii (toNat_le_of_isUrlSafe (isUnreserved_iff.mp h))
    rw [percentChar, if_neg hkept]
    refine List.flatMap_congr fun byte hbyte => (writtenByte_of_lt ?_).symm
    exact le_toNat_of_mem_utf8EncodeChar (Nat.not_le.mp hascii) hbyte

/-- The encoder of the program writes a text byte by byte. -/
theorem encodesBytes_percentEncode : EncodesBytes percentEncode := by
  intro text
  rw [percentEncode, toUtf8, List.flatMap_assoc]
  exact List.flatMap_congr fun c _ => percentChar_eq_flatMap c

/-- An encoder that writes bytes one by one gives URL-safe characters and groups
only, from which the text can be read back, and encodes a text part by part. -/
theorem EncodesBytes.lossless {encode : Text → Text} (h : EncodesBytes encode) (text : Text) :
    IsUrlText (encode text) ∧ percentDecode? (encode text) = some text ∧
      ∀ more : Text, encode (text ++ more) = encode text ++ encode more :=
  ⟨h.isUrlText text, h.percentDecode?_eq text, h.append text⟩

/-- Characters of two and of four bytes, and text that looks encoded, which is
encoded again. -/
theorem lossless_percentEncode :
    EncodesBytes percentEncode ∧
    percentEncode "é%41~".toList = "%C3%A9%2541~".toList ∧
    IsUrlText (percentEncode "é%41~".toList) ∧
    percentDecode? (percentEncode "é%41~".toList) = some "é%41~".toList ∧
    percentEncode ("é%41~".toList ++ "😀".toList) =
      percentEncode "é%41~".toList ++ percentEncode "😀".toList := by
  obtain ⟨hurl, hread, happend⟩ := EncodesBytes.lossless encodesBytes_percentEncode "é%41~".toList
  exact ⟨encodesBytes_percentEncode, by decide, hurl, hread, happend "😀".toList⟩

end FilterQuery.Text
