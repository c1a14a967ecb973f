-- SUMMARY: A percent-encoded text is ASCII, and decoding it gives the text back.
import Launcher.Text.Percent

/-!
# Percent-encoding undone

Decoding undoes encoding octet by octet, whether an octet stands for itself or is written
with two digits. The octets of a text are UTF-8, so the text itself comes back.
-/
namespace Launcher.Text

theorem hexDigitUpper_isAscii : ∀ n < 16, (hexDigitUpper n).toNat < 0x80 := by decide

theorem toNat_ofNat_of_isAscii : ∀ n < 0x80, (Char.ofNat n).toNat = n := by decide

namespace Percent

/-! ## One octet -/

theorem toNat_lt_of_isPlain {b : UInt8} (h : isPlain b = true) : b.toNat < 0x80 := by
  simp only [isPlain, Bool.and_eq_true, decide_eq_true_eq] at h
  exact h.1

theorem ofNat_ne_percent_of_isPlain {b : UInt8} (h : isPlain b = true) :
    Char.ofNat b.toNat ≠ '%' := by
  intro hpercent
  rw [isPlain, hpercent] at h
  simp at h

theorem toNat_ofNat_of_isPlain {b : UInt8} (h : isPlain b = true) :
    (Char.ofNat b.toNat).toNat = b.toNat :=
  toNat_ofNat_of_isAscii _ (toNat_lt_of_isPlain h)

/-- A character that stands for itself is read as its octet. -/
theorem decodeOctets_cons_of_ne_percent {c : Char} (hne : c ≠ '%') (hascii : c.toNat < 0x80)
    (rest : List Char) :
    decodeOctets (c :: rest) = (decodeOctets rest).map (UInt8.ofNat c.toNat :: ·) := by
  have hkeep : ¬ (c = '%' ∨ 0x80 ≤ c.toNat) := by
    rintro (h | h)
    · exact hne h
    · omega
  rw [decodeOctets, if_neg hkeep]
  rintro _ _ _ rfl
  exact absurd rfl hne

theorem decodeOctets_encodeOctet (b : UInt8) (rest : List Char) :
    decodeOctets (encodeOctet b ++ rest) = (decodeOctets rest).map (b :: ·) := by
  unfold encodeOctet
  cases hplain : isPlain b with
  | true =>
    have hread := decodeOctets_cons_of_ne_percent (ofNat_ne_percent_of_isPlain hplain)
      (by rw [toNat_ofNat_of_isPlain hplain]; exact toNat_lt_of_isPlain hplain) rest
    rw [toNat_ofNat_of_isPlain hplain, UInt8.ofNat_toNat] at hread
    exact hread
  | false =>
    have hlt := b.toNat_lt
    have hhigh := hexValue_hexDigitUpper (b.toNat / 16) (by omega)
    have hlow := hexValue_hexDigitUpper (b.toNat % 16) (by omega)
    have hwhole : UInt8.ofNat (16 * (b.toNat / 16) + b.toNat % 16) = b := by
      rw [Nat.div_add_mod, UInt8.ofNat_toNat]
    simp [decodeOctets, hhigh, hlow, hwhole]

theorem isAscii_of_mem_encodeOctet {b : UInt8} {c : Char} (hc : c ∈ encodeOctet b) :
    c.toNat < 0x80 := by
  unfold encodeOctet at hc
  cases hplain : isPlain b with
  | true =>
    rw [hplain, if_pos rfl, List.mem_singleton] at hc
    rw [hc, toNat_ofNat_of_isPlain hplain]
    exact toNat_lt_of_isPlain hplain
  | false =>
    have hlt := b.toNat_lt
    rw [hplain] at hc
    simp only [Bool.false_eq_true, if_false, List.mem_cons, List.not_mem_nil, or_false] at hc
    rcases hc with rfl | rfl | rfl
    · decide
    · exact hexDigitUpper_isAscii _ (by omega)
    · exact hexDigitUpper_isAscii _ (by omega)

/-! ## Texts -/

theorem decodeOctets_encodeOctets (bs : List UInt8) : decodeOctets (encodeOctets bs) = some bs := by
  induction bs with
  | nil => rfl
  | cons b bs ih => rw [encodeOctets_cons, decodeOctets_encodeOctet, ih, Option.map_some]

/-- The octets of a text are read as that text. -/
theorem fromUTF8?_octetsOf (text : String) :
    String.fromUTF8? ⟨(octetsOf text.toList).toArray⟩ = some text := by
  have hoctets : (⟨(octetsOf text.toList).toArray⟩ : ByteArray) = text.toByteArray := by
    rw [← String.ofList_toList (s := text), String.toByteArray_ofList, String.toList_ofList]
    exact ByteArray.ext (List.data_toByteArray).symm
  rw [hoctets, String.fromUTF8?, dif_pos text.isValidUTF8]
  exact congrArg some (String.toByteArray_inj.mp rfl)

theorem decode_encode (text : String) : decode (encode text) = some text := by
  rw [decode, encode, String.toList_ofList, decodeOctets_encodeOctets, Option.bind_some]
  exact fromUTF8?_octetsOf text

theorem isAscii_of_mem_encode {text : String} {c : Char} (hc : c ∈ (encode text).toList) :
    c.toNat < 0x80 := by
  rw [encode, String.toList_ofList, encodeOctets, List.mem_flatMap] at hc
  obtain ⟨b, -, hcb⟩ := hc
  exact isAscii_of_mem_encodeOctet hcb

end Percent

end Launcher.Text
