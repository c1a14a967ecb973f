-- SUMMARY: Strings and whole numbers are read back from the text that they are written as.
import Launcher.Json.Printer
import Launcher.Json.Reader
import Mathlib.Data.List.TakeWhile

/-!
# Strings and whole numbers

Each character of a string is written as itself or as an escape, and is read back from either; one
beyond the basic plane is two escapes. A whole number is a run of digits without a needless zero in
front, and is read back where no character follows that could go on with it.
-/
namespace Launcher.Json

/-! ## Escapes -/

theorem readUnit_hex {n : Nat} (hn : n < 0x10000) (rest : List Char) :
    readUnit (Text.hex 4 n ++ rest) = some (n, rest) := by
  have hdigit (m : Nat) : Text.hexValue (Text.hexDigit (m % 16)) = some (m % 16) :=
    Text.hexValue_hexDigit _ (Nat.mod_lt m (by decide))
  have hvalue : ((n / 16 / 16 / 16 % 16 * 16 + n / 16 / 16 % 16) * 16 + n / 16 % 16) * 16 + n % 16 = n := by
    omega
  simp [Text.hex, readUnit, hdigit, hvalue]

/-- A unit that is no surrogate is read back from its escape. -/
theorem readEscape_unit {n : Nat} (hn : n < 0x10000) (hplain : n < 0xD800 ∨ 0xE000 ≤ n)
    (rest : List Char) :
    readEscape ('u' :: (Text.hex 4 n ++ rest)) = some (Char.ofNat n, rest) := by
  have hhigh : ¬ (0xD800 ≤ n ∧ n < 0xDC00) := by omega
  have hlow : ¬ (0xDC00 ≤ n ∧ n < 0xE000) := by omega
  simp [readEscape, readUnit_hex hn, hhigh, hlow]

/-- A pair of surrogates is read back as the one character that it stands for. -/
theorem readEscape_pair {m : Nat} (hm : m < 0x100000) (rest : List Char) :
    readEscape ('u' :: (Text.hex 4 (0xD800 + m / 0x400) ++
      '\\' :: 'u' :: (Text.hex 4 (0xDC00 + m % 0x400) ++ rest))) =
        some (Char.ofNat (0x10000 + m), rest) := by
  have hhi : 0xD800 + m / 0x400 < 0xDC00 := by omega
  have hlo : 0xDC00 + m % 0x400 < 0xE000 := by omega
  have hvalue : 0x10000 + (0xD800 + m / 0x400 - 0xD800) * 0x400 + (0xDC00 + m % 0x400 - 0xDC00) =
      0x10000 + m := by omega
  simp only [readEscape, readUnit_hex (Nat.lt_trans hhi (by decide)), Option.bind_eq_bind,
    Option.bind_some, readUnit_hex (Nat.lt_trans hlo (by decide)), hvalue]
  simp [hhi, hlo]

theorem newline_not_mem_hex (width n : Nat) : '\n' ∉ Text.hex width n := by
  have hdigit : ∀ m < 16, '\n' ≠ Text.hexDigit m := by decide
  induction width generalizing n with
  | zero => exact List.not_mem_nil
  | succ width ih =>
    rw [Text.hex, List.mem_append, List.mem_singleton]
    exact not_or.mpr ⟨ih (n / 16), hdigit _ (Nat.mod_lt n (by decide))⟩

/-- How a character is written: an escape on one line that is read back as it, or as itself. -/
theorem writeChar_cases (c : Char) :
    (∃ escape, writeChar c = '\\' :: escape ∧ '\n' ∉ escape ∧
      ∀ rest, readEscape (escape ++ rest) = some (c, rest)) ∨
    (writeChar c = [c] ∧ c ≠ '"' ∧ c ≠ '\\' ∧ 0x20 ≤ c.toNat ∧ c.toNat < 0x7F) := by
  by_cases hquote : c = '"'
  · subst hquote
    exact .inl ⟨['"'], rfl, by decide, fun _ => rfl⟩
  by_cases hslash : c = '\\'
  · subst hslash
    exact .inl ⟨['\\'], rfl, by decide, fun _ => rfl⟩
  by_cases hn : c = '\n'
  · subst hn
    exact .inl ⟨['n'], rfl, by decide, fun _ => rfl⟩
  by_cases hr : c = '\r'
  · subst hr
    exact .inl ⟨['r'], rfl, by decide, fun _ => rfl⟩
  by_cases ht : c = '\t'
  · subst ht
    exact .inl ⟨['t'], rfl, by decide, fun _ => rfl⟩
  by_cases hb : c = '\x08'
  · subst hb
    exact .inl ⟨['b'], rfl, by decide, fun _ => rfl⟩
  by_cases hf : c = '\x0c'
  · subst hf
    exact .inl ⟨['f'], rfl, by decide, fun _ => rfl⟩
  have hwritten : writeChar c =
      if 0x20 ≤ c.toNat ∧ c.toNat < 0x7F then [c]
      else if c.toNat < 0x10000 then unitEscape c.toNat
      else unitEscape (0xD800 + (c.toNat - 0x10000) / 0x400) ++
        unitEscape (0xDC00 + (c.toNat - 0x10000) % 0x400) := by
    simp [writeChar, hquote, hslash, hn, hr, ht, hb, hf]
  have hvalid : c.toNat < 0xD800 ∨ 0xDFFF < c.toNat ∧ c.toNat < 0x110000 := c.valid
  rw [hwritten]
  by_cases hvisible : 0x20 ≤ c.toNat ∧ c.toNat < 0x7F
  · exact .inr ⟨if_pos hvisible, hquote, hslash, hvisible⟩
  rw [if_neg hvisible]
  by_cases hbasic : c.toNat < 0x10000
  · refine .inl ⟨'u' :: Text.hex 4 c.toNat, if_pos hbasic, ?_, fun rest => ?_⟩
    · simp [newline_not_mem_hex]
    · rw [List.cons_append, readEscape_unit hbasic (by omega), Char.ofNat_toNat]
  · refine .inl ⟨'u' :: (Text.hex 4 (0xD800 + (c.toNat - 0x10000) / 0x400) ++
      unitEscape (0xDC00 + (c.toNat - 0x10000) % 0x400)), if_neg hbasic, ?_, fun rest => ?_⟩
    · simp [unitEscape, newline_not_mem_hex]
    · have hback : 0x10000 + (c.toNat - 0x10000) = c.toNat := by omega
      rw [List.cons_append, List.append_assoc, unitEscape, List.cons_append, List.cons_append,
        readEscape_pair (by omega), hback, Char.ofNat_toNat]

/-! ## Strings -/

theorem readChars_writeChar (fuel : Nat) (c : Char) (rest : List Char) :
    readChars (fuel + 1) (writeChar c ++ rest) =
      (readChars fuel rest).map fun (s, r) => (c :: s, r) := by
  obtain ⟨escape, hescape, -, hread⟩ | ⟨hself, hquote, hslash, hlow, -⟩ := writeChar_cases c
  · rw [hescape, List.cons_append, readChars, hread]
    simp only [Option.bind_eq_bind, Option.bind_some]
    cases readChars fuel rest <;> rfl
  · have hprintable : ¬ c.toNat < 0x20 := by omega
    have hplain : readChars (fuel + 1) (c :: rest) = (do
        let (s, r) ← readChars fuel rest
        some (c :: s, r)) := by
      simp [readChars, hprintable]
    rw [hself, List.cons_append, List.nil_append, hplain]
    cases readChars fuel rest <;> rfl

theorem readChars_writeChars {s : List Char} {fuel : Nat} (hfuel : s.length < fuel)
    (rest : List Char) : readChars fuel (writeChars s ++ '"' :: rest) = some (s, rest) := by
  induction s generalizing fuel with
  | nil =>
    obtain ⟨fuel, rfl⟩ := Nat.exists_eq_add_one_of_ne_zero (Nat.ne_of_gt hfuel)
    rfl
  | cons c s ih =>
    obtain ⟨fuel, rfl⟩ := Nat.exists_eq_add_one_of_ne_zero (Nat.ne_of_gt (Nat.zero_lt_of_lt hfuel))
    rw [writeChars_cons, List.append_assoc, readChars_writeChar, ih (Nat.lt_of_succ_lt_succ hfuel)]
    rfl

theorem length_le_writeChars (s : List Char) : s.length ≤ (writeChars s).length := by
  induction s with
  | nil => exact Nat.le_refl 0
  | cons c s ih =>
    have hpos : 0 < (writeChar c).length := by
      obtain ⟨escape, hescape, -⟩ | ⟨hself, -⟩ := writeChar_cases c
      · simp [hescape]
      · simp [hself]
    rw [writeChars_cons, List.length_append, List.length_cons]
    omega

/-- A string is read back from its characters and the closing quote. -/
theorem readString_writeChars (s : String) (rest : List Char) :
    readString (writeChars s.toList ++ '"' :: rest) = some (s, rest) := by
  have hlength := length_le_writeChars s.toList
  have hfuel : s.toList.length < (writeChars s.toList ++ '"' :: rest).length + 1 := by
    rw [List.length_append]
    omega
  rw [readString, readChars_writeChars hfuel, Option.map_some]
  simp only [String.ofList_toList]

/-- A string is written on one line. -/
theorem newline_not_mem_writeString (s : String) : '\n' ∉ writeString s := by
  have hchars (cs : List Char) : '\n' ∉ writeChars cs := by
    induction cs with
    | nil => exact List.not_mem_nil
    | cons c cs ih =>
      have hc : '\n' ∉ writeChar c := by
        obtain ⟨escape, hescape, hline, -⟩ | ⟨hself, -, -, hlow, -⟩ := writeChar_cases c
        · simp [hescape, hline]
        · rw [hself, List.mem_singleton]
          rintro rfl
          exact absurd hlow (by decide)
      rw [writeChars_cons, List.mem_append]
      exact not_or.mpr ⟨hc, ih⟩
  simp [writeString, hchars]

/-! ## Whole numbers -/

/-- What follows a number does not go on with it. -/
def EndsNumber (rest : List Char) : Prop :=
  ∀ c ∈ rest.head?, c.isDigit = false ∧ c ≠ '.' ∧ c ≠ 'e' ∧ c ≠ 'E'

theorem EndsNumber.not_isDigit {rest : List Char} (h : EndsNumber rest) :
    ∀ c ∈ rest.head?, c.isDigit = false := fun c hc => (h c hc).1

theorem endsNumber_nil : EndsNumber [] := by simp [EndsNumber]

theorem endsNumber_cons {c : Char} (hc : c.isDigit = false ∧ c ≠ '.' ∧ c ≠ 'e' ∧ c ≠ 'E')
    (rest : List Char) : EndsNumber (c :: rest) := by
  simpa [EndsNumber] using hc

theorem spanDigits_append {ds rest : List Char} (hds : ∀ c ∈ ds, c.isDigit = true)
    (hrest : ∀ c ∈ rest.head?, c.isDigit = false) : spanDigits (ds ++ rest) = (ds, rest) := by
  have hstop : rest.takeWhile Char.isDigit = [] ∧ rest.dropWhile Char.isDigit = rest := by
    cases rest with
    | nil => exact ⟨rfl, rfl⟩
    | cons c r =>
      have hc := hrest c (by simp)
      simp [hc]
  rw [spanDigits, List.takeWhile_append_of_pos hds, List.dropWhile_append_of_pos hds, hstop.1,
    hstop.2, List.append_nil]

/-- The digits of a number that is not zero start with another digit. -/
theorem head?_toDigits {n : Nat} (hn : 0 < n) : (Nat.toDigits 10 n).head? ≠ some '0' := by
  induction n using Nat.strongRecOn with
  | ind n ih =>
    rw [Nat.toDigits_eq_if (by decide)]
    split
    case isTrue hlt =>
      have hdigit : ∀ d < 10, 0 < d → Nat.digitChar d ≠ '0' := by decide
      simpa using hdigit n hlt hn
    case isFalse hge =>
      have hfirst := ih (n / 10) (by omega) (by omega)
      cases hdigits : Nat.toDigits 10 (n / 10) with
      | nil => exact absurd hdigits Nat.toDigits_ne_nil
      | cons d ds => simpa [hdigits] using hfirst

theorem readFraction_of_head {rest : List Char} (hrest : ∀ c ∈ rest.head?, c ≠ '.') :
    readFraction rest = some ([], rest) := by
  cases rest with
  | nil => rfl
  | cons c r =>
    have hdot : c ≠ '.' := hrest c (by simp)
    unfold readFraction
    split
    case h_1 heq => exact absurd (List.cons.inj heq).1 hdot
    case h_2 => rfl

theorem EndsNumber.readExponent {rest : List Char} (hrest : EndsNumber rest) :
    readExponent rest = some (none, rest) := by
  cases rest with
  | nil => rfl
  | cons c r =>
    obtain ⟨-, -, hlower, hupper⟩ := hrest c (by simp)
    simp [Json.readExponent, hlower, hupper]

theorem readNumber_toDigits (negative : Bool) (n : Nat) {rest : List Char}
    (hrest : EndsNumber rest) :
    readNumber negative (Nat.toDigits 10 n ++ rest) =
      some (.int (if negative then -(n : Int) else n), rest) := by
  have hfraction : readFraction rest = some ([], rest) :=
    readFraction_of_head fun c hc => (hrest c hc).2.1
  have hexponent : readExponent rest = some (none, rest) := hrest.readExponent
  have hvalue : ofDigits (Nat.toDigits 10 n) = n := Nat.ofDigitChars_ten_toDigits
  have hzero : ∀ d ds, Nat.toDigits 10 n ≠ '0' :: d :: ds := by
    intro d ds heq
    by_cases hn : n = 0
    · subst hn
      rw [Nat.toDigits_zero] at heq
      cases heq
    · exact head?_toDigits (Nat.pos_of_ne_zero hn) (by rw [heq]; rfl)
  unfold readNumber
  rw [spanDigits_append (fun c hc => Nat.isDigit_of_mem_toDigits (by decide) (by decide) hc)
    hrest.not_isDigit]
  simp only
  split
  case h_1 hnil => exact absurd hnil Nat.toDigits_ne_nil
  case h_2 d ds heq => exact absurd heq (hzero _ _)
  case h_3 => simp [hfraction, hexponent, hvalue]

theorem newline_not_mem_toDigits (n : Nat) : '\n' ∉ Nat.toDigits 10 n := by
  intro hmem
  have hdigit : ('\n').isDigit = true :=
    Nat.isDigit_of_mem_toDigits (b := 10) (by decide) (by decide) hmem
  exact absurd hdigit (by decide)

theorem newline_not_mem_writeInt (n : Int) : '\n' ∉ writeInt n := by
  unfold writeInt
  split <;> simp [newline_not_mem_toDigits]

end Launcher.Json

/-! ## Numbers with a fraction -/

namespace Launcher.Decimal

theorem newline_not_mem_digits (n : Nat) : '\n' ∉ (digits n).toList := by
  simp [digits, Json.newline_not_mem_toDigits]

theorem newline_not_mem_zeros (n : Nat) : '\n' ∉ (zeros n).toList := by
  simp [zeros, List.mem_replicate]

theorem newline_not_mem_exponentText (e : Int) : '\n' ∉ (exponentText e).toList := by
  unfold exponentText
  simp only [String.toList_append, List.mem_append, not_or]
  constructor
  · split <;> decide
  · split <;> simp [newline_not_mem_digits]

theorem newline_not_mem_search (i : Interval) (place : Int) (n fuel : Nat) :
    '\n' ∉ (i.search place n fuel).text.toList := by
  induction fuel generalizing n with
  | zero => exact newline_not_mem_digits _
  | succ fuel ih =>
    unfold Interval.search
    simp only
    split
    · exact newline_not_mem_digits _
    · exact ih (n + 1)

section Digits

variable {d : Digits} (hd : '\n' ∉ d.text.toList)
include hd

theorem newline_not_mem_trim : '\n' ∉ d.trim.text.toList := by
  have hkept : '\n' ∉ (d.text.toList.reverse.dropWhile (· = '0')).reverse := by
    rw [List.mem_reverse]
    exact fun hmem => hd (List.mem_reverse.mp ((List.dropWhile_sublist _).subset hmem))
  unfold Digits.trim
  split
  · change '\n' ∉ "0".toList
    decide
  · simpa using hkept

theorem newline_not_mem_positional : '\n' ∉ d.positional.toList := by
  have htake (n : Nat) : '\n' ∉ d.text.toList.take n := fun h => hd (List.mem_of_mem_take h)
  have hdrop (n : Nat) : '\n' ∉ d.text.toList.drop n := fun h => hd (List.mem_of_mem_drop h)
  unfold Digits.positional
  simp only
  split
  · simp [newline_not_mem_zeros, hd]
  · split <;> simp [newline_not_mem_zeros, hd, htake, hdrop]

theorem newline_not_mem_scientific : '\n' ∉ (d.scientific false).toList := by
  have htake : '\n' ∉ d.text.toList.take 1 := fun h => hd (List.mem_of_mem_take h)
  have hdrop : '\n' ∉ d.text.toList.drop 1 := fun h => hd (List.mem_of_mem_drop h)
  unfold Digits.scientific
  simp only [String.toList_append, List.mem_append, not_or, String.toList_ofList]
  refine ⟨⟨⟨htake, ?_⟩, by decide⟩, newline_not_mem_exponentText _⟩
  split
  · decide
  · rw [String.toList_append, List.mem_append]
    refine not_or.mpr ⟨by decide, ?_⟩
    rwa [String.toList_ofList]

end Digits

/-- A number is written on one line. -/
theorem newline_not_mem_text (b : Binary) : '\n' ∉ b.text.toList := by
  have hd : '\n' ∉ b.shortest.trim.text.toList :=
    newline_not_mem_trim (newline_not_mem_search (Interval.around b) _ 1 17)
  have hsign : '\n' ∉ (if b.negative then "-" else "").toList := by split <;> decide
  unfold Binary.text
  simp only
  split
  · rw [String.toList_append, List.mem_append]
    exact not_or.mpr ⟨hsign, by decide⟩
  · rw [String.toList_append, List.mem_append]
    refine not_or.mpr ⟨hsign, ?_⟩
    split
    · exact newline_not_mem_positional hd
    · exact newline_not_mem_scientific hd

end Launcher.Decimal

namespace Launcher.Json

theorem newline_not_mem_writeFloat (x : Float) : '\n' ∉ writeFloat x := by
  unfold writeFloat
  split
  · exact Decimal.newline_not_mem_text _
  · decide
  · decide
  · decide

end Launcher.Json
