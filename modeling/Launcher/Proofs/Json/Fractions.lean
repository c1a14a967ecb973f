-- SUMMARY: Numbers with a fraction are read back from the text that they are written as.
import Launcher.Proofs.Decimal.Nearest
import Launcher.Proofs.Json.Scalars

/-!
# Numbers with a fraction

The digits that a number is written with lie in the interval around it, wherever the search for them
ends. No form of the text changes the decimal: the point is moved and zeros are put behind the
digits, and the power of ten makes up for it. So the text is read as a decimal in the interval.
-/
namespace Launcher.Json

theorem ofDigits_append (ds es : List Char) :
    ofDigits (ds ++ es) = ofDigits ds * Decimal.tenTo es.length + ofDigits es := by
  change Nat.ofDigitChars 10 (ds ++ es) 0 = _
  rw [Nat.ofDigitChars_append, Nat.ofDigitChars_eq_ofDigitChars_zero, Nat.mul_comm]
  rfl

theorem ofDigits_zeros (n : Nat) : ofDigits (List.replicate n '0') = 0 :=
  Nat.ofDigitChars_replicate_zero

theorem ofDigits_toDigits (n : Nat) : ofDigits (Nat.toDigits 10 n) = n :=
  Nat.ofDigitChars_ten_toDigits

end Launcher.Json

namespace Launcher.Decimal

/-! ## Decimals in an interval -/

namespace Interval

variable {i : Interval}

/-- The decimal `digits * 10 ^ power` lies in the interval. -/
def Admits (i : Interval) (digits : Nat) (power : Int) : Prop :=
  i.holds (digits * tenTo power.toNat) (tenTo (-power).toNat) = true

/-- Equal quotients lie in the same intervals. -/
theorem holds_congr {num den num' den' : Nat} (hden : 0 < den) (hden' : 0 < den')
    (heq : num * den' = num' * den) : i.holds num den = i.holds num' den' := by
  have hnum : num * i.den * den' = num' * i.den * den := by
    calc num * i.den * den' = num * den' * i.den := by ring
      _ = num' * den * i.den := by rw [heq]
      _ = num' * i.den * den := by ring
  have hside (a : Nat) : (a * den < num * i.den ↔ a * den' < num' * i.den) ∧
      (num * i.den < a * den ↔ num' * i.den < a * den') := by
    have hswap : a * den * den' = a * den' * den := by ring
    constructor
    · rw [← Nat.mul_lt_mul_right hden', hnum, hswap, Nat.mul_lt_mul_right hden]
    · rw [← Nat.mul_lt_mul_right hden', hnum, hswap, Nat.mul_lt_mul_right hden]
  unfold holds
  simp only [← Nat.not_lt, (hside _).1, (hside _).2]

/-- Zeros behind the digits are worth a power of ten. -/
theorem admits_mul_tenTo (digits n : Nat) (power : Int) :
    i.Admits (digits * tenTo n) power ↔ i.Admits digits (power + n) := by
  unfold Admits
  rw [holds_congr (tenTo_pos _) (tenTo_pos _)]
  have hpowers : n + power.toNat + (-(power + n)).toNat = (power + n).toNat + (-power).toNat := by
    omega
  rw [Nat.mul_assoc, Nat.mul_assoc, Nat.mul_assoc, ← tenTo_add, ← tenTo_add, ← tenTo_add,
    ← Nat.add_assoc, hpowers]

/-- An interval above zero, whose middle is a decimal. -/
structure Proper (i : Interval) : Prop where
  low_pos : 0 < i.low
  low_lt : i.low < i.middle
  lt_high : i.middle < i.high
  den_pos : 0 < i.den
  decimal : i.den ∣ tenTo 1076

theorem Proper.ne_zero (hi : i.Proper) {digits : Nat} {power : Int} (h : i.Admits digits power) :
    digits ≠ 0 := by
  rintro rfl
  have hlow : 0 < i.low * tenTo (-power).toNat := Nat.mul_pos hi.low_pos (tenTo_pos _)
  unfold Admits holds at h
  simp only [Nat.zero_mul] at h
  split at h
  all_goals
    simp only [Bool.and_eq_true, decide_eq_true_eq] at h
    omega

/-- The decimal that is found on a grid lies in the interval. -/
theorem admits_of_onGrid {k : Int} {digits : Nat} (h : i.onGrid k = some digits) :
    i.Admits digits k := by
  have hup : (if 0 ≤ k then tenTo k.toNat else 1) = tenTo k.toNat := by
    split
    · rfl
    · rw [show k.toNat = 0 by omega]
      rfl
  have hdown : (if 0 ≤ k then 1 else tenTo (-k).toNat) = tenTo (-k).toNat := by
    split
    · rw [show (-k).toNat = 0 by omega]
      rfl
    · rfl
  unfold onGrid at h
  simp only [hup, hdown] at h
  split at h
  case h_1 hbelow habove =>
    cases h
    unfold roundHalfEven
    simp only
    split
    · exact hbelow
    · split
      · exact habove
      · obtain hparity | hparity : i.middle * tenTo (-k).toNat / (i.den * tenTo k.toNat) % 2 = 0 ∨
            i.middle * tenTo (-k).toNat / (i.den * tenTo k.toNat) % 2 = 1 := by omega
        · rw [hparity]
          exact hbelow
        · rw [hparity]
          exact habove
  case h_2 hbelow _ =>
    cases h
    exact hbelow
  case h_3 _ habove =>
    cases h
    exact habove
  case h_4 => cases h

/-- The middle of an interval lies in it, with all its digits. -/
theorem Proper.admits_middle (hi : i.Proper) :
    i.Admits (i.middle * tenTo 1076 / i.den) (-1076) := by
  obtain ⟨c, hc⟩ := hi.decimal
  have hdigits : i.middle * tenTo 1076 / i.den = i.middle * c := by
    rw [hc, Nat.mul_left_comm, Nat.mul_div_cancel_left _ hi.den_pos]
  have hnum : i.middle * c * tenTo 0 * i.den = i.middle * tenTo 1076 := by
    rw [show tenTo 0 = 1 from rfl, hc]
    ring
  have hlow : i.low * tenTo 1076 < i.middle * tenTo 1076 :=
    Nat.mul_lt_mul_of_pos_right hi.low_lt (tenTo_pos _)
  have hhigh : i.middle * tenTo 1076 < i.high * tenTo 1076 :=
    Nat.mul_lt_mul_of_pos_right hi.lt_high (tenTo_pos _)
  rw [hdigits, Admits, show (-1076 : Int).toNat = 0 from rfl, show (- -1076 : Int).toNat = 1076 from rfl,
    holds, hnum]
  split
  · simp [hlow.le, hhigh.le]
  · simp [hlow, hhigh]

end Interval

theorem Binary.Shifted.proper {b : Binary} {shift : Nat} (h : b.Shifted shift)
    (hmantissa : 0 < b.mantissa) : (Interval.around b).Proper := by
  have hunit : 0 < b.unit := twoTo_pos _
  rw [around_eq]
  refine ⟨?_, ?_, ?_, twoTo_pos _, ?_⟩
  · exact Nat.mul_pos (by split <;> omega) hunit
  · exact Nat.mul_lt_mul_of_pos_right (by split <;> omega) hunit
  · exact Nat.mul_lt_mul_of_pos_right (by omega) hunit
  · have hexponent := h.exponent
    have hle : (2 - b.exponent).toNat ≤ 1076 := by omega
    have hten (n : Nat) : tenTo n = twoTo n * Nat.pow 5 n := Nat.mul_pow 2 5 n
    rw [hten]
    exact Dvd.dvd.mul_right (twoTo_dvd hle) _

/-! ## The shortest digits -/

/-- Digits without a zero in front, which stand for a decimal in an interval. -/
structure Digits.Within (d : Digits) (i : Interval) : Prop where
  digits : ∀ c ∈ d.text.toList, c.isDigit = true
  head : ∃ c cs, d.text.toList = c :: cs ∧ c ≠ '0'
  admits : i.Admits (Json.ofDigits d.text.toList) (d.point - d.text.length)

theorem digits_within {i : Interval} (hi : i.Proper) {value : Nat} {k point : Int}
    (h : i.Admits value k) (hpoint : point = k + (digits value).length) :
    Digits.Within ⟨digits value, point⟩ i := by
  have hlist : (digits value).toList = Nat.toDigits 10 value := String.toList_ofList
  refine ⟨?_, ?_, ?_⟩
  · rw [hlist]
    exact fun c hc => Nat.isDigit_of_mem_toDigits (by decide) (by decide) hc
  · rw [hlist]
    have hfirst := Json.head?_toDigits (Nat.pos_of_ne_zero (hi.ne_zero h))
    cases hdigits : Nat.toDigits 10 value with
    | nil => exact absurd hdigits Nat.toDigits_ne_nil
    | cons c cs =>
      refine ⟨c, cs, rfl, ?_⟩
      rintro rfl
      rw [hdigits] at hfirst
      exact hfirst rfl
  · simp only
    rw [hlist, Json.ofDigits_toDigits, show point - (digits value).length = k by omega]
    exact h

theorem search_within {i : Interval} (hi : i.Proper) (place : Int) (n fuel : Nat) :
    (i.search place n fuel).Within i := by
  induction fuel generalizing n with
  | zero => exact digits_within hi hi.admits_middle (by omega)
  | succ fuel ih =>
    unfold Interval.search
    simp only
    split
    case h_1 value hvalue => exact digits_within hi (Interval.admits_of_onGrid hvalue) rfl
    case h_2 => exact ih (n + 1)

theorem Digits.Within.trim {d : Digits} {i : Interval} (h : d.Within i) : d.trim.Within i := by
  obtain ⟨hdigits, ⟨c, cs, hcons, hc⟩, hadmits⟩ := h
  have hsplit : d.text.toList = (d.text.toList.reverse.dropWhile (· = '0')).reverse ++
      List.replicate (d.text.toList.reverse.takeWhile (· = '0')).length '0' := by
    have hzeros : (d.text.toList.reverse.takeWhile (· = '0')).reverse =
        List.replicate (d.text.toList.reverse.takeWhile (· = '0')).length '0' := by
      rw [List.eq_replicate_iff, List.length_reverse]
      refine ⟨rfl, fun z hz => ?_⟩
      simpa using List.mem_takeWhile_imp (List.mem_reverse.mp hz)
    rw [← hzeros, ← List.reverse_append, List.takeWhile_append_dropWhile, List.reverse_reverse]
  generalize (d.text.toList.reverse.takeWhile (· = '0')).length = n at hsplit
  unfold Digits.trim
  generalize (d.text.toList.reverse.dropWhile (· = '0')).reverse = kept at hsplit
  cases kept with
  | nil =>
    -- the first digit is none of the zeros
    have hmem : c ∈ List.replicate n '0' := by
      rw [List.nil_append] at hsplit
      rw [← hsplit, hcons]
      exact List.mem_cons_self
    exact absurd (List.eq_of_mem_replicate hmem) hc
  | cons k ks =>
    have hk : k = c := by
      rw [hcons, List.cons_append] at hsplit
      exact (List.cons.inj hsplit).1.symm
    have hlength : d.text.length = (k :: ks).length + n := by
      rw [← String.length_toList, hsplit, List.length_append, List.length_replicate]
    rw [hsplit, Json.ofDigits_append, Json.ofDigits_zeros, List.length_replicate, Nat.add_zero,
      Interval.admits_mul_tenTo, hlength] at hadmits
    simp only
    refine ⟨?_, ?_, ?_⟩
    · rw [String.toList_ofList]
      exact fun z hz => hdigits z (by rw [hsplit]; exact List.mem_append_left _ hz)
    · exact ⟨k, ks, String.toList_ofList, hk ▸ hc⟩
    · simp only [String.toList_ofList, String.length_ofList]
      convert hadmits using 1
      omega

/-- What the digits of a number other than zero stand for lies in the interval around it. -/
theorem Binary.Shifted.shortest_within {b : Binary} {shift : Nat} (h : b.Shifted shift)
    (hmantissa : 0 < b.mantissa) : b.shortest.trim.Within (Interval.around b) :=
  (search_within (h.proper hmantissa) _ 1 17).trim

end Launcher.Decimal

/-! ## Reading decimals -/

namespace Launcher.Json

open Decimal

section Decimals

variable {negative : Bool} {whole fraction text more rest : List Char} {power : Option Int}

/-- A run of digits without a needless zero in front. -/
def Leads (whole : List Char) : Prop :=
  (∀ c ∈ whole, c.isDigit = true) ∧ ∃ c cs, whole = c :: cs ∧ (c = '0' → cs = [])

theorem isDigit_zero : ∀ c ∈ ['0'], c.isDigit = true := List.forall_mem_singleton.mpr rfl

theorem leads_zero : Leads ['0'] := ⟨isDigit_zero, '0', [], rfl, fun _ => rfl⟩

theorem leads_cons {c : Char} {cs : List Char} (hdigits : ∀ z ∈ c :: cs, z.isDigit = true)
    (hc : c ≠ '0') : Leads (c :: cs) :=
  ⟨hdigits, c, cs, rfl, fun hzero => absurd hzero hc⟩

theorem isDigit_append_zeros {ds : List Char} (hds : ∀ c ∈ ds, c.isDigit = true) (n : Nat) :
    (∀ c ∈ ds ++ List.replicate n '0', c.isDigit = true) ∧
      ∀ c ∈ List.replicate n '0' ++ ds, c.isDigit = true := by
  have hzeros : ∀ c ∈ List.replicate n '0', c.isDigit = true := by
    intro c hc
    rw [List.eq_of_mem_replicate hc]
    decide
  exact ⟨List.forall_mem_append.mpr ⟨hds, hzeros⟩, List.forall_mem_append.mpr ⟨hzeros, hds⟩⟩

theorem not_isDigit_cons {c : Char} (hc : c.isDigit = false) (cs : List Char) :
    ∀ z ∈ (c :: cs).head?, z.isDigit = false := by
  intro z hz
  cases hz
  exact hc

/-- A number with a fraction or a power of ten is read as a decimal. -/
theorem readNumber_decimal (hwhole : Leads whole) (htext : ∀ c ∈ text.head?, c.isDigit = false)
    (hfraction : readFraction text = some (fraction, more))
    (hpower : readExponent more = some (power, rest)) (hsome : fraction ≠ [] ∨ power ≠ none) :
    readNumber negative (whole ++ text) =
      some (.float (ofDecimal negative (ofDigits (whole ++ fraction))
        (power.getD 0 - fraction.length)), rest) := by
  obtain ⟨hdigits, c, cs, hcons, hzero⟩ := hwhole
  unfold readNumber
  rw [spanDigits_append hdigits htext]
  simp only
  split
  case h_1 => cases hcons
  case h_2 =>
    cases hcons
    cases hzero rfl
  case h_3 =>
    simp only [hfraction, hpower, Option.bind_eq_bind, Option.bind_some]
    split
    case h_1 => simp at hsome
    case h_2 => rfl

theorem readFraction_digits (hdigits : ∀ c ∈ fraction, c.isDigit = true) (hne : fraction ≠ [])
    (hmore : ∀ c ∈ more.head?, c.isDigit = false) :
    readFraction ('.' :: (fraction ++ more)) = some (fraction, more) := by
  cases fraction with
  | nil => exact absurd rfl hne
  | cons c cs => simp only [readFraction, spanDigits_append hdigits hmore]

/-- A power of ten is read with its sign, behind a zero or not. -/
theorem readExponent_exponentText (e : Int) (hrest : EndsNumber rest) :
    readExponent ('e' :: ((exponentText e).toList ++ rest)) = some (some e, rest) := by
  have hdigits : ∀ c ∈ '0' :: Nat.toDigits 10 e.natAbs, c.isDigit = true :=
    List.forall_mem_cons.mpr
      ⟨by decide, fun c hc => Nat.isDigit_of_mem_toDigits (by decide) (by decide) hc⟩
  obtain ⟨ds, hds, hne, hvalue, hall⟩ : ∃ ds, (exponentText e).toList =
      (if e < 0 then '-' else '+') :: ds ∧ ds ≠ [] ∧ ofDigits ds = e.natAbs ∧
        ∀ c ∈ ds, c.isDigit = true := by
    have hsign : (if e < 0 then "-" else "+").toList = [if e < 0 then '-' else '+'] := by
      split <;> rfl
    have hnumber : (Decimal.digits e.natAbs).toList = Nat.toDigits 10 e.natAbs :=
      String.toList_ofList
    unfold exponentText
    simp only [String.toList_append, hsign, List.singleton_append]
    by_cases hshort : (Decimal.digits e.natAbs).length < 2
    · have hzero : ofDigits ('0' :: Nat.toDigits 10 e.natAbs) = e.natAbs := by
        rw [← List.singleton_append, ofDigits_append, ofDigits_toDigits]
        exact (congrArg (· + e.natAbs) (Nat.zero_mul _)).trans (Nat.zero_add _)
      rw [if_pos hshort, String.toList_append, hnumber]
      exact ⟨'0' :: Nat.toDigits 10 e.natAbs, rfl, List.cons_ne_nil _ _, hzero, hdigits⟩
    · rw [if_neg hshort, hnumber]
      exact ⟨_, rfl, Nat.toDigits_ne_nil, ofDigits_toDigits _, (List.forall_mem_cons.mp hdigits).2⟩
  have hread : spanDigits (ds ++ rest) = (ds, rest) := spanDigits_append hall hrest.not_isDigit
  rw [hds, List.cons_append]
  cases ds with
  | nil => exact absurd rfl hne
  | cons c cs =>
    unfold readExponent
    simp only [true_or, if_true]
    by_cases hneg : e < 0
    · have he : -(e.natAbs : Int) = e := by omega
      simp only [if_pos hneg, hread, hvalue, if_true, he]
    · have he : (e.natAbs : Int) = e := by omega
      simp only [if_neg hneg, hread, hvalue, Bool.false_eq_true, if_false, he]

end Decimals

/-! ## Reading texts -/

section Texts

variable {d : Digits} {i : Interval} {rest : List Char}

/-- The text in front of the rest is read as a decimal in an interval. -/
def ReadsWithin (i : Interval) (text rest : List Char) : Prop :=
  (∃ c cs, text = c :: cs ∧ c.isDigit = true) ∧ ∃ digits power, i.Admits digits power ∧
    ∀ negative, readNumber negative (text ++ rest) =
      some (.float (ofDecimal negative digits power), rest)

theorem readsWithin_parts {whole fraction tail more : List Char} {power : Option Int}
    (hwhole : Leads whole) (htail : ∀ c ∈ (tail ++ rest).head?, c.isDigit = false)
    (hfraction : readFraction (tail ++ rest) = some (fraction, more))
    (hpower : readExponent more = some (power, rest)) (hsome : fraction ≠ [] ∨ power ≠ none)
    (hadmits : i.Admits (ofDigits (whole ++ fraction)) (power.getD 0 - fraction.length)) :
    ReadsWithin i (whole ++ tail) rest := by
  refine ⟨?_, _, _, hadmits, fun negative => ?_⟩
  · obtain ⟨hdigits, c, cs, rfl, -⟩ := hwhole
    exact ⟨c, cs ++ tail, rfl, hdigits c List.mem_cons_self⟩
  · rw [List.append_assoc]
    exact readNumber_decimal hwhole htail hfraction hpower hsome

/-- Digits with a point in front of them, among them or behind them are read as the decimal that
    they stand for. -/
theorem readsWithin_positional (h : d.Within i) (hrest : EndsNumber rest) :
    ReadsWithin i d.positional.toList rest := by
  obtain ⟨hdigits, ⟨c, cs, hcons, hc⟩, hadmits⟩ := h
  have hpower : readExponent rest = some (none, rest) := hrest.readExponent
  have hzeros (n : Nat) : (zeros n).toList = List.replicate n '0' := String.toList_ofList
  have hdot (r : List Char) := not_isDigit_cons (show ('.').isDigit = false by decide) r
  rw [← String.length_toList, hcons] at hadmits
  rw [hcons] at hdigits
  unfold Digits.positional
  simp only [← String.length_toList, hcons]
  split
  case isTrue hpoint =>
    have hvalue : ofDigits (['0'] ++ (List.replicate (-d.point).toNat '0' ++ c :: cs)) =
        ofDigits (c :: cs) := by
      rw [ofDigits_append, ofDigits_append, ofDigits_zeros, Nat.zero_mul, Nat.zero_add]
      exact (congrArg (· + _) (Nat.zero_mul _)).trans (Nat.zero_add _)
    have hall := (isDigit_append_zeros hdigits (-d.point).toNat).2
    have hne : List.replicate (-d.point).toNat '0' ++ c :: cs ≠ [] := by simp
    have htext : ("0." ++ zeros (-d.point).toNat ++ d.text).toList =
        ['0'] ++ '.' :: (List.replicate (-d.point).toNat '0' ++ c :: cs) := by
      rw [String.toList_append, String.toList_append, hzeros, hcons, List.append_assoc]
      rfl
    rw [htext]
    refine readsWithin_parts leads_zero (hdot _) (readFraction_digits hall hne hrest.not_isDigit)
      hpower (.inl hne) ?_
    rw [hvalue]
    convert hadmits using 1
    simp only [Option.getD_none, List.length_append, List.length_replicate]
    omega
  case isFalse hpoint =>
    split
    case isTrue hbehind =>
      generalize hn : (d.point - (c :: cs).length).toNat = n
      have hpower' : (none.getD 0 : Int) - ['0'].length = -1 := rfl
      have hvalue : ofDigits ((c :: cs ++ List.replicate n '0') ++ ['0']) =
          ofDigits (c :: cs) * tenTo (n + 1) := by
        rw [List.append_assoc, show ['0'] = List.replicate 1 '0' from rfl,
          List.replicate_append_replicate, ofDigits_append, ofDigits_zeros, List.length_replicate,
          Nat.add_zero]
      have hall := (isDigit_append_zeros hdigits n).1
      have htext : (d.text ++ zeros n ++ ".0").toList =
          (c :: cs ++ List.replicate n '0') ++ ['.', '0'] := by
        rw [String.toList_append, String.toList_append, hzeros, hcons]
        rfl
      rw [htext]
      refine readsWithin_parts (leads_cons hall hc) (hdot _)
        (readFraction_digits isDigit_zero (by simp) hrest.not_isDigit) hpower
        (.inl (by simp)) ?_
      rw [hvalue, hpower', Interval.admits_mul_tenTo]
      convert hadmits using 1
      omega
    case isFalse hinside =>
      obtain ⟨n, hn⟩ : ∃ n, d.point.toNat = n + 1 := ⟨d.point.toNat - 1, by omega⟩
      have hsplit : (c :: cs.take n) ++ cs.drop n = c :: cs := by
        rw [List.cons_append, List.take_append_drop]
      have hall := List.forall_mem_append.mp (hsplit ▸ hdigits)
      rw [List.length_cons] at hinside
      have hne : cs.drop n ≠ [] := by
        rw [ne_eq, List.drop_eq_nil_iff]
        omega
      have htext : (String.ofList ((c :: cs).take d.point.toNat) ++ "." ++
          String.ofList ((c :: cs).drop d.point.toNat)).toList =
            (c :: cs.take n) ++ '.' :: cs.drop n := by
        rw [String.toList_append, String.toList_append, String.toList_ofList, String.toList_ofList,
          String.toList_ofList, hn, List.append_assoc, List.take_succ_cons, List.drop_succ_cons]
        rfl
      rw [htext]
      refine readsWithin_parts (leads_cons hall.1 hc) (hdot _)
        (readFraction_digits hall.2 hne hrest.not_isDigit) hpower (.inl hne) ?_
      rw [hsplit]
      convert hadmits using 1
      simp only [Option.getD_none, List.length_drop, List.length_cons]
      omega

/-- One digit in front of the point and a power of ten are read as the decimal that they stand for. -/
theorem readsWithin_scientific (h : d.Within i) (hrest : EndsNumber rest) :
    ReadsWithin i (d.scientific false).toList rest := by
  obtain ⟨hdigits, ⟨c, cs, hcons, hc⟩, hadmits⟩ := h
  rw [← String.length_toList, hcons] at hadmits
  rw [hcons] at hdigits
  have hpower := readExponent_exponentText (d.point - 1) hrest
  have he (r : List Char) := not_isDigit_cons (show ('e').isDigit = false by decide) r
  have hfirst : ∀ z ∈ [c], z.isDigit = true := by
    simpa using hdigits c List.mem_cons_self
  unfold Digits.scientific
  rw [hcons]
  simp only [List.take_succ_cons, List.take_zero, List.drop_succ_cons, List.drop_zero,
    String.ofList_eq_empty_iff, Bool.not_false, and_true]
  by_cases hcs : cs = []
  · have htext : (String.ofList [c] ++ (if cs = [] then "" else "." ++ String.ofList cs) ++ "e" ++
        exponentText (d.point - 1)).toList = [c] ++ 'e' :: (exponentText (d.point - 1)).toList := by
      rw [if_pos hcs]
      simp
    rw [htext]
    refine readsWithin_parts (leads_cons hfirst hc) (he _) (readFraction_of_head ?_) hpower
      (.inr (by simp)) ?_
    · simp
    · have hpoint : (some (d.point - 1)).getD 0 - (([] : List Char).length : Int) =
          d.point - [c].length := by
        rw [Option.getD_some, List.length_nil, List.length_singleton]
        omega
      rw [hcs] at hadmits
      rwa [hpoint]
  · have htext : (String.ofList [c] ++ (if cs = [] then "" else "." ++ String.ofList cs) ++ "e" ++
        exponentText (d.point - 1)).toList =
          [c] ++ '.' :: (cs ++ 'e' :: (exponentText (d.point - 1)).toList) := by
      rw [if_neg hcs]
      simp
    have hall : ∀ z ∈ cs, z.isDigit = true := (List.forall_mem_cons.mp hdigits).2
    have hfraction : readFraction ('.' :: (cs ++ 'e' :: (exponentText (d.point - 1)).toList) ++ rest) =
        some (cs, 'e' :: ((exponentText (d.point - 1)).toList ++ rest)) := by
      rw [List.cons_append, List.append_assoc]
      exact readFraction_digits hall hcs (he _)
    rw [htext]
    refine readsWithin_parts (leads_cons hfirst hc) (not_isDigit_cons (by decide) _) hfraction hpower
      (.inl hcs) ?_
    have hpoint : (some (d.point - 1)).getD 0 - (cs.length : Int) = d.point - (c :: cs).length := by
      rw [Option.getD_some, List.length_cons]
      omega
    rwa [hpoint]

/-- The text of a finite number is its sign and a text that is read as the number's magnitude. -/
theorem readNumber_text {b : Binary} {shift : Nat} (h : b.Shifted shift) (hrest : EndsNumber rest) :
    ∃ c cs, b.text.toList = (if b.negative then ['-'] else []) ++ c :: cs ∧ c.isDigit = true ∧
      ∀ negative, readNumber negative (c :: cs ++ rest) =
        some (.float (ofMagnitude negative (shift * twoTo 52 + b.mantissa)), rest) := by
  have hsign : (if b.negative then "-" else "").toList = if b.negative then ['-'] else [] := by
    split <;> rfl
  unfold Binary.text
  simp only
  by_cases hzero : b.mantissa = 0
  · have hshift : shift = 0 := h.mantissa_ge.resolve_right (by rw [hzero]; decide)
    rw [if_pos hzero, String.toList_append, hsign, hzero, hshift]
    refine ⟨'0', ['.', '0'], rfl, rfl, fun negative => ?_⟩
    have hread : readNumber negative (['0'] ++ '.' :: (['0'] ++ rest)) = _ :=
      readNumber_decimal leads_zero (not_isDigit_cons (by decide) _)
        (readFraction_digits isDigit_zero (by simp) hrest.not_isDigit) hrest.readExponent
        (.inl (by simp))
    have hdigits : ofDigits (['0'] ++ ['0']) = 0 := rfl
    rw [hdigits, ofDecimal, decimalBits, if_pos rfl] at hread
    rw [Nat.zero_mul]
    exact hread
  · have hmantissa : 0 < b.mantissa := Nat.pos_of_ne_zero hzero
    have hwithin := h.shortest_within hmantissa
    have hreads : ReadsWithin (Interval.around b)
        (if -4 < b.shortest.trim.point ∧ b.shortest.trim.point ≤ 16 then
          b.shortest.trim.positional else b.shortest.trim.scientific false).toList rest := by
      split
      · exact readsWithin_positional hwithin hrest
      · exact readsWithin_scientific hwithin hrest
    obtain ⟨⟨c, cs, htext, hc⟩, digits, power, hadmits, hread⟩ := hreads
    rw [if_neg hzero, String.toList_append, hsign, htext]
    refine ⟨c, cs, rfl, hc, fun negative => ?_⟩
    rw [← htext, hread, ofDecimal,
      decimalBits_of_holds h hmantissa ((h.proper hmantissa).ne_zero hadmits) hadmits]

end Texts

end Launcher.Json
