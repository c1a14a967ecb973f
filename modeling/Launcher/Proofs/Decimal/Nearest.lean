-- SUMMARY: The decimals that a double-precision number is written as are nearest to it.
import Launcher.Decimal.Nearest
import Launcher.Decimal.Shortest
import Mathlib

/-!
# The nearest number

The decimals that read back as a number lie halfway to its neighbours at most. In units of the
number's last place they round to its mantissa. Below a power of two the next smaller number lies
only half as far away, and its decimals come out in the units of the exponent before: there they
round to a mantissa that is carried.
-/
namespace Launcher.Decimal

theorem twoTo_pos (n : Nat) : 0 < twoTo n := Nat.two_pow_pos n

theorem twoTo_add (m n : Nat) : twoTo (m + n) = twoTo m * twoTo n := Nat.pow_add 2 m n

theorem twoTo_le {m n : Nat} (h : m ≤ n) : twoTo m ≤ twoTo n := Nat.pow_le_pow_right (by decide) h

theorem twoTo_dvd {m n : Nat} (h : m ≤ n) : twoTo m ∣ twoTo n := Nat.pow_dvd_pow 2 h

theorem tenTo_pos (n : Nat) : 0 < tenTo n := Nat.pow_pos (by decide)

theorem tenTo_add (m n : Nat) : tenTo (m + n) = tenTo m * tenTo n := Nat.pow_add 10 m n

theorem tenTo_le {m n : Nat} (h : m ≤ n) : tenTo m ≤ tenTo n := Nat.pow_le_pow_right (by decide) h

/-! ## Rounding -/

/-- A quotient that lies halfway to the neighbours of a number at most rounds to it, an odd number
    only when it lies nearer than halfway. -/
theorem roundHalfEven_eq {num den q : Nat} (hden : 0 < den)
    (hlow : 2 * q * den ≤ 2 * num + den) (hhigh : 2 * num ≤ (2 * q + 1) * den)
    (hodd : q % 2 = 1 → 2 * q * den < 2 * num + den ∧ 2 * num < (2 * q + 1) * den) :
    roundHalfEven num den = q := by
  have hnum : den * (num / den) + num % den = num := Nat.div_add_mod num den
  have hrest : num % den < den := Nat.mod_lt num hden
  have hcancel {a b : Nat} (h : a * den < b * den) : a < b := Nat.lt_of_mul_lt_mul_right h
  unfold roundHalfEven
  generalize num / den = d at *
  generalize num % den = r at *
  simp only
  split
  case isTrue hbelow =>
    have hle : 2 * d < 2 * q + 2 := hcancel (by linarith)
    have hge : 2 * q < 2 * d + 2 := hcancel (by linarith)
    omega
  case isFalse hnot =>
    split
    case isTrue habove =>
      have hle : 2 * d < 2 * q := hcancel (by linarith)
      have hge : 2 * q < 2 * d + 3 := hcancel (by linarith)
      omega
    case isFalse =>
      have hhalf : 2 * r = den := by omega
      have hle : 2 * d < 2 * q + 1 := hcancel (by linarith)
      have hge : 2 * q < 2 * d + 3 := hcancel (by linarith)
      by_cases hparity : q % 2 = 1
      · obtain ⟨hlow, hhigh⟩ := hodd hparity
        have hlt : 2 * d < 2 * q := hcancel (by linarith)
        have hgt : 2 * q < 2 * d + 2 := hcancel (by linarith)
        omega
      · omega

/-! ## Numbers by their exponents -/

/-- A finite number of the exponent that stands `shift` places above the least one. Only the least
    exponent has small mantissas. -/
structure Binary.Shifted (b : Binary) (shift : Nat) : Prop where
  exponent : b.exponent = (shift : Int) - 1074
  mantissa_lt : b.mantissa < twoTo 53
  mantissa_ge : shift = 0 ∨ twoTo 52 ≤ b.mantissa
  narrow : b.narrow = true ↔ b.mantissa = twoTo 52 ∧ 0 < shift
  finite : shift * twoTo 52 + b.mantissa < infiniteBits

/-- The bits of a finite number are its sign, its exponent and its mantissa. -/
theorem shifted_of_read {x : Float} {b : Binary} (hread : read x = .finite b) :
    ∃ shift, b.Shifted shift ∧
      x.toBits.toNat = (if b.negative then twoTo 63 else 0) + (shift * twoTo 52 + b.mantissa) := by
  have hlt : x.toBits.toNat < 18446744073709551616 := x.toBits.toNat_lt
  have hsign (c : Bool) (n : Nat) (hc : c = (n == 1)) (hn : n < 2) :
      (if c then 9223372036854775808 else 0) = n * 9223372036854775808 := by
    subst hc
    obtain rfl | rfl : n = 0 ∨ n = 1 := by omega
    all_goals rfl
  have h52 : twoTo 52 = 4503599627370496 := rfl
  have h53 : twoTo 53 = 9007199254740992 := rfl
  have h63 : twoTo 63 = 9223372036854775808 := rfl
  have h11 : twoTo 11 = 2048 := rfl
  have hinfinite : infiniteBits = 9218868437227405312 := rfl
  unfold read at hread
  generalize x.toBits.toNat = bits at *
  simp only [h52, h63, h11] at hread
  split at hread
  case isTrue =>
    split at hread
    all_goals cases hread
  case isFalse hfinite =>
    split at hread
    case isTrue hleast =>
      cases hread
      refine ⟨0, ⟨rfl, ?_, .inl rfl, ?_, ?_⟩, ?_⟩
      · rw [h53]
        simp only
        omega
      · simp
      · rw [h52, hinfinite]
        simp only
        omega
      · rw [h63, hsign _ _ rfl (by omega)]
        simp only
        omega
    case isFalse hnormal =>
      cases hread
      refine ⟨bits / 4503599627370496 % 2048 - 1, ⟨?_, ?_, ?_, ?_, ?_⟩, ?_⟩
      · simp only
        omega
      · rw [h53]
        simp only
        omega
      · rw [h52]
        simp only
        omega
      · rw [h52]
        simp only [Bool.and_eq_true, beq_iff_eq, decide_eq_true_eq]
        omega
      · rw [h52, hinfinite]
        simp only
        omega
      · rw [h52, h63, hsign _ _ rfl (by omega)]
        simp only
        omega

/-! ## The decimals around a number -/

section Around

variable {b : Binary} {shift : Nat}

/-- The unit of the interval around a number, in which its denominator divides. -/
def Binary.unit (b : Binary) : Nat := twoTo (b.exponent - 2).toNat

theorem around_eq (b : Binary) : Interval.around b =
    { low := (4 * b.mantissa - if b.narrow then 1 else 2) * b.unit
      middle := 4 * b.mantissa * b.unit
      high := (4 * b.mantissa + 2) * b.unit
      den := twoTo (2 - b.exponent).toNat
      closed := b.mantissa % 2 == 0 } := by
  have hneg : -(b.exponent - 2) = 2 - b.exponent := by omega
  unfold Interval.around Binary.unit
  by_cases hexponent : 0 ≤ b.exponent - 2
  · have hzero : (2 - b.exponent).toNat = 0 := by omega
    simp only [if_pos hexponent, hzero]
    rfl
  · have hzero : (b.exponent - 2).toNat = 0 := by omega
    simp only [if_neg hexponent, hzero, hneg]
    rfl

theorem Binary.Shifted.unit (h : b.Shifted shift) :
    twoTo (2 - b.exponent).toNat * twoTo shift = b.unit * twoTo 1076 := by
  rw [Binary.unit, ← twoTo_add, ← twoTo_add]
  congr 1
  have hexponent := h.exponent
  omega

/-- Comparisons with the ends of the interval are comparisons in units of the exponent. -/
theorem Binary.Shifted.scale_lt (h : b.Shifted shift) (a c : Nat) :
    (a * b.unit < c * twoTo (2 - b.exponent).toNat ↔ a * twoTo shift < c * twoTo 1076) ∧
    (c * twoTo (2 - b.exponent).toNat < a * b.unit ↔ c * twoTo 1076 < a * twoTo shift) := by
  have hunit := h.unit
  have hden := twoTo_pos (2 - b.exponent).toNat
  have hscale := twoTo_pos 1076
  generalize twoTo (2 - b.exponent).toNat = den at *
  generalize twoTo 1076 = scale at *
  have hleft : a * b.unit * scale = a * twoTo shift * den := by
    rw [Nat.mul_assoc, ← hunit]
    ring
  have hright : c * den * scale = c * scale * den := by ring
  constructor
  · rw [← Nat.mul_lt_mul_right hscale, hleft, hright, Nat.mul_lt_mul_right hden]
  · rw [← Nat.mul_lt_mul_right hscale, hleft, hright, Nat.mul_lt_mul_right hden]

/-- What lies in the interval around a number, in units of its last place: no further than halfway
    to the next larger number, and to the next smaller one. -/
theorem Binary.Shifted.holds_iff (h : b.Shifted shift) (num den : Nat) :
    (Interval.around b).holds num den = true ↔
      (4 * b.mantissa - if b.narrow then 1 else 2) * (twoTo shift * den) ≤ 4 * (num * twoTo 1074) ∧
      4 * (num * twoTo 1074) ≤ (4 * b.mantissa + 2) * (twoTo shift * den) ∧
      (b.mantissa % 2 = 1 →
        (4 * b.mantissa - if b.narrow then 1 else 2) * (twoTo shift * den) < 4 * (num * twoTo 1074) ∧
        4 * (num * twoTo 1074) < (4 * b.mantissa + 2) * (twoTo shift * den)) := by
  have hfour : num * twoTo 1076 = 4 * (num * twoTo 1074) := by
    rw [show (1076 : Nat) = 1074 + 2 from rfl, twoTo_add, show twoTo 2 = 4 from rfl]
    ring
  have hside (a : Nat) : a * b.unit * den = a * den * b.unit := by ring
  have hplace (a : Nat) : a * den * twoTo shift = a * (twoTo shift * den) := by ring
  have hscale (a : Nat) := h.scale_lt (a * den) num
  simp only [hfour, hplace] at hscale
  rw [around_eq, Interval.holds]
  simp only [hside]
  by_cases hparity : b.mantissa % 2 = 0
  · have heven : ¬ b.mantissa % 2 = 1 := by omega
    simp only [hparity, beq_self_eq_true, if_true, Bool.and_eq_true, decide_eq_true_eq,
      ← Nat.not_lt, (hscale _).1, (hscale _).2]
    simp
  · have hodd : b.mantissa % 2 = 1 := by omega
    simp only [hodd, Nat.reduceBEq, Bool.false_eq_true, if_false, Bool.and_eq_true,
      decide_eq_true_eq, (hscale _).1, (hscale _).2, forall_const]
    exact ⟨fun ⟨hlow, hhigh⟩ => ⟨hlow.le, hhigh.le, hlow, hhigh⟩, fun hall => hall.2.2⟩

/-! ## Rounding to a number -/

/-- The exponent that a quotient is rounded at is the least one, or that of its leading place. -/
theorem shift_cases (scaled : Nat) {den : Nat} (hden : 0 < den) :
    scaled < twoTo 53 * (twoTo (Nat.log2 (scaled / den) - 52) * den) ∧
    (Nat.log2 (scaled / den) - 52 = 0 ∨
      twoTo 52 * (twoTo (Nat.log2 (scaled / den) - 52) * den) ≤ scaled) := by
  have hlt : scaled / den < twoTo (Nat.log2 (scaled / den) + 1) := Nat.lt_log2_self
  constructor
  · rw [← Nat.mul_assoc, ← twoTo_add, ← Nat.div_lt_iff_lt_mul hden]
    exact hlt.trans_le (twoTo_le (by omega))
  · by_cases hplace : Nat.log2 (scaled / den) ≤ 52
    · exact .inl (by omega)
    · refine .inr ?_
      have hne : scaled / den ≠ 0 := by
        intro hzero
        rw [hzero, Nat.log2_zero] at hplace
        omega
      have hshift : 52 + (Nat.log2 (scaled / den) - 52) = Nat.log2 (scaled / den) := by omega
      rw [← Nat.mul_assoc, ← twoTo_add, hshift, ← Nat.le_div_iff_mul_le hden]
      exact Nat.log2_self_le hne

theorem twoTo_succ_mul (n den : Nat) : twoTo (n + 1) * den = 2 * (twoTo n * den) := by
  rw [twoTo_add, show twoTo 1 = 2 from rfl]
  ring

/-- No decimal around a number comes out in the units of a larger exponent. -/
theorem Binary.Shifted.le_shift (h : b.Shifted shift) {k scaled den : Nat} (hden : 0 < den)
    (hhigh : 4 * scaled ≤ (4 * b.mantissa + 2) * (twoTo shift * den))
    (hplace : k = 0 ∨ twoTo 52 * (twoTo k * den) ≤ scaled) : k ≤ shift := by
  by_contra hlarger
  obtain ⟨j, rfl⟩ := Nat.exists_eq_add_of_lt (Nat.lt_of_not_le hlarger)
  have hu : 0 < twoTo shift * den := Nat.mul_pos (twoTo_pos shift) hden
  have hscaled := hplace.resolve_left (by omega)
  have hlarge : 1 * (twoTo shift * den) ≤ twoTo j * (twoTo shift * den) :=
    Nat.mul_le_mul_right _ (twoTo_pos j)
  have hunit : twoTo (shift + j + 1) * den = 2 * (twoTo j * (twoTo shift * den)) := by
    rw [twoTo_succ_mul, twoTo_add]
    ring
  have htop : (4 * b.mantissa + 2) * (twoTo shift * den) < 8 * twoTo 52 * (twoTo shift * den) := by
    have hmantissa := h.mantissa_lt
    have h53 : twoTo 53 = 2 * twoTo 52 := rfl
    exact Nat.mul_lt_mul_of_pos_right (by omega) hu
  have hleast : twoTo 52 * (2 * (1 * (twoTo shift * den))) ≤
      twoTo 52 * (2 * (twoTo j * (twoTo shift * den))) :=
    Nat.mul_le_mul_left _ (Nat.mul_le_mul_left _ hlarge)
  rw [hunit] at hscaled
  linarith

/-- Only the decimals just below a power of two come out in the units of a smaller exponent, and it
    is that of the next smaller number. -/
theorem Binary.Shifted.carried (h : b.Shifted shift) {k scaled den : Nat} (hden : 0 < den)
    (hlow : (4 * b.mantissa - if b.narrow then 1 else 2) * (twoTo shift * den) ≤ 4 * scaled)
    (hscaled : scaled < twoTo 53 * (twoTo k * den)) (hsmaller : k < shift) :
    shift = k + 1 ∧ b.mantissa = twoTo 52 ∧
      2 * twoTo 53 * (twoTo k * den) ≤ 2 * scaled + twoTo k * den := by
  obtain ⟨j, rfl⟩ := Nat.exists_eq_add_of_lt hsmaller
  have hv : 0 < twoTo k * den := Nat.mul_pos (twoTo_pos k) hden
  have h53 : twoTo 53 = 2 * twoTo 52 := rfl
  have h52 : 2 < twoTo 52 := by decide
  have hmantissa := h.mantissa_ge.resolve_left (by omega)
  have hunit : twoTo (k + j + 1) * den = 2 * twoTo j * (twoTo k * den) := by
    rw [twoTo_succ_mul, twoTo_add]
    ring
  rw [hunit] at hlow
  rw [h53] at hscaled
  have hsmall : (4 * b.mantissa - if b.narrow then 1 else 2) * twoTo j < 4 * twoTo 52 := by
    refine Nat.lt_of_mul_lt_mul_right (a := twoTo k * den) ?_
    linarith
  have hnext : j = 0 := by
    by_contra hj
    obtain ⟨i, rfl⟩ := Nat.exists_eq_add_one_of_ne_zero hj
    have htwo : 2 ≤ twoTo (i + 1) := by
      have hi := twoTo_pos i
      rw [twoTo_add, show twoTo 1 = 2 from rfl]
      omega
    have hwidth : 4 * b.mantissa ≤ (4 * b.mantissa - if b.narrow then 1 else 2) + 2 := by
      split <;> omega
    have hdouble := Nat.mul_le_mul_left (4 * b.mantissa - if b.narrow then 1 else 2) htwo
    omega
  subst hnext
  rw [show twoTo 0 = 1 from rfl, Nat.mul_one] at hsmall hlow
  have hpower : b.mantissa = twoTo 52 := by
    split at hsmall
    all_goals omega
  have hnarrow : b.narrow = true := h.narrow.mpr ⟨hpower, by omega⟩
  refine ⟨rfl, hpower, ?_⟩
  rw [hnarrow, if_pos rfl, hpower] at hlow
  have hfour : (4 * twoTo 52 - 1) * (2 * (twoTo k * den)) + 2 * (twoTo k * den) =
      4 * twoTo 52 * (2 * (twoTo k * den)) := by
    rw [← Nat.succ_mul]
    congr 1
  rw [h53]
  linarith

/-- A decimal in the interval around a number is nearest to that number. -/
theorem nearestBits_of_holds (h : b.Shifted shift) {num den : Nat} (hden : 0 < den)
    (hholds : (Interval.around b).holds num den = true) :
    nearestBits num den = shift * twoTo 52 + b.mantissa := by
  obtain ⟨hlow, hhigh, hodd⟩ := (h.holds_iff num den).mp hholds
  obtain ⟨hbelow, habove⟩ := shift_cases (num * twoTo 1074) hden
  have hbits (k q : Nat) (hk : Nat.log2 (num * twoTo 1074 / den) - 52 = k)
      (hround : roundHalfEven (num * twoTo 1074) (twoTo k * den) = q)
      (hq : k * twoTo 52 + q = shift * twoTo 52 + b.mantissa) :
      nearestBits num den = shift * twoTo 52 + b.mantissa := by
    rw [nearestBits, hk, Nat.mul_comm den, hround, hq]
    exact Nat.min_eq_left h.finite.le
  generalize hk : Nat.log2 (num * twoTo 1074 / den) - 52 = k at *
  generalize num * twoTo 1074 = scaled at *
  obtain hbefore | rfl := Nat.lt_or_eq_of_le (h.le_shift hden hhigh habove)
  · obtain ⟨rfl, hpower, hround⟩ := h.carried hden hlow hbelow hbefore
    have hv : 0 < twoTo k * den := Nat.mul_pos (twoTo_pos k) hden
    refine hbits k (twoTo 53) rfl (roundHalfEven_eq hv hround (by linarith) fun hodd => ?_) ?_
    · exact absurd hodd (by decide)
    · have h53 : twoTo 53 = 2 * twoTo 52 := rfl
      rw [hpower, h53]
      ring
  · have hu : 0 < twoTo k * den := Nat.mul_pos (twoTo_pos k) hden
    have hlowest : 4 * b.mantissa * (twoTo k * den) ≤
        (4 * b.mantissa - if b.narrow then 1 else 2) * (twoTo k * den) + 2 * (twoTo k * den) := by
      rw [← Nat.add_mul]
      exact Nat.mul_le_mul_right _ (by split <;> omega)
    refine hbits k b.mantissa rfl (roundHalfEven_eq hu (by linarith) (by linarith) ?_) rfl
    intro hparity
    obtain ⟨hlow, hhigh⟩ := hodd hparity
    exact ⟨by linarith, by linarith⟩

/-- The nearest number to a decimal in the interval around a number is that number. -/
theorem decimalBits_of_holds (h : b.Shifted shift) (hmantissa : 0 < b.mantissa) {digits : Nat}
    {power : Int} (hdigits : digits ≠ 0)
    (hholds : (Interval.around b).holds (digits * tenTo power.toNat) (tenTo (-power).toNat) = true) :
    decimalBits digits power = shift * twoTo 52 + b.mantissa := by
  obtain ⟨hlow, hhigh, -⟩ := (h.holds_iff _ _).mp hholds
  have hnotLarge : ¬ 309 < power := by
    intro hlarge
    have hden : (-power).toNat = 0 := by omega
    have hshift : shift ≤ 2046 := by
      have hfinite := h.finite
      rw [infiniteBits] at hfinite
      have hlt : shift * twoTo 52 < 2047 * twoTo 52 := by omega
      exact Nat.le_of_lt_succ (Nat.lt_of_mul_lt_mul_right hlt)
    have htop : (4 * b.mantissa + 2) * (twoTo shift * 1) ≤ twoTo 55 * twoTo 2046 := by
      have hlt := h.mantissa_lt
      have h55 : twoTo 55 = 4 * twoTo 53 := rfl
      rw [Nat.mul_one]
      exact Nat.mul_le_mul (by omega) (twoTo_le hshift)
    have hpower : 1 * tenTo 310 ≤ digits * tenTo power.toNat :=
      Nat.mul_le_mul (by omega) (tenTo_le (by omega))
    have hbig : twoTo 55 * twoTo 2046 < 4 * (1 * tenTo 310 * twoTo 1074) := by decide +kernel
    have hscaled := Nat.mul_le_mul_left 4 (Nat.mul_le_mul_right (twoTo 1074) hpower)
    rw [hden] at hhigh
    exact absurd (hhigh.trans htop) (Nat.not_le.mpr (hbig.trans_le hscaled))
  have hnotSmall : ¬ power < -(digits.log2 + 400) := by
    intro hsmall
    have hnum : power.toNat = 0 := by omega
    have hone : 1 * (1 * tenTo (-power).toNat) ≤
        (4 * b.mantissa - if b.narrow then 1 else 2) * (twoTo shift * tenTo (-power).toNat) :=
      Nat.mul_le_mul (by split <;> omega) (Nat.mul_le_mul_right _ (twoTo_pos shift))
    have hden : tenTo (digits.log2 + 400) ≤ tenTo (-power).toNat := tenTo_le (by omega)
    have hlog : digits < twoTo (digits.log2 + 1) := Nat.lt_log2_self
    have hpowers : twoTo digits.log2 ≤ tenTo digits.log2 := Nat.pow_le_pow_left (by decide) _
    have hbig : 8 * twoTo 1074 ≤ tenTo 400 := by decide +kernel
    have hproduct : twoTo digits.log2 * (8 * twoTo 1074) ≤ tenTo (digits.log2 + 400) := by
      rw [tenTo_add]
      exact Nat.mul_le_mul hpowers hbig
    have hscaled : digits * twoTo 1074 < twoTo (digits.log2 + 1) * twoTo 1074 :=
      Nat.mul_lt_mul_of_pos_right hlog (twoTo_pos _)
    rw [twoTo_add, show twoTo 1 = 2 from rfl] at hscaled
    rw [hnum, show tenTo 0 = 1 from rfl, Nat.mul_one] at hlow
    linarith
  rw [decimalBits, if_neg hdigits, if_neg hnotLarge, if_neg hnotSmall]
  exact nearestBits_of_holds h (tenTo_pos _) hholds

end Around

/-! ## Numbers by their bits -/

theorem ofMagnitude_of_toBits {x : Float} {negative : Bool} {bits : Nat}
    (hbits : x.toBits.toNat = (if negative then twoTo 63 else 0) + bits) :
    ofMagnitude negative bits = x := by
  rw [ofMagnitude, ← hbits, UInt64.ofNat_toNat, Float.ofBits_toBits]

/-- A number that stands for infinity is the infinite number of its sign. -/
theorem infinity_of_read {x : Float} {negative : Bool} (hread : read x = .infinite negative) :
    infinity negative = x := by
  have hlt : x.toBits.toNat < 18446744073709551616 := x.toBits.toNat_lt
  refine ofMagnitude_of_toBits ?_
  have h52 : twoTo 52 = 4503599627370496 := rfl
  have h63 : twoTo 63 = 9223372036854775808 := rfl
  have h11 : twoTo 11 = 2048 := rfl
  have hinfinite : infiniteBits = 9218868437227405312 := rfl
  unfold read at hread
  generalize x.toBits.toNat = bits at *
  simp only [h52, h63, h11] at hread
  rw [h63, hinfinite]
  split at hread
  case isTrue hlast =>
    split at hread
    case isTrue hzero =>
      cases hread
      obtain hsign | hsign : bits / 9223372036854775808 = 0 ∨ bits / 9223372036854775808 = 1 := by
        omega
      all_goals
        rw [hsign]
        simp only [Nat.reduceBEq, Bool.false_eq_true, if_false, if_true]
        omega
    case isFalse => cases hread
  case isFalse =>
    split at hread
    all_goals cases hread

open Float.Model Float.Model.UnpackedFloat in
/-- There is one number that stands for no number. -/
theorem notNumber_of_read {x : Float} (hread : read x = .undefined) : notNumber = x := by
  have hexponent : (@unpackExponent .binary64 x.toBits.toBitVec).toNat =
      x.toBits.toNat / twoTo 52 % twoTo 11 := by
    rw [unpackExponent_def, BitVec.extractLsb'_toNat, Nat.shiftRight_eq_div_pow]
    rfl
  have hmantissa : (@unpackMantissa .binary64 x.toBits.toBitVec).toNat =
      x.toBits.toNat % twoTo 52 := by
    rw [unpackMantissa_def, BitVec.extractLsb'_toNat, Nat.shiftRight_zero]
    rfl
  have hbits : x.toBits.toBitVec = packedNaN .binary64 := by
    unfold read at hread
    simp only at hread
    split at hread
    case isTrue hlast =>
      split at hread
      case isTrue => cases hread
      case isFalse hfraction =>
        refine x.toModel.valid.eq_packedNaN ?_ ?_
        · exact BitVec.eq_of_toNat_eq (hexponent.trans hlast)
        · intro hzero
          exact hfraction (hmantissa.symm.trans (congrArg BitVec.toNat hzero))
    case isFalse =>
      split at hread
      all_goals cases hread
  have hnan : x.toBits = 0x7FF8000000000000 := UInt64.toBitVec_inj.mp hbits
  rw [notNumber, ← hnan, Float.ofBits_toBits]

end Launcher.Decimal
