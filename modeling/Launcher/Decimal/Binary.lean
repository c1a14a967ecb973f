-- SUMMARY: The exact value of a double-precision number, as a mantissa and a power of two.

/-!
# Double-precision numbers, exactly

A number is taken apart into its sign, a natural number and a power of two, so that its
decimal forms can be computed with natural numbers alone.
-/
namespace Launcher.Decimal

/-! ## Powers -/

/-- A power of two. -/
def twoTo (n : Nat) : Nat := Nat.pow 2 n

/-- A power of ten. -/
def tenTo (n : Nat) : Nat := Nat.pow 10 n

/-! ## Taking numbers apart -/

/-- The value `mantissa * 2 ^ exponent`, with a sign. `narrow` says that the next smaller
    number lies half as far away as the next larger one. -/
structure Binary where
  negative : Bool
  mantissa : Nat
  exponent : Int
  narrow : Bool

/-- What a double-precision number stands for. -/
inductive Reading where
  | finite (value : Binary)
  | infinite (negative : Bool)
  | undefined

/-- Take a number apart. -/
def read (x : Float) : Reading :=
  let bits : Nat := x.toBits.toNat
  let negative := bits / twoTo 63 == 1
  let field : Nat := bits / twoTo 52 % twoTo 11
  let fraction : Nat := bits % twoTo 52
  if field = 2047 then (if fraction = 0 then .infinite negative else .undefined)
  else if field = 0 then .finite ⟨negative, fraction, -1074, false⟩
  else .finite ⟨negative, fraction + twoTo 52, (field : Int) - 1075, fraction == 0 && field > 1⟩

/-- The value as a quotient of natural numbers. -/
def Binary.quotient (b : Binary) : Nat × Nat :=
  if 0 ≤ b.exponent then (b.mantissa * twoTo b.exponent.toNat, 1)
  else (b.mantissa, twoTo (-b.exponent).toNat)

/-- `num / den`, rounded to the nearest natural number, a half to the even one. -/
def roundHalfEven (num den : Nat) : Nat :=
  let q := num / den
  let r := num % den
  if 2 * r < den then q
  else if den < 2 * r then q + 1
  else q + q % 2

/-- How many places the leading digit of `num / den` stands before the decimal point:
    `10 ^ (p - 1) ≤ num / den < 10 ^ p`. The number bounds the leading zeros looked at. -/
def leadingPlace (num den : Nat) : Nat → Int
  | 0 => 0
  | n + 1 =>
    if den ≤ num then ((Nat.toDigits 10 (num / den)).length : Int)
    else leadingPlace (num * 10) den n - 1

/-- The decimal digits of a natural number. -/
def digits (n : Nat) : String := String.ofList (Nat.toDigits 10 n)

/-- Zeros in a row. -/
def zeros (n : Nat) : String := String.ofList (List.replicate n '0')

/-- A power of ten with its sign, in at least two digits. -/
def exponentText (e : Int) : String :=
  let d := digits e.natAbs
  (if e < 0 then "-" else "+") ++ (if d.length < 2 then "0" ++ d else d)

end Launcher.Decimal
