-- SUMMARY: The shortest decimal text that reads back as the same double-precision number.
import Launcher.Decimal.Binary

/-!
# Shortest decimal text

A number is written with the fewest digits that read back as the same number, and of
those with the digits nearest to it. The search looks, for one to seventeen digits, at
the two decimals of that length on either side of the number. It would end in all the digits
of the number.
-/
namespace Launcher.Decimal

/-- Digits and the place of the decimal point: the value is `0.digits * 10 ^ point`. -/
structure Digits where
  text : String
  point : Int

/-- The decimals that read back as a number: those between `low` and `high`, in units of
    `1 / den`; the ends count when `closed`. -/
structure Interval where
  low : Nat
  middle : Nat
  high : Nat
  den : Nat
  closed : Bool

/-- The decimals that read back as `b`. -/
def Interval.around (b : Binary) : Interval :=
  let e := b.exponent - 2
  let scale := if 0 ≤ e then twoTo e.toNat else 1
  { low := (4 * b.mantissa - if b.narrow then 1 else 2) * scale
    middle := 4 * b.mantissa * scale
    high := (4 * b.mantissa + 2) * scale
    den := if 0 ≤ e then 1 else twoTo (-e).toNat
    closed := b.mantissa % 2 == 0 }

/-- Does `num / den` lie in the interval? -/
def Interval.holds (i : Interval) (num den : Nat) : Bool :=
  let n := num * i.den
  if i.closed then i.low * den ≤ n && n ≤ i.high * den
  else i.low * den < n && n < i.high * den

/-- The best decimal with a last digit of weight `10 ^ k`, if one lies in the interval. -/
def Interval.onGrid (i : Interval) (k : Int) : Option Nat :=
  let up := if 0 ≤ k then tenTo k.toNat else 1
  let down := if 0 ≤ k then 1 else tenTo (-k).toNat
  -- the number, in units of the grid, is `num / den`
  let num := i.middle * down
  let den := i.den * up
  let d := num / den
  let below := i.holds (d * up) down
  let above := i.holds ((d + 1) * up) down
  match below, above with
  | true, true => some (roundHalfEven num den)
  | true, false => some d
  | false, true => some (d + 1)
  | false, false => none

/-- The digits of the shortest decimal, tried with `n` digits and more. -/
def Interval.search (i : Interval) (place : Int) : Nat → Nat → Digits
  | _, 0 =>
    let text := digits (i.middle * tenTo 1076 / i.den)
    ⟨text, (text.length : Int) - 1076⟩
  | n, fuel + 1 =>
    let k := place - n
    match i.onGrid k with
    | some d =>
      let text := digits d
      ⟨text, k + text.length⟩
    | none => i.search place (n + 1) fuel

/-- The shortest digits that read back as a number other than zero. -/
def Binary.shortest (b : Binary) : Digits :=
  let i := Interval.around b
  i.search (leadingPlace i.middle i.den 400) 1 17

/-- Digits with their final zeros dropped, one digit at least. -/
def Digits.trim (d : Digits) : Digits :=
  match (d.text.toList.reverse.dropWhile (· = '0')).reverse with
  | [] => { d with text := "0" }
  | text => { d with text := String.ofList text }

/-- Digits with their decimal point, a fraction always shown. -/
def Digits.positional (d : Digits) : String :=
  let n : Int := d.text.length
  if d.point ≤ 0 then "0." ++ zeros (-d.point).toNat ++ d.text
  else if n ≤ d.point then d.text ++ zeros (d.point - n).toNat ++ ".0"
  else
    String.ofList (d.text.toList.take d.point.toNat) ++ "." ++
      String.ofList (d.text.toList.drop d.point.toNat)

/-- Digits with one before the point, and a power of ten. Nothing but the first digit shows
    no point, unless it is asked for. -/
def Digits.scientific (d : Digits) (point : Bool) : String :=
  let whole := String.ofList (d.text.toList.take 1)
  let rest := String.ofList (d.text.toList.drop 1)
  whole ++ (if rest = "" ∧ !point then "" else "." ++ rest) ++ "e" ++ exponentText (d.point - 1)

/-- The shortest text of a number: positional from `0.0001` up to sixteen places before
    the point, and with a power of ten outside. -/
def Binary.text (b : Binary) : String :=
  let sign := if b.negative then "-" else ""
  if b.mantissa = 0 then sign ++ "0.0"
  else
    let d := b.shortest.trim
    sign ++ if -4 < d.point ∧ d.point ≤ 16 then d.positional else d.scientific false

end Launcher.Decimal
