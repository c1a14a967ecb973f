-- SUMMARY: Decimal text with a given number of places or of digits.
import Launcher.Decimal.Shortest

/-!
# Decimal text with a given precision

The digits are those of the exact value, rounded once, a half to the even digit. A text in
full shows its decimal point even when nothing follows it, and keeps its final zeros.
-/
namespace Launcher.Decimal

/-- `n` with a decimal point before its last `places` digits. -/
def withPoint (n places : Nat) (full : Bool) : String :=
  let d := (digits n).toList
  let d := List.replicate (places + 1 - d.length) '0' ++ d
  let whole := String.ofList (d.take (d.length - places))
  if places = 0 then whole ++ (if full then "." else "")
  else whole ++ "." ++ String.ofList (d.drop (d.length - places))

/-- The magnitude of a number with a fixed number of places. -/
def Binary.fixed (b : Binary) (places : Nat) (full : Bool) : String :=
  let (num, den) := b.quotient
  withPoint (roundHalfEven (num * tenTo places) den) places full

/-- The first `count` digits of the magnitude of a number, rounded. -/
def Binary.leading (b : Binary) (count : Nat) : Digits :=
  let (num, den) := b.quotient
  if num = 0 then ⟨zeros count, 1⟩
  else
    let place := leadingPlace num den 400
    let k := place - count
    let d := if 0 ≤ k then roundHalfEven num (den * tenTo k.toNat)
      else roundHalfEven (num * tenTo (-k).toNat) den
    let text := digits d
    ⟨String.ofList (text.toList.take count), place + ((text.length : Int) - count)⟩

/-- The magnitude of a number with one digit before the point, `places` after it, and a
    power of ten. -/
def Binary.scientific (b : Binary) (places : Nat) (full : Bool) : String :=
  (b.leading (places + 1)).scientific full

/-- The magnitude of a number in `count` digits, positional where the power of ten lies
    between `-4` and `count`. Final zeros are dropped unless it is shown in full. -/
def Binary.general (b : Binary) (count : Nat) (full : Bool) : String :=
  let count := max count 1
  let d := b.leading count
  let shown := if full then d else d.trim
  if -4 < d.point ∧ d.point ≤ count then
    let whole := shown.point - shown.text.length
    if 0 < shown.point ∧ 0 ≤ whole then
      shown.text ++ zeros whole.toNat ++ (if full then "." else "")
    else shown.positional
  else shown.scientific full

end Launcher.Decimal
