-- SUMMARY: When JSON values are the same, and which of two comes first.
import Launcher.Error

/-!
# Order of values

Numbers and truth values are compared by what they are worth, exactly. Texts are compared by
code point, and lists by the first items in which they differ. Other values have no order.
-/
namespace Launcher.Json

/-! ## Numbers -/

/-- What a number is worth, if it is finite: a whole number over a positive one. -/
def worth? : Json → Option (Int × Nat)
  | .int n => some (n, 1)
  | .bool b => some (if b then 1 else 0, 1)
  | .float x =>
    match Decimal.read x with
    | .finite b =>
      let (num, den) := b.quotient
      some (if b.negative then -num else num, den)
    | _ => none
  | _ => none

/-- Is the value a number or a truth value? -/
def isNumber : Json → Bool
  | .int _ | .bool _ | .float _ => true
  | _ => false

/-- Is the value the infinite number with this sign? -/
def isInfinite (negative : Bool) : Json → Bool
  | .float x =>
    match Decimal.read x with
    | .infinite sign => sign == negative
    | _ => false
  | _ => false

/-- Is the value the number that is not equal to itself? -/
def isUndefined : Json → Bool
  | .float x =>
    match Decimal.read x with
    | .undefined => true
    | _ => false
  | _ => false

/-- Is one number less than another? -/
def lessNumber (a b : Json) : Bool :=
  match a.worth?, b.worth? with
  | some (n, d), some (m, e) => n * (e : Int) < m * (d : Int)
  | _, _ =>
    !a.isUndefined && !b.isUndefined &&
      ((a.isInfinite true && !b.isInfinite true) || (b.isInfinite false && !a.isInfinite false))

/-- Are two numbers worth the same? There is one undefined number, which is itself. -/
def sameNumber (a b : Json) : Bool :=
  match a.worth?, b.worth? with
  | some (n, d), some (m, e) => n * (e : Int) = m * (d : Int)
  | _, _ =>
    (a.isUndefined && b.isUndefined) || (a.isInfinite true && b.isInfinite true) ||
      (a.isInfinite false && b.isInfinite false)

/-! ## Values -/

mutual

/-- Are two values the same? Fields count in any order. -/
def same : Json → Json → Bool
  | .null, .null => true
  | .string s, .string t => s = t
  | .array vs, .array ws => sameItems vs ws
  | .object fs, .object gs => fs.length = gs.length && sameFields fs gs
  | a, b => a.isNumber && b.isNumber && sameNumber a b

/-- Are two lists of values the same? -/
def sameItems : List Json → List Json → Bool
  | [], [] => true
  | v :: vs, w :: ws => same v w && sameItems vs ws
  | _, _ => false

/-- Are all fields found among other fields? -/
def sameFields : List (String × Json) → List (String × Json) → Bool
  | [], _ => true
  | (k, v) :: fs, gs =>
    (match gs.lookup k with
      | some w => same v w
      | none => false) && sameFields fs gs

end

/-- The error of comparing two values that have no order. -/
def unordered (a b : Json) : Error := .unordered a.typeName b.typeName

mutual

/-- Does one value come before another? -/
def less : Json → Json → Except Error Bool
  | .string s, .string t => .ok (s < t)
  | .array vs, .array ws => lessItems vs ws
  | a, b => if a.isNumber && b.isNumber then .ok (lessNumber a b) else .error (unordered a b)

/-- Does one list of values come before another? -/
def lessItems : List Json → List Json → Except Error Bool
  | [], ws => .ok (!ws.isEmpty)
  | _ :: _, [] => .ok false
  | v :: vs, w :: ws => if same v w then lessItems vs ws else less v w

end

end Launcher.Json
