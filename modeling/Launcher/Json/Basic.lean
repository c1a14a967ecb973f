-- SUMMARY: JSON values, with whole numbers kept apart from fractions and fields kept in order.

/-!
# JSON values
-/
namespace Launcher

/-- A JSON value. A number written with a fraction or a power of ten is a `float`, any
    other number an `int`. The fields of an object keep the order in which they came. -/
inductive Json where
  | null
  | bool (b : Bool)
  | int (n : Int)
  | float (x : Float)
  | string (s : String)
  | array (items : List Json)
  | object (fields : List (String × Json))
  deriving Inhabited

namespace Json

/-- The value of a field of an object. -/
def field? (key : String) : Json → Option Json
  | .object fields => fields.lookup key
  | _ => none

/-- Is the value other than null, false, zero and empty? -/
def isSubstantial : Json → Bool
  | .null => false
  | .bool b => b
  | .int n => n ≠ 0
  | .float x => x != 0.0
  | .string s => s ≠ ""
  | .array items => !items.isEmpty
  | .object fields => !fields.isEmpty

/-- An array of texts. -/
def strings (items : List String) : Json := .array (items.map .string)

@[simp] theorem isSubstantial_null : isSubstantial .null = false := rfl
@[simp] theorem isSubstantial_bool (b : Bool) : isSubstantial (.bool b) = b := rfl

end Json

end Launcher
