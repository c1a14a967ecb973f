-- SUMMARY: Calls without arguments: which are refused, and what a value undergoes when one of its routines is called.
import Launcher.Json.Order
import Launcher.Object.Inherent
import Launcher.Sorting
import Launcher.Text.Placeholder

/-!
# Calls without arguments

An entry point is called without arguments. Most routines that come with values need some and
refuse the call. Others work on their value: they can change it, or fail by what it is.
-/
namespace Launcher

/-! ## What values undergo -/

namespace Json

/-- What a list undergoes: what it is afterwards, and the error that it comes to, if any. -/
def undergoAsList (items : List Json) : String → List Json × Option Error
  | "clear" | "__init__" => ([], none)
  | "pop" =>
    if items.isEmpty then ([], some (.raised .index "pop from empty list"))
    else (items.dropLast, none)
  | "reverse" => (items.reverse, none)
  | "sort" => Sorting.sort less items
  | _ => (items, none)

/-- The error of taking an entry from a mapping that has none. -/
def nothingToPop : Error := .raised .key "popitem(): dictionary is empty"

/-- What a mapping undergoes: what it is afterwards, and the error that it comes to, if any. -/
def undergoAsMapping (entries : List α) : String → List α × Option Error
  | "clear" => ([], none)
  | "popitem" => if entries.isEmpty then ([], some nothingToPop) else (entries.dropLast, none)
  | _ => (entries, none)

/-- The error of writing a whole number as a single octet, if it does not fit. -/
def octetError? (n : Int) : Option Error :=
  if n < 0 then some (.raised .overflow "can't convert negative int to unsigned")
  else if 255 < n then some (.raised .overflow "int too big to convert")
  else none

/-- The error of taking a whole number for a fraction. Half a unit above the greatest fraction
    is too much. -/
def fractionError? (n : Int) : Option Error :=
  if Decimal.twoTo 1024 - Decimal.twoTo 970 ≤ n.natAbs then
    some (.raised .overflow "int too large to convert to float")
  else none

/-- The error of taking a fraction for a whole number, or for a ratio of two. -/
def wholeError? (x : Float) (infinite undefined : String) : Option Error :=
  match Decimal.read x with
  | .finite _ => none
  | .infinite _ => some (.raised .overflow infinite)
  | .undefined => some (.raised .value undefined)

/-- The error that a routine of a value comes to, if any, when it changes nothing. -/
def routineError? : Json → String → Option Error
  | .int n, "to_bytes" => octetError? n
  | .int n, "__float__" => fractionError? n
  | .float x, "as_integer_ratio" =>
    wholeError? x "cannot convert Infinity to integer ratio" "cannot convert NaN to integer ratio"
  | .float x, name =>
    if ["__int__", "__trunc__", "__round__", "__floor__", "__ceil__"].contains name then
      wholeError? x "cannot convert float infinity to integer" "cannot convert float NaN to integer"
    else none
  | .string s, "format" => Text.unfilled? s.toList
  | _, _ => none

/-- What a value undergoes when a routine of it is called: what it is afterwards, and the error
    that it comes to, if any. -/
def undergo (v : Json) (routine : String) : Json × Option Error :=
  match v with
  | .array items =>
    let (items, e) := undergoAsList items routine
    (.array items, e)
  | .object fields =>
    let (fields, e) := undergoAsMapping fields routine
    (.object fields, e)
  | v => (v, v.routineError? routine)

end Json

/-! ## Refused calls -/

namespace Object

/-- The reply of a routine of a type. -/
def reply (owner name : String) : Reply :=
  match (Members.own owner).find? name with
  | some (.operation reply) | some (.method reply) | some (.shared reply) | some (.fixed reply) => reply
  | _ => .accepts

/-- The error of a routine that refuses a call, if it does. -/
def routineError? (kind : RoutineKind) (owner name : String) (subject : Object) : Option Error :=
  let before := match kind with
    | .operation => ""
    | .method => subject.qualifier
  ((reply owner name).text? subject.typeName before name).map (.raised .type)

/-- Names in quotes, as a message lists them. -/
def listed : List String → String
  | [] => ""
  | [a] => Text.quoted a
  | [a, b] => Text.quoted a ++ " and " ++ Text.quoted b
  | names => ", ".intercalate (names.dropLast.map Text.quoted) ++ ", and " ++ Text.quoted (lastOf names)

/-- The error of calling a function that is written out, if it has parameters. -/
def parametersError? (qualifiedName : String) (parameters : List String) : Option Error :=
  match parameters with
  | [] => none
  | names =>
    some (.raised .type (qualifiedName ++ "() missing " ++ toString names.length ++
      " required positional argument" ++ (if names.length = 1 then "" else "s") ++ ": " ++ listed names))

/-- Why a type of values makes no value when it is called, if it does not. -/
def typeError? (name : String) : Option Error :=
  match name with
  | "type" => some (.raised .type "type() takes 1 or 3 arguments")
  | "function" => some (.raised .type "function() missing required argument 'code' (pos 1)")
  | "module" => some (.raised .type "module() missing required argument 'name' (pos 1)")
  | "mappingproxy" => some (.raised .type "mappingproxy() missing required argument 'mapping' (pos 1)")
  | "code" => some (.raised .type "code expected at least 16 arguments, got 0")
  | "method" => some (.raised .type "method expected 2 arguments, got 0")
  | "ModuleSpec" => parametersError? "ModuleSpec.__init__" ["name", "loader"]
  | name =>
    if describingTypes.contains name then
      some (.raised .type ("cannot create " ++ Text.quoted name ++ " instances"))
    else none

/-- The error of calling a member of a type with nothing to work on. -/
def looseError (kind : LooseKind) (owner : Object) (name : String) : Error :=
  match kind with
  | .operation =>
    .raised .type ("descriptor " ++ Text.quoted name ++ " of " ++ Text.quoted owner.qualifiedTypeName ++
      " object needs an argument")
  | .method =>
    .raised .type ("unbound method " ++ owner.qualifiedTypeName ++ "." ++ name ++ "() needs an argument")
  | .datum _ => .notCallable kind.typeName

/-- The error of calling a function with an object as its only argument, if there is one. -/
def attachedError? : Object → Option Error
  | written _ qualifiedName parameters => parametersError? qualifiedName (parameters.drop 1)
  | function => some (function.misfit 1)

/-- The error of calling what is not an application's, if there is one. Values, modules and
    what belongs to them cannot be called. -/
def callError? : Object → Option Error
  | type name => typeError? name
  | routine kind owner name subject => routineError? kind owner name subject
  | loose kind owner name => some (looseError kind owner name)
  | written _ qualifiedName parameters => parametersError? qualifiedName parameters
  | attached function _ => function.attachedError?
  | .class .. | returning .. | making .. => none
  | o => some (.notCallable o.typeName)

end Object

end Launcher
