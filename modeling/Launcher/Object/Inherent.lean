-- SUMMARY: What objects say of themselves: the data that come with their types, and how routines are named.
import Launcher.Object.Basic
import Launcher.Object.Manual
import Launcher.Object.Summary

/-!
# Inherent data

Objects have data of themselves: a name, a type, what the manual says of them. Some of it an
application can replace; what a class always says of itself it cannot.
-/
namespace Launcher

/-- The part of a number under a name. -/
def Json.part? : Json → String → Option Json
  | .int n, "real" | .int n, "numerator" => some (.int n)
  | .bool b, "real" | .bool b, "numerator" => some (.int (if b then 1 else 0))
  | .int _, "imag" | .bool _, "imag" => some (.int 0)
  | .int _, "denominator" | .bool _, "denominator" => some (.int 1)
  | .float x, "real" => some (.float x)
  | .float _, "imag" => some (.float 0.0)
  | _, _ => none

namespace Object

/-- A text of the manual, or null. -/
def ofText? (t : Option String) : Object := plain ((t.map Json.string).getD .null)

/-! ## Types and classes -/

/-- The type above a type. -/
def baseOf (typeName : String) : Object :=
  match Members.ancestry typeName with
  | _ :: base :: _ => type base
  | _ => plain .null

/-- The sizes that a type or a class says it has. -/
def sizes? : Object → Option (Int × Int × Int × Int)
  | type name => Members.sizes? name
  | .class _ path body =>
    match (body.attributes.lookup "__slots__").map ClassBody.slotItems with
    | some (.ok _) =>
      let count := (body.slots (lastOf path)).length
      let references := body.allowsReferences
      some (16 + 8 * (count : Int) + (if references then 8 else 0), 0, 0, if references then 24 else 0)
    | _ => some (24, 0, -48, 16)
  | _ => none

/-- The size under a name. -/
def size? (o : Object) (name : String) : Option Object :=
  o.sizes?.bind fun (base, step, dictionary, reference) =>
    match name with
    | "__basicsize__" => some (plain (.int base))
    | "__itemsize__" => some (plain (.int step))
    | "__dictoffset__" => some (plain (.int dictionary))
    | "__weakrefoffset__" => some (plain (.int reference))
    | _ => none

/-- What a type or a class says of itself whatever it has been given. -/
def ofAnyType? (o : Object) : String → Option Object
  | "__class__" => some (type "type")
  | "__name__" => some (ofText? o.typeItself?)
  | "__qualname__" => some (text o.qualifiedTypeName)
  | "__bases__" | "__mro__" => some (other "tuple")
  | "__dict__" => some (other "mappingproxy")
  | "__flags__" => some (other "int")
  | name => o.size? name

/-- What a class says of itself unless it has been given something of that name. -/
def ofClass? (moduleName : String) : String → Option Object
  | "__module__" => some (text moduleName)
  | "__base__" => some (type "object")
  | "__doc__" | "__text_signature__" => some (plain .null)
  | "__annotations__" => some (plain (.object []))
  | _ => none

/-- The types that keep what the manual says of their values where they would keep their own
    summary. -/
def describingTypes : List String :=
  ["builtin_function_or_method", "method-wrapper", "method_descriptor", "wrapper_descriptor",
    "getset_descriptor", "member_descriptor"]

/-- What a type of values says of itself. -/
def ofType? (typeName : String) : String → Option Object
  | "__module__" => some (text (if typeName = "ModuleSpec" then Members.moduleOfRecords else "builtins"))
  | "__base__" => some (baseOf typeName)
  | "__doc__" =>
    some (if typeName ∈ describingTypes then loose (.datum .computed) (type typeName) "__doc__"
      else ofText? (Members.summary? typeName))
  | "__text_signature__" => some (ofText? (Members.calling? typeName))
  | "__annotations__" => if typeName = "ModuleSpec" then some (plain (.object [])) else none
  | _ => none

/-! ## Functions and routines -/

/-- What a function says of itself. -/
def ofFunction? (moduleName qualifiedName : String) : String → Option Object
  | "__name__" => some (text (lastName qualifiedName))
  | "__qualname__" => some (text qualifiedName)
  | "__module__" => some (text moduleName)
  | "__doc__" | "__defaults__" | "__kwdefaults__" => some (plain .null)
  | "__annotations__" | "__dict__" => some (plain (.object []))
  | "__closure__" => some (other "tuple")
  | "__code__" => some (other "code")
  | "__globals__" | "__builtins__" => some (other "dict")
  | _ => none

/-- What the code of a function says of itself. A function of an application takes no
    arguments. -/
def ofCode : String → Object
  | "co_argcount" | "co_posonlyargcount" | "co_kwonlyargcount" => plain (.int 0)
  | "co_flags" | "co_stacksize" | "co_nlocals" | "co_firstlineno" => other "int"
  | "co_filename" | "co_name" | "co_qualname" => other "str"
  | "co_consts" | "co_names" | "co_varnames" | "co_cellvars" | "co_freevars" => other "tuple"
  | _ => other "bytes"

/-- What stands in front of the name of a method of an object. -/
def qualifier : Object → String
  | .module _ => ""
  | o => o.qualifiedTypeName

/-- The name of a routine together with what it belongs to. -/
def qualifiedRoutineName (kind : RoutineKind) (owner name : String) (subject : Object) : String :=
  let before := match kind with
    | .operation => owner
    | .method => subject.qualifier
  if before = "" then name else before ++ "." ++ name

/-- Is the routine one that is the same for all values of its type? Then it has no subject. -/
def isFree (owner name : String) : Bool :=
  match (Members.own owner).find? name with
  | some (.fixed _) => name ≠ "__new__"
  | _ => false

/-- What a routine says of itself. -/
def ofRoutine? (kind : RoutineKind) (owner name : String) (subject : Object) : String → Option Object
  | "__name__" => some (text name)
  | "__qualname__" => some (text (qualifiedRoutineName kind owner name subject))
  | "__self__" => some (if isFree owner name then plain .null else subject)
  | "__objclass__" => some (type owner)
  | "__module__" => some (plain .null)
  | "__doc__" => some (ofText? (Manual.text? owner name))
  | "__text_signature__" => some (ofText? (Manual.arguments? owner name))
  | _ => none

/-- What the manual says of a loose member. -/
def onLoose? (owner : Object) (name : String) : Option Manual.Entry :=
  match owner with
  | type owner => Manual.onMember? owner name
  | .class .. =>
    if name = "__weakref__" then
      some ⟨name, none, some ["list of weak references to the object"]⟩
    else none
  | _ => none

/-- What a loose member says of itself. -/
def ofLoose? (owner : Object) (name : String) : String → Option Object
  | "__name__" => some (text name)
  | "__qualname__" => some (text (owner.qualifiedTypeName ++ "." ++ name))
  | "__objclass__" => some owner
  | "__doc__" => some (ofText? ((onLoose? owner name).bind Manual.Entry.text?))
  | "__text_signature__" => some (ofText? ((onLoose? owner name).bind Manual.Entry.arguments))
  | _ => none

/-- Can the property of a record be set? -/
def isWritable (name : String) : Bool := name = "cached" || name = "has_location"

/-- What a property of the records of modules says of itself. -/
def ofProperty? (owner : Object) (name : String) : String → Option Object
  | "fget" => some (written Members.moduleOfRecords (owner.qualifiedTypeName ++ "." ++ name) ["self"])
  | "fset" =>
    some (if isWritable name then
      written Members.moduleOfRecords (owner.qualifiedTypeName ++ "." ++ name) ["self", setting name]
    else plain .null)
  | "fdel" => some (plain .null)
  | "__doc__" =>
    some (if name = "parent" then text "The name of the module's parent." else plain .null)
  | "__isabstractmethod__" => some (plain (.bool false))
  | _ => none
where
  setting (name : String) : String := if name = "cached" then "cached" else "value"

/-! ## Data of objects -/

/-- What an object says of itself under the name of a datum of its type. Modules and their
    records are left out. -/
def datum? : Object → String → Option Object
  | o, "__class__" => some (type o.typeName)
  | value v _, name => (v.part? name).map plain
  | returning moduleName functionName _, name | making moduleName functionName _, name
  | written moduleName functionName _, name => ofFunction? moduleName functionName name
  | routine kind owner routineName subject, name => ofRoutine? kind owner routineName subject name
  | loose (.datum .property) owner memberName, name => ofProperty? owner memberName name
  | loose _ owner memberName, name => ofLoose? owner memberName name
  | attached function _, "__func__" => some function
  | attached _ subject, "__self__" => some subject
  | attached _ _, "__doc__" => some (plain .null)
  | other "code", name => some (ofCode name)
  | _, _ => none

/-- What comes with the type of an object under a name without being a member. -/
def typeSummary? (o : Object) (name : String) : Option Object :=
  if name = "__doc__" then (Members.summary? o.typeName).map text else none

/-! ## Members -/

/-- What a member is when it is looked up on an object of the type. -/
def bound (o : Object) (owner name : String) : Member → Object
  | .operation _ => routine .operation owner name o
  | .method _ => routine .method owner name o
  | .shared _ => routine .method owner name (type o.typeName)
  | .fixed _ => routine .method owner name (type owner)
  | .written parameters => attached (written Members.moduleOfRecords (owner ++ "." ++ name) parameters) o
  | .datum _ => (o.datum? name).getD (other "object")
  | .constant v => plain v

/-- What a member is when it is looked up on a type or a class. -/
def unbound (o : Object) (owner name : String) : Member → Object
  | .operation _ => loose .operation (type owner) name
  | .method _ => loose .method (type owner) name
  | .shared _ => routine .method owner name o
  | .fixed _ => routine .method owner name (type owner)
  | .written parameters => written Members.moduleOfRecords (owner ++ "." ++ name) parameters
  | .datum kind => loose (.datum kind) (type owner) name
  | .constant v => plain v

/-! ## Classes -/

/-- What a class has under a name. -/
def ofEntry (o : Object) (moduleName : String) (path : List String) (name : String) :
    ClassBody.Entry → Object
  | .attribute a =>
    let found := ofAttribute moduleName (path ++ [name]) a
    match a with
    | .returning _ | .making _ =>
      if name = "__init_subclass__" ∨ name = "__class_getitem__" then attached found o else found
    | _ => found
  | .routine parameters _ => written moduleName name parameters
  | .slot => loose (.datum .stored) o name

/-- What a class has been given under a name. -/
def given? (o : Object) (name : String) : Option Object :=
  match o with
  | .class moduleName path body =>
    match body.find? (lastOf path) name with
    | some entry => some (o.ofEntry moduleName path name entry)
    | none =>
      if name = "__weakref__" && body.allowsReferences then
        some (loose (.datum .computed) o "__weakref__")
      else none
  | _ => none

/-- What a class or a type says of itself: what always holds, or what it has been given, or
    what holds otherwise. -/
def typeDatum? (o : Object) (name : String) : Option Object :=
  o.ofAnyType? name <|>
    match o with
    | .class moduleName _ _ =>
      if name = "__base__" ∨ name = "__text_signature__" then ofClass? moduleName name
      else o.given? name <|> ofClass? moduleName name
    | type typeName => ofType? typeName name
    | _ => none

/-- The members that a class or a type has for its values. -/
def inheritedMember? (o : Object) (name : String) : Option Object :=
  let typeName := match o with
    | type typeName => typeName
    | _ => "object"
  (Members.resolve? typeName name).map fun (owner, m) => o.unbound owner name m

/-- The attribute of a class or a type. -/
def typeAttribute? (o : Object) (name : String) : Option Object :=
  match Members.resolve? "type" name with
  | some (_, .datum _) => o.typeDatum? name
  | found =>
    o.given? name <|> o.inheritedMember? name <|> found.map fun (owner, m) => o.bound owner name m

/-- The error of an attribute that a class or a type does not have. -/
def missingInType (typeName name : String) : Error :=
  if name = "__abstractmethods__" then .raised .missingAttribute name
  else .noAttribute (.class typeName) name

end Object

end Launcher
