-- SUMMARY: The objects that names in application code refer to, and the places of values.
import Launcher.Object.Class
import Launcher.Object.Member

/-!
# Objects

A name in a module or a class refers to an object: something that the module describes, a
loaded module, or something that objects have of themselves, such as their type and the
routines that work on them. A value that stands in a module comes with its place, since
some of its routines change it there.
-/
namespace Launcher

/-! ## Places -/

/-- Where a value stands. -/
inductive Place where
  /-- Under the name of an attribute of a module, or further down under names of classes. -/
  | attribute (moduleName : String) (path : List String)
  /-- Where the submodules of a module are looked for. -/
  | locations (moduleName : String)
  deriving DecidableEq, Repr

/-- What keeps its attributes in a mapping that can be changed. -/
inductive Keeper where
  | module (name : String)
  /-- The record of where a module came from. -/
  | specification (moduleName : String)
  deriving DecidableEq, Repr

/-! ## Objects -/

/-- How a routine belongs to its subject. -/
inductive RoutineKind where
  | method
  | operation
  deriving DecidableEq, Repr

/-- How a member belongs to its type when it is not looked up on a value. -/
inductive LooseKind where
  | method
  | operation
  | datum (kind : DatumKind)
  deriving DecidableEq, Repr

/-- What a name refers to. -/
inductive Object where
  | value (v : Json) (place : Option Place)
  /-- A class, by the names that lead to it from its module. -/
  | class (moduleName : String) (path : List String) (body : ClassBody)
  | returning (moduleName name : String) (v : Json)
  | making (moduleName name : String) (body : ClassBody)
  | module (name : String)
  /-- A type of values, by its name. -/
  | type (name : String)
  /-- A routine of a type, with what it works on. -/
  | routine (kind : RoutineKind) (owner name : String) (subject : Object)
  /-- A member of a type or a class, without anything to work on. -/
  | loose (kind : LooseKind) (owner : Object) (name : String)
  /-- A function that is written out, with its parameters. -/
  | written (moduleName qualifiedName : String) (parameters : List String)
  /-- A function together with its first argument. -/
  | attached (function subject : Object)
  /-- The record of where a module came from. -/
  | specification (moduleName : String)
  /-- The attributes of a keeper, as a mapping. -/
  | attributes (keeper : Keeper)
  /-- An object of which only the type is known. -/
  | other (type : String)

/-- The last of several names. -/
def lastOf (path : List String) : String := path.getLast?.getD ""

/-- The label that the code of a class or a function runs under. -/
def labelOf (moduleName name : String) : String := moduleName ++ ":" ++ name

/-- The last piece of a dotted name. -/
def lastName (name : String) : String :=
  match Text.beforeAfterLast '.' name with
  | some (_, last) => last
  | none => name

/-- The name of the type of the routines of a kind. -/
def RoutineKind.typeName : RoutineKind → String
  | .method => "builtin_function_or_method"
  | .operation => "method-wrapper"

/-- The name of the type of the loose members of a kind. -/
def LooseKind.typeName : LooseKind → String
  | .method => "method_descriptor"
  | .operation => "wrapper_descriptor"
  | .datum .computed => "getset_descriptor"
  | .datum .stored => "member_descriptor"
  | .datum .property => "property"

namespace Object

/-- The object of an attribute, by the names that lead to it from its module. -/
def ofAttribute (moduleName : String) (path : List String) : Attribute → Object
  | .value v => .value v (some (.attribute moduleName path))
  | .class body => .class moduleName path body
  | .returning v => .returning moduleName (lastOf path) v
  | .making body => .making moduleName (lastOf path) body

/-- A value that stands nowhere. -/
def plain (v : Json) : Object := .value v none

/-- A text that stands nowhere. -/
def text (s : String) : Object := plain (.string s)

/-- The name of the type of an object. -/
def typeName : Object → String
  | value v _ => v.typeName
  | .class .. | type _ => "type"
  | returning .. | making .. | written .. => "function"
  | .module _ => "module"
  | routine kind _ _ _ => kind.typeName
  | loose kind _ _ => kind.typeName
  | attached _ _ => "method"
  | specification _ => "ModuleSpec"
  | attributes _ => "dict"
  | other typeName => typeName

/-- Is the object a type or a class, and under which name? -/
def typeItself? : Object → Option String
  | .class _ path _ => some (lastOf path)
  | type name => some name
  | _ => none

/-- The name of a type or a class within what it is written in. -/
def qualifiedTypeName : Object → String
  | .class _ path body => body.qualifiedName (lastOf path)
  | type name => name
  | o => o.typeName

/-- Is the object other than null, false, zero and empty? -/
def isSubstantial : Object → Bool
  | value v _ => v.isSubstantial
  | _ => true

/-- The name of a function or of a routine. -/
def routineName? : Object → Option String
  | returning _ name _ | making _ name _ => some name
  | written _ name _ => some (lastName name)
  | routine _ _ name _ => some name
  | loose (.datum _) _ _ => none
  | loose _ _ name => some name
  | attached function _ => function.routineName?
  | _ => none

/-! ## Calls with arguments -/

/-- The error of calling an object with arguments. -/
def misfit (given : Nat) : Object → Error
  | .class _ path body => body.misfit (lastOf path) given
  | returning _ name _ | making _ name _ => .tooManyArguments name 0 given
  | o => .notCallable o.typeName

end Object

end Launcher
