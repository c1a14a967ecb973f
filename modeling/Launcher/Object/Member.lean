-- SUMMARY: What the values of each type have in common: operations, methods, data and constants.
import Launcher.Error
import Launcher.Text.Pieces

/-!
# Members of types

Every type comes with members that its values have without being given them. A member that
can be called is described by what becomes of a call without arguments, since the launcher
calls entry points in no other way. What a type does not have itself it takes from the
types above it.
-/
namespace Launcher

/-! ## Calls without arguments -/

/-- What becomes of a call without arguments. -/
inductive Reply where
  /-- It gives a plain value. -/
  | accepts
  /-- It calls the value that the member belongs to. -/
  | calls
  /-- It is refused with a text. -/
  | refuses (text : String)
  /-- It is refused with a text after the name of the member. -/
  | refusesNamed (text : String)
  /-- It is refused with a text after the name of the type and that of the member. -/
  | refusesQualified (text : String)
  /-- It is refused because values of the type cannot be stored. Records can. -/
  | refusesStoring
  deriving DecidableEq, Repr

/-- The text that a call is refused with. The subject stands in front of the names of its
    members, if it stands there at all. -/
def Reply.text? (type subject name : String) : Reply → Option String
  | accepts | calls => none
  | refuses text => some text
  | refusesNamed text => some (name ++ text)
  | refusesQualified text => some ((if subject = "" then "" else subject ++ ".") ++ name ++ text)
  | refusesStoring =>
    if type = "object" || type = "ModuleSpec" then none
    else some ("cannot pickle " ++ Text.quoted type ++ " object")

/-! ## Members -/

/-- How a datum belongs to its type. -/
inductive DatumKind where
  | computed
  | stored
  | property
  deriving DecidableEq, Repr

/-- A member of a type. -/
inductive Member where
  | operation (reply : Reply)
  | method (reply : Reply)
  /-- A routine that works on the type of a value. -/
  | shared (reply : Reply)
  /-- A routine that works on neither a value nor its type. -/
  | fixed (reply : Reply)
  /-- A function that is written out, with its parameters. -/
  | written (parameters : List String)
  /-- Something to be read off a value. -/
  | datum (kind : DatumKind)
  /-- The same for all values. -/
  | constant (v : Json)

/-- The members of a type, those of one kind together. Their names are written one after
    another, on as many lines as it takes. -/
abbrev Members := List (Member × List String)

namespace Members

/-- The member with a name. -/
def find? (ms : Members) (name : String) : Option Member :=
  (List.find? (fun (_, lines) => (lines.flatMap (Text.words " ")).contains name) ms).map Prod.fst

end Members

namespace Reply

/-- The reply of an operation on two values. -/
def lacksOperand : Reply := .refuses "expected 1 argument, got 0"

/-- The reply of an operation on a value and an index or a count. -/
def lacksCount : Reply := .refuses " expected 1 argument, got 0"

/-- The reply of an operation that may take a further argument. -/
def lacksSome : Reply := .refuses " expected at least 1 argument, got 0"

/-- The reply of an operation that sets something to a value. -/
def lacksTwo : Reply := .refuses " expected 2 arguments, got 0"

/-- The reply of a method with exactly one argument. -/
def lacksOne : Reply := .refusesQualified "() takes exactly one argument (0 given)"

/-- The reply of a method with a first argument and perhaps more. -/
def lacksFirst : Reply := .refusesNamed " expected at least 1 argument, got 0"

/-- The reply of what makes values of a type. -/
def lacksType : Reply := .refusesQualified "(): not enough arguments"

end Reply

/-! ## The members of each type -/

namespace Members

open Member Reply

/-- What all objects have. -/
def ofObject : Members := [
  (operation accepts, ["__repr__ __hash__ __str__ __init__"]),
  (operation lacksOperand, [
    "__getattribute__ __delattr__ __lt__ __le__ __eq__ __ne__ __gt__ __ge__"]),
  (operation lacksTwo, ["__setattr__"]),
  (method lacksOne, ["__reduce_ex__ __format__"]),
  (method refusesStoring, ["__reduce__"]),
  (method accepts, ["__getstate__ __sizeof__ __dir__"]),
  (shared accepts, ["__subclasshook__ __init_subclass__"]),
  (fixed lacksType, ["__new__"]),
  (datum .computed, ["__class__"])]

/-- What whole numbers have. -/
def ofInt : Members := [
  (operation accepts, [
    "__repr__ __hash__ __neg__ __pos__ __abs__ __bool__ __invert__ __int__ __float__",
    "__index__"]),
  (operation lacksOperand, [
    "__getattribute__ __lt__ __le__ __eq__ __ne__ __gt__ __ge__ __add__ __radd__ __sub__",
    "__rsub__ __mul__ __rmul__ __mod__ __rmod__ __divmod__ __rdivmod__ __lshift__",
    "__rlshift__ __rshift__ __rrshift__ __and__ __rand__ __xor__ __rxor__ __or__ __ror__",
    "__floordiv__ __rfloordiv__ __truediv__ __rtruediv__"]),
  (operation lacksSome, ["__pow__ __rpow__"]),
  (method accepts, [
    "conjugate bit_length bit_count to_bytes as_integer_ratio __trunc__ __floor__ __ceil__",
    "__round__ __getnewargs__ __sizeof__"]),
  (method lacksOne, ["__format__"]),
  (shared (refusesNamed "() missing required argument 'bytes' (pos 1)"), ["from_bytes"]),
  (fixed lacksType, ["__new__"]),
  (datum .computed, ["real imag numerator denominator"])]

/-- What truth values have besides. -/
def ofBool : Members := [
  (operation accepts, ["__repr__"]),
  (operation lacksOperand, ["__and__ __rand__ __xor__ __rxor__ __or__ __ror__"]),
  (fixed lacksType, ["__new__"])]

/-- What fractions have. -/
def ofFloat : Members := [
  (operation accepts, ["__repr__ __hash__ __neg__ __pos__ __abs__ __bool__ __int__ __float__"]),
  (operation lacksOperand, [
    "__getattribute__ __lt__ __le__ __eq__ __ne__ __gt__ __ge__ __add__ __radd__ __sub__",
    "__rsub__ __mul__ __rmul__ __mod__ __rmod__ __divmod__ __rdivmod__ __floordiv__",
    "__rfloordiv__ __truediv__ __rtruediv__"]),
  (operation lacksSome, ["__pow__ __rpow__"]),
  (method accepts, [
    "conjugate __trunc__ __floor__ __ceil__ __round__ as_integer_ratio hex is_integer",
    "__getnewargs__"]),
  (method lacksOne, ["__format__"]),
  (shared lacksOne, ["fromhex __getformat__"]),
  (fixed lacksType, ["__new__"]),
  (datum .computed, ["real imag"])]

/-- What texts have. -/
def ofText : Members := [
  (operation accepts, ["__repr__ __hash__ __str__ __iter__ __len__"]),
  (operation lacksOperand, [
    "__getattribute__ __lt__ __le__ __eq__ __ne__ __gt__ __ge__ __mod__ __rmod__",
    "__getitem__ __add__ __contains__"]),
  (operation lacksCount, ["__mul__ __rmul__"]),
  (method accepts, [
    "encode split rsplit capitalize casefold title expandtabs lower lstrip rstrip",
    "splitlines strip swapcase upper isascii islower isupper istitle isspace isdecimal",
    "isdigit isnumeric isalpha isalnum isidentifier isprintable format __sizeof__",
    "__getnewargs__"]),
  (method (refusesNamed " expected at least 2 arguments, got 0"), ["replace"]),
  (method lacksOne, [
    "join partition rpartition translate removeprefix removesuffix zfill format_map",
    "__format__"]),
  (method lacksFirst, ["center ljust rjust"]),
  (method (refusesNamed "() takes at least 1 argument (0 given)"), [
    "count find index rfind rindex startswith endswith"]),
  (fixed lacksType, ["__new__"]),
  (fixed lacksFirst, ["maketrans"])]

/-- What lists have. -/
def ofList : Members := [
  (operation accepts, ["__repr__ __iter__ __init__ __len__"]),
  (operation lacksOperand, [
    "__getattribute__ __lt__ __le__ __eq__ __ne__ __gt__ __ge__ __delitem__ __add__",
    "__contains__ __iadd__"]),
  (operation lacksTwo, ["__setitem__"]),
  (operation lacksCount, ["__mul__ __rmul__ __imul__"]),
  (method lacksOne, ["__getitem__ append extend remove count"]),
  (method accepts, ["__reversed__ __sizeof__ clear copy pop reverse sort"]),
  (method (refusesNamed " expected 2 arguments, got 0"), ["insert"]),
  (method lacksFirst, ["index"]),
  (shared lacksOne, ["__class_getitem__"]),
  (fixed lacksType, ["__new__"]),
  (constant .null, ["__hash__"])]

/-- What mappings have. -/
def ofMapping : Members := [
  (operation accepts, ["__repr__ __iter__ __init__ __len__"]),
  (operation lacksOperand, [
    "__getattribute__ __lt__ __le__ __eq__ __ne__ __gt__ __ge__ __or__ __ror__ __ior__",
    "__delitem__"]),
  (operation lacksTwo, ["__setitem__"]),
  (method lacksOne, ["__getitem__ __contains__"]),
  (method accepts, ["__sizeof__ popitem keys items values update clear copy __reversed__"]),
  (method lacksFirst, ["get setdefault pop"]),
  (shared lacksFirst, ["fromkeys"]),
  (shared lacksOne, ["__class_getitem__"]),
  (fixed lacksType, ["__new__"]),
  (constant .null, ["__hash__"])]

/-- What the null value has. -/
def ofNull : Members := [
  (operation accepts, ["__repr__ __bool__"]),
  (fixed lacksType, ["__new__"]),
  (constant .null, ["__doc__"])]

/-- What functions have. -/
def ofFunction : Members := [
  (operation accepts, ["__repr__"]),
  (operation calls, ["__call__"]),
  (operation lacksSome, ["__get__"]),
  (fixed lacksType, ["__new__"]),
  (datum .stored, ["__closure__ __doc__ __globals__ __module__ __builtins__"]),
  (datum .computed, [
    "__code__ __defaults__ __kwdefaults__ __annotations__ __dict__ __name__ __qualname__"])]

/-- What types have. -/
def ofType : Members := [
  (operation accepts, ["__repr__"]),
  (operation calls, ["__call__"]),
  (operation lacksOperand, ["__getattribute__ __delattr__ __or__ __ror__"]),
  (operation lacksTwo, ["__setattr__"]),
  (operation (refuses "type.__init__() takes 1 or 3 arguments"), ["__init__"]),
  (method accepts, ["mro __subclasses__ __dir__ __sizeof__"]),
  (method lacksOne, ["__instancecheck__ __subclasscheck__"]),
  (shared accepts, ["__prepare__"]),
  (fixed lacksType, ["__new__"]),
  (datum .stored, [
    "__basicsize__ __itemsize__ __flags__ __weakrefoffset__ __base__ __dictoffset__ __mro__"]),
  (datum .computed, [
    "__name__ __qualname__ __bases__ __module__ __abstractmethods__ __dict__ __doc__",
    "__text_signature__ __annotations__"])]

/-- What modules have. -/
def ofModule : Members := [
  (operation accepts, ["__repr__"]),
  (operation lacksOperand, ["__getattribute__ __delattr__"]),
  (operation lacksTwo, ["__setattr__"]),
  (operation (refuses "module() missing required argument 'name' (pos 1)"), ["__init__"]),
  (method accepts, ["__dir__"]),
  (fixed lacksType, ["__new__"]),
  (datum .stored, ["__dict__"]),
  (datum .computed, ["__annotations__"])]

/-- What methods of a value have. -/
def ofBoundMethod : Members := [
  (operation accepts, ["__repr__ __hash__"]),
  (operation calls, ["__call__"]),
  (operation lacksOperand, ["__getattribute__ __lt__ __le__ __eq__ __ne__ __gt__ __ge__"]),
  (method accepts, ["__reduce__"]),
  (datum .stored, ["__module__"]),
  (datum .computed, ["__doc__ __name__ __qualname__ __self__ __text_signature__"])]

/-- What operations of a value have. -/
def ofBoundOperation : Members := [
  (operation accepts, ["__repr__ __hash__"]),
  (operation calls, ["__call__"]),
  (operation lacksOperand, ["__getattribute__ __lt__ __le__ __eq__ __ne__ __gt__ __ge__"]),
  (method accepts, ["__reduce__"]),
  (datum .stored, ["__self__"]),
  (datum .computed, ["__objclass__ __name__ __qualname__ __doc__ __text_signature__"])]

/-- What methods of a type have. -/
def ofLooseMethod : Members := [
  (operation accepts, ["__repr__"]),
  (operation calls, ["__call__"]),
  (operation lacksOperand, ["__getattribute__"]),
  (operation lacksSome, ["__get__"]),
  (method accepts, ["__reduce__"]),
  (datum .stored, ["__objclass__ __name__"]),
  (datum .computed, ["__doc__ __qualname__ __text_signature__"])]

/-- What operations of a type have. -/
def ofLooseOperation : Members := [
  (operation accepts, ["__repr__"]),
  (operation calls, ["__call__"]),
  (operation lacksOperand, ["__getattribute__"]),
  (operation lacksSome, ["__get__"]),
  (method accepts, ["__reduce__"]),
  (datum .stored, ["__objclass__ __name__"]),
  (datum .computed, ["__doc__ __qualname__ __text_signature__"])]

/-- What the computed data of a type have. -/
def ofComputed : Members := [
  (operation accepts, ["__repr__"]),
  (operation lacksOperand, ["__getattribute__ __delete__"]),
  (operation lacksSome, ["__get__"]),
  (operation lacksTwo, ["__set__"]),
  (datum .stored, ["__objclass__ __name__"]),
  (datum .computed, ["__doc__ __qualname__"])]

/-- What the stored data of a type have. -/
def ofStored : Members := [
  (operation accepts, ["__repr__"]),
  (operation lacksOperand, ["__getattribute__ __delete__"]),
  (operation lacksSome, ["__get__"]),
  (operation lacksTwo, ["__set__"]),
  (method accepts, ["__reduce__"]),
  (datum .stored, ["__objclass__ __name__"]),
  (datum .computed, ["__doc__ __qualname__"])]

/-- What fixed lists have. -/
def ofTuple : Members := [
  (operation accepts, ["__repr__ __hash__ __iter__ __len__"]),
  (operation lacksOperand, [
    "__getattribute__ __lt__ __le__ __eq__ __ne__ __gt__ __ge__ __getitem__ __add__",
    "__contains__"]),
  (operation lacksCount, ["__mul__ __rmul__"]),
  (method accepts, ["__getnewargs__"]),
  (method lacksFirst, ["index"]),
  (method lacksOne, ["count"]),
  (shared lacksOne, ["__class_getitem__"]),
  (fixed lacksType, ["__new__"])]

/-- What mappings that cannot be changed have. -/
def ofProxy : Members := [
  (operation accepts, ["__repr__ __str__ __iter__ __len__"]),
  (operation lacksOperand, [
    "__getattribute__ __lt__ __le__ __eq__ __ne__ __gt__ __ge__ __or__ __ror__ __ior__",
    "__getitem__ __contains__"]),
  (method lacksFirst, ["get"]),
  (method accepts, ["keys values items copy __reversed__"]),
  (shared lacksOne, ["__class_getitem__"]),
  (fixed lacksType, ["__new__"]),
  (constant .null, ["__doc__ __hash__"])]

/-- What the code of a function has. -/
def ofCode : Members := [
  (operation accepts, ["__repr__ __hash__"]),
  (operation lacksOperand, ["__getattribute__ __lt__ __le__ __eq__ __ne__ __gt__ __ge__"]),
  (method accepts, ["__sizeof__ co_lines co_positions replace"]),
  (method (refusesNamed "() missing required argument 'oparg' (pos 1)"), ["_varname_from_oparg"]),
  (fixed lacksType, ["__new__"]),
  (datum .stored, [
    "co_argcount co_posonlyargcount co_kwonlyargcount co_stacksize co_flags co_nlocals",
    "co_consts co_names co_filename co_name co_qualname co_firstlineno co_linetable",
    "co_exceptiontable"]),
  (datum .computed, ["co_lnotab _co_code_adaptive co_varnames co_cellvars co_freevars co_code"])]

/-- What octets have. -/
def ofOctets : Members := [
  (operation accepts, ["__repr__ __hash__ __str__ __iter__ __len__"]),
  (operation lacksOperand, [
    "__getattribute__ __lt__ __le__ __eq__ __ne__ __gt__ __ge__ __mod__ __rmod__",
    "__getitem__ __add__ __contains__"]),
  (operation lacksCount, ["__mul__ __rmul__"]),
  (method accepts, [
    "__getnewargs__ __bytes__ capitalize decode expandtabs hex isalnum isalpha isascii",
    "isdigit islower isspace istitle isupper lower lstrip rsplit rstrip split splitlines",
    "strip swapcase title upper"]),
  (method lacksFirst, ["center ljust rjust"]),
  (method (refusesNamed "() takes at least 1 argument (0 given)"), [
    "count endswith find index rfind rindex startswith"]),
  (method lacksOne, ["join partition removeprefix removesuffix rpartition zfill"]),
  (method (refusesNamed " expected at least 2 arguments, got 0"), ["replace"]),
  (method (refusesNamed "() takes at least 1 positional argument (0 given)"), ["translate"]),
  (shared lacksOne, ["fromhex"]),
  (fixed lacksType, ["__new__"]),
  (fixed (refusesNamed " expected 2 arguments, got 0"), ["maketrans"])]

/-- What functions attached to an object have. -/
def ofAttached : Members := [
  (operation accepts, ["__repr__ __hash__"]),
  (operation calls, ["__call__"]),
  (operation lacksOperand, [
    "__getattribute__ __delattr__ __lt__ __le__ __eq__ __ne__ __gt__ __ge__"]),
  (operation lacksTwo, ["__setattr__"]),
  (method accepts, ["__reduce__"]),
  (fixed lacksType, ["__new__"]),
  (datum .stored, ["__func__ __self__"]),
  (datum .computed, ["__doc__"])]

/-- What properties have. -/
def ofProperty : Members := [
  (operation lacksOperand, ["__getattribute__ __delete__"]),
  (operation lacksSome, ["__get__"]),
  (operation lacksTwo, ["__set__"]),
  (operation accepts, ["__init__"]),
  (method lacksOne, ["getter setter deleter"]),
  (method (refusesNamed "() takes 2 positional arguments but 0 were given"), ["__set_name__"]),
  (fixed lacksType, ["__new__"]),
  (datum .stored, ["fget fset fdel __doc__"]),
  (datum .computed, ["__isabstractmethod__"])]

/-- The module of the records of where modules came from. -/
def moduleOfRecords : String := "_frozen_importlib"

/-- What the records of where modules came from have. -/
def ofSpecification : Members := [
  (written ["self", "name", "loader"], ["__init__"]),
  (written ["self"], ["__repr__"]),
  (written ["self", "other"], ["__eq__"]),
  (datum .property, ["cached parent has_location"]),
  (datum .computed, ["__dict__ __weakref__"]),
  (constant (.string moduleOfRecords), ["__module__"]),
  (constant .null, ["__hash__"])]

/-- The members that a type has itself. -/
def own : String → Members
  | "object" => ofObject
  | "int" => ofInt
  | "bool" => ofBool
  | "float" => ofFloat
  | "str" => ofText
  | "list" => ofList
  | "dict" => ofMapping
  | "NoneType" => ofNull
  | "function" => ofFunction
  | "type" => ofType
  | "module" => ofModule
  | "builtin_function_or_method" => ofBoundMethod
  | "method-wrapper" => ofBoundOperation
  | "method_descriptor" => ofLooseMethod
  | "wrapper_descriptor" => ofLooseOperation
  | "getset_descriptor" => ofComputed
  | "member_descriptor" => ofStored
  | "tuple" => ofTuple
  | "mappingproxy" => ofProxy
  | "code" => ofCode
  | "bytes" => ofOctets
  | "method" => ofAttached
  | "property" => ofProperty
  | "ModuleSpec" => ofSpecification
  | _ => []

/-- A type and the types above it, nearest first. -/
def ancestry : String → List String
  | "object" => ["object"]
  | "bool" => ["bool", "int", "object"]
  | type => [type, "object"]

/-- The member with a name that a type has, and the type that it is from. -/
def resolve? (type name : String) : Option (String × Member) :=
  (ancestry type).findSome? fun owner => ((own owner).find? name).map fun m => (owner, m)

end Members

end Launcher
