-- SUMMARY: The summaries that come with the types of values, and how types are called.

/-!
# Summaries of types

A type and its values have a summary under `__doc__`, the same for all of them. An
application that names it as its entry point gets this text.
-/
namespace Launcher.Members

/-- The summary that comes with a type. -/
def summary? : String → Option String
  | "object" => some ("\n".intercalate [
    "The base class of the class hierarchy.",
    "",
    "When called, it accepts no arguments and returns a new featureless",
    "instance that has no instance attributes and cannot be given any.",
    ""])
  | "int" => some ("\n".intercalate [
    "int([x]) -> integer",
    "int(x, base=10) -> integer",
    "",
    "Convert a number or string to an integer, or return 0 if no arguments",
    "are given.  If x is a number, return x.__int__().  For floating point",
    "numbers, this truncates towards zero.",
    "",
    "If x is not a number or if base is given, then x must be a string,",
    "bytes, or bytearray instance representing an integer literal in the",
    "given base.  The literal can be preceded by '+' or '-' and be surrounded",
    "by whitespace.  The base defaults to 10.  Valid bases are 0 and 2-36.",
    "Base 0 means to interpret the base from the string as an integer literal.",
    ">>> int('0b100', base=0)",
    "4"])
  | "bool" => some ("\n".intercalate [
    "bool(x) -> bool",
    "",
    "Returns True when the argument x is true, False otherwise.",
    "The builtins True and False are the only two instances of the class bool.",
    "The class bool is a subclass of the class int, and cannot be subclassed."])
  | "float" => some "Convert a string or number to a floating point number, if possible."
  | "str" => some ("\n".intercalate [
    "str(object='') -> str",
    "str(bytes_or_buffer[, encoding[, errors]]) -> str",
    "",
    "Create a new string object from the given object. If encoding or",
    "errors is specified, then the object must expose a data buffer",
    "that will be decoded using the given encoding and error handler.",
    "Otherwise, returns the result of object.__str__() (if defined)",
    "or repr(object).",
    "encoding defaults to sys.getdefaultencoding().",
    "errors defaults to 'strict'."])
  | "list" => some ("\n".intercalate [
    "Built-in mutable sequence.",
    "",
    "If no argument is given, the constructor creates a new empty list.",
    "The argument must be an iterable if specified."])
  | "dict" => some ("\n".intercalate [
    "dict() -> new empty dictionary",
    "dict(mapping) -> new dictionary initialized from a mapping object's",
    "    (key, value) pairs",
    "dict(iterable) -> new dictionary initialized as if via:",
    "    d = \x7b\x7d",
    "    for k, v in iterable:",
    "        d[k] = v",
    "dict(**kwargs) -> new dictionary initialized with the name=value pairs",
    "    in the keyword argument list.  For example:  dict(one=1, two=2)"])
  | "function" => some ("\n".intercalate [
    "Create a function object.",
    "",
    "  code",
    "    a code object",
    "  globals",
    "    the globals dictionary",
    "  name",
    "    a string that overrides the name from the code object",
    "  argdefs",
    "    a tuple that specifies the default argument values",
    "  closure",
    "    a tuple that supplies the bindings for free variables"])
  | "type" => some ("\n".intercalate [
    "type(object) -> the object's type",
    "type(name, bases, dict, **kwds) -> a new type"])
  | "module" => some ("\n".intercalate [
    "Create a module object.",
    "",
    "The name must be a string; the optional doc argument can have any type."])
  | "tuple" => some ("\n".intercalate [
    "Built-in immutable sequence.",
    "",
    "If no argument is given, the constructor returns an empty tuple.",
    "If iterable is specified the tuple is initialized from iterable's items.",
    "",
    "If the argument is a tuple, the return value is the same object."])
  | "code" => some "Create a code object.  Not for the faint of heart."
  | "method" => some "Create a bound instance method object."
  | _ => none

/-- How a type is called. -/
def calling? : String → Option String
  | "object" => some "()"
  | "float" => some "(x=0, /)"
  | "list" => some "(iterable=(), /)"
  | "function" => some "(code, globals, name=None, argdefs=None, closure=None)"
  | "module" => some "(name, doc=None)"
  | "tuple" => some "(iterable=(), /)"
  | "method" => some "(function, instance, /)"
  | "property" => some "(fget=None, fset=None, fdel=None, doc=None)"
  | _ => none

/-- The sizes that come with a type: of its values, of their items, and the places of the
    attributes and the references in them. -/
def sizes? : String → Option (Int × Int × Int × Int)
  | "object" => some (16, 0, 0, 0)
  | "int" => some (24, 4, 0, 0)
  | "bool" => some (32, 4, 0, 0)
  | "float" => some (24, 0, 0, 0)
  | "str" => some (80, 0, 0, 0)
  | "list" => some (40, 0, 0, 0)
  | "dict" => some (48, 0, 0, 0)
  | "NoneType" => some (16, 0, 0, 0)
  | "function" => some (136, 0, 88, 96)
  | "type" => some (904, 40, 264, 368)
  | "module" => some (56, 0, 16, 40)
  | "builtin_function_or_method" => some (56, 0, 0, 40)
  | "method-wrapper" => some (32, 0, 0, 0)
  | "method_descriptor" => some (56, 0, 0, 0)
  | "wrapper_descriptor" => some (56, 0, 0, 0)
  | "getset_descriptor" => some (48, 0, 0, 0)
  | "member_descriptor" => some (48, 0, 0, 0)
  | "tuple" => some (24, 8, 0, 0)
  | "mappingproxy" => some (24, 0, 0, 0)
  | "code" => some (184, 2, 0, 144)
  | "bytes" => some (33, 1, 0, 0)
  | "method" => some (48, 0, 0, 32)
  | "property" => some (64, 0, 0, 0)
  | "ModuleSpec" => some (24, 0, -48, 16)
  | _ => none

end Launcher.Members
