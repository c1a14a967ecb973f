-- SUMMARY: What the manual says of the members of objects, types, functions and modules.
import Launcher.Object.Manual.Entry

/-!
# Members of objects and types

The entries of what all objects have, and of types, functions, modules and their records.
-/
namespace Launcher.Manual

/-- The entries of all objects. -/
def ofObjects : List Entry := [
  ⟨"__reduce_ex__", some "($self, protocol, /)", some ["Helper for pickle."]⟩,
  ⟨"__reduce__", some "($self, /)", some ["Helper for pickle."]⟩,
  ⟨"__getstate__", some "($self, /)", some ["Helper for pickle."]⟩,
  ⟨"__subclasshook__", none, some [
    "Abstract classes can override this to customize issubclass().",
    "",
    "This is invoked early on by abc.ABCMeta.__subclasscheck__().",
    "It should return True, False or NotImplemented.  If it returns",
    "NotImplemented, the normal algorithm is used.  Otherwise, it",
    "overrides the normal algorithm (and the outcome is cached).",
    ""]⟩,
  ⟨"__init_subclass__", none, some [
    "This method is called when a class is subclassed.",
    "",
    "The default implementation does nothing. It may be",
    "overridden to extend subclasses.",
    ""]⟩,
  ⟨"__format__", some "($self, format_spec, /)", some ["Default object formatter."]⟩,
  ⟨"__sizeof__", some "($self, /)", some ["Size of object in memory, in bytes."]⟩,
  ⟨"__dir__", some "($self, /)", some ["Default dir() implementation."]⟩,
  ⟨"__class__", none, some ["the object's class"]⟩]

/-- The entries of types. -/
def ofTypes : List Entry := [
  ⟨"mro", some "($self, /)", some ["Return a type's method resolution order."]⟩,
  ⟨"__subclasses__", some "($self, /)", some ["Return a list of immediate subclasses."]⟩,
  ⟨"__prepare__", none, some [
    "__prepare__() -> dict",
    "used to create the namespace for the class statement"]⟩,
  ⟨"__instancecheck__", some "($self, instance, /)", some ["Check if an object is an instance."]⟩,
  ⟨"__subclasscheck__", some "($self, subclass, /)", some ["Check if a class is a subclass."]⟩,
  ⟨"__dir__", some "($self, /)", some ["Specialized __dir__ implementation for types."]⟩,
  ⟨"__sizeof__", some "($self, /)", some ["Return memory consumption of the type object."]⟩]

/-- The entries of functions. -/
def ofFunctions : List Entry := [
]

/-- The entries of modules. -/
def ofModules : List Entry := [
  ⟨"__dir__", none, some [
    "__dir__() -> list",
    "specialized dir() implementation"]⟩]

/-- The entries of code. -/
def ofCode : List Entry := [
  ⟨"replace", some "($self, /, **changes)", some [
    "Return a copy of the code object with new values for the specified fields."]⟩,
  ⟨"_varname_from_oparg", some "($self, /, oparg)", some [
    "(internal-only) Return the local variable name for the given oparg.",
    "",
    "WARNING: this method is for internal use only and may change or go away."]⟩]

/-- The entries of attached functions. -/
def ofAttached : List Entry := [
  ⟨"__reduce__", some "($self, /)", none⟩,
  ⟨"__func__", none, some ["the function (or other callable) implementing a method"]⟩,
  ⟨"__self__", none, some ["the instance to which a method is bound"]⟩]

/-- The entries of properties. -/
def ofProperties : List Entry := [
  ⟨"getter", none, some ["Descriptor to obtain a copy of the property with a different getter."]⟩,
  ⟨"setter", none, some ["Descriptor to obtain a copy of the property with a different setter."]⟩,
  ⟨"deleter", none, some ["Descriptor to obtain a copy of the property with a different deleter."]⟩,
  ⟨"__set_name__", none, some ["Method to set name of a property."]⟩]

/-- The entries of the records of modules. -/
def ofSpecifications : List Entry := [
  ⟨"parent", none, some ["The name of the module's parent."]⟩,
  ⟨"__dict__", none, some ["dictionary for instance variables"]⟩,
  ⟨"__weakref__", none, some ["list of weak references to the object"]⟩]

end Launcher.Manual
