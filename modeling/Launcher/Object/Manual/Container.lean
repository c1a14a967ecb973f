-- SUMMARY: What the manual says of the methods of lists and mappings.
import Launcher.Object.Manual.Entry

/-!
# Methods of lists and mappings

The entries of lists and mappings, and of those that cannot be changed.
-/
namespace Launcher.Manual

/-- The entries of lists. -/
def ofLists : List Entry := [
  ⟨"__getitem__", none, some ["x.__getitem__(y) <==> x[y]"]⟩,
  ⟨"__reversed__", some "($self, /)", some ["Return a reverse iterator over the list."]⟩,
  ⟨"__sizeof__", some "($self, /)", some ["Return the size of the list in memory, in bytes."]⟩,
  ⟨"clear", some "($self, /)", some ["Remove all items from list."]⟩,
  ⟨"copy", some "($self, /)", some ["Return a shallow copy of the list."]⟩,
  ⟨"append", some "($self, object, /)", some ["Append object to the end of the list."]⟩,
  ⟨"insert", some "($self, index, object, /)", some ["Insert object before index."]⟩,
  ⟨"extend", some "($self, iterable, /)", some [
    "Extend list by appending elements from the iterable."]⟩,
  ⟨"pop", some "($self, index=-1, /)", some [
    "Remove and return item at index (default last).",
    "",
    "Raises IndexError if list is empty or index is out of range."]⟩,
  ⟨"remove", some "($self, value, /)", some [
    "Remove first occurrence of value.",
    "",
    "Raises ValueError if the value is not present."]⟩,
  ⟨"index", some "($self, value, start=0, stop=sys.maxsize, /)", some [
    "Return first index of value.",
    "",
    "Raises ValueError if the value is not present."]⟩,
  ⟨"count", some "($self, value, /)", some ["Return number of occurrences of value."]⟩,
  ⟨"reverse", some "($self, /)", some ["Reverse *IN PLACE*."]⟩,
  ⟨"sort", some "($self, /, *, key=None, reverse=False)", some [
    "Sort the list in ascending order and return None.",
    "",
    "The sort is in-place (i.e. the list itself is modified) and stable (i.e. the",
    "order of two equal elements is maintained).",
    "",
    "If a key function is given, apply it once to each list item and sort them,",
    "ascending or descending, according to their function values.",
    "",
    "The reverse flag can be set to sort in descending order."]⟩,
  ⟨"__class_getitem__", none, some ["See PEP 585"]⟩]

/-- The entries of mappings. -/
def ofMappings : List Entry := [
  ⟨"__getitem__", none, some ["x.__getitem__(y) <==> x[y]"]⟩,
  ⟨"__contains__", some "($self, key, /)", some [
    "True if the dictionary has the specified key, else False."]⟩,
  ⟨"__sizeof__", none, some ["D.__sizeof__() -> size of D in memory, in bytes"]⟩,
  ⟨"get", some "($self, key, default=None, /)", some [
    "Return the value for key if key is in the dictionary, else default."]⟩,
  ⟨"setdefault", some "($self, key, default=None, /)", some [
    "Insert key with a value of default if key is not in the dictionary.",
    "",
    "Return the value for key if key is in the dictionary, else default."]⟩,
  ⟨"pop", some "($self, key, default=<unrepresentable>, /)", some [
    "D.pop(k[,d]) -> v, remove specified key and return the corresponding value.",
    "",
    "If the key is not found, return the default if given; otherwise,",
    "raise a KeyError."]⟩,
  ⟨"popitem", some "($self, /)", some [
    "Remove and return a (key, value) pair as a 2-tuple.",
    "",
    "Pairs are returned in LIFO (last-in, first-out) order.",
    "Raises KeyError if the dict is empty."]⟩,
  ⟨"keys", none, some ["D.keys() -> a set-like object providing a view on D's keys"]⟩,
  ⟨"items", none, some ["D.items() -> a set-like object providing a view on D's items"]⟩,
  ⟨"values", none, some ["D.values() -> an object providing a view on D's values"]⟩,
  ⟨"update", none, some [
    "D.update([E, ]**F) -> None.  Update D from dict/iterable E and F.",
    "If E is present and has a .keys() method, then does:  for k in E: D[k] = E[k]",
    "If E is present and lacks a .keys() method, then does:  for k, v in E: D[k] = v",
    "In either case, this is followed by: for k in F:  D[k] = F[k]"]⟩,
  ⟨"fromkeys", some "($type, iterable, value=None, /)", some [
    "Create a new dictionary with keys from iterable and values set to value."]⟩,
  ⟨"clear", none, some ["D.clear() -> None.  Remove all items from D."]⟩,
  ⟨"copy", none, some ["D.copy() -> a shallow copy of D"]⟩,
  ⟨"__reversed__", some "($self, /)", some ["Return a reverse iterator over the dict keys."]⟩,
  ⟨"__class_getitem__", none, some ["See PEP 585"]⟩]

/-- The entries of lists that cannot be changed. -/
def ofFixedLists : List Entry := [
  ⟨"__getnewargs__", some "($self, /)", none⟩,
  ⟨"index", some "($self, value, start=0, stop=sys.maxsize, /)", some [
    "Return first index of value.",
    "",
    "Raises ValueError if the value is not present."]⟩,
  ⟨"count", some "($self, value, /)", some ["Return number of occurrences of value."]⟩,
  ⟨"__class_getitem__", none, some ["See PEP 585"]⟩]

/-- The entries of mappings that cannot be changed. -/
def ofFixedMappings : List Entry := [
  ⟨"get", none, some ["D.get(k[,d]) -> D[k] if k in D, else d.  d defaults to None."]⟩,
  ⟨"keys", none, some ["D.keys() -> a set-like object providing a view on D's keys"]⟩,
  ⟨"values", none, some ["D.values() -> an object providing a view on D's values"]⟩,
  ⟨"items", none, some ["D.items() -> a set-like object providing a view on D's items"]⟩,
  ⟨"copy", none, some ["D.copy() -> a shallow copy of D"]⟩,
  ⟨"__class_getitem__", none, some ["See PEP 585"]⟩,
  ⟨"__reversed__", none, some ["D.__reversed__() -> reverse iterator"]⟩]

end Launcher.Manual
