-- SUMMARY: What the manual says of the operations that types share.
import Launcher.Object.Manual.Entry

/-!
# Operations

An operation has the same entry whatever type it belongs to.
-/
namespace Launcher.Manual

/-- The entries of the operations. -/
def ofOperations : List Entry := [
  ⟨"__abs__", some "($self, /)", some ["abs(self)"]⟩,
  ⟨"__add__", some "($self, value, /)", some ["Return self+value."]⟩,
  ⟨"__and__", some "($self, value, /)", some ["Return self&value."]⟩,
  ⟨"__bool__", some "($self, /)", some ["True if self else False"]⟩,
  ⟨"__call__", some "($self, /, *args, **kwargs)", some ["Call self as a function."]⟩,
  ⟨"__contains__", some "($self, key, /)", some ["Return key in self."]⟩,
  ⟨"__delattr__", some "($self, name, /)", some ["Implement delattr(self, name)."]⟩,
  ⟨"__delete__", some "($self, instance, /)", some ["Delete an attribute of instance."]⟩,
  ⟨"__delitem__", some "($self, key, /)", some ["Delete self[key]."]⟩,
  ⟨"__divmod__", some "($self, value, /)", some ["Return divmod(self, value)."]⟩,
  ⟨"__eq__", some "($self, value, /)", some ["Return self==value."]⟩,
  ⟨"__float__", some "($self, /)", some ["float(self)"]⟩,
  ⟨"__floordiv__", some "($self, value, /)", some ["Return self//value."]⟩,
  ⟨"__ge__", some "($self, value, /)", some ["Return self>=value."]⟩,
  ⟨"__get__", some "($self, instance, owner=None, /)", some [
    "Return an attribute of instance, which is of type owner."]⟩,
  ⟨"__getattribute__", some "($self, name, /)", some ["Return getattr(self, name)."]⟩,
  ⟨"__getitem__", some "($self, key, /)", some ["Return self[key]."]⟩,
  ⟨"__gt__", some "($self, value, /)", some ["Return self>value."]⟩,
  ⟨"__hash__", some "($self, /)", some ["Return hash(self)."]⟩,
  ⟨"__iadd__", some "($self, value, /)", some ["Implement self+=value."]⟩,
  ⟨"__imul__", some "($self, value, /)", some ["Implement self*=value."]⟩,
  ⟨"__index__", some "($self, /)", some [
    "Return self converted to an integer, if self is suitable for use as an index into a list."]⟩,
  ⟨"__init__", some "($self, /, *args, **kwargs)", some [
    "Initialize self.  See help(type(self)) for accurate signature."]⟩,
  ⟨"__int__", some "($self, /)", some ["int(self)"]⟩,
  ⟨"__invert__", some "($self, /)", some ["~self"]⟩,
  ⟨"__ior__", some "($self, value, /)", some ["Return self|=value."]⟩,
  ⟨"__iter__", some "($self, /)", some ["Implement iter(self)."]⟩,
  ⟨"__le__", some "($self, value, /)", some ["Return self<=value."]⟩,
  ⟨"__len__", some "($self, /)", some ["Return len(self)."]⟩,
  ⟨"__lshift__", some "($self, value, /)", some ["Return self<<value."]⟩,
  ⟨"__lt__", some "($self, value, /)", some ["Return self<value."]⟩,
  ⟨"__mod__", some "($self, value, /)", some ["Return self%value."]⟩,
  ⟨"__mul__", some "($self, value, /)", some ["Return self*value."]⟩,
  ⟨"__ne__", some "($self, value, /)", some ["Return self!=value."]⟩,
  ⟨"__neg__", some "($self, /)", some ["-self"]⟩,
  ⟨"__or__", some "($self, value, /)", some ["Return self|value."]⟩,
  ⟨"__pos__", some "($self, /)", some ["+self"]⟩,
  ⟨"__pow__", some "($self, value, mod=None, /)", some ["Return pow(self, value, mod)."]⟩,
  ⟨"__radd__", some "($self, value, /)", some ["Return value+self."]⟩,
  ⟨"__rand__", some "($self, value, /)", some ["Return value&self."]⟩,
  ⟨"__rdivmod__", some "($self, value, /)", some ["Return divmod(value, self)."]⟩,
  ⟨"__repr__", some "($self, /)", some ["Return repr(self)."]⟩,
  ⟨"__rfloordiv__", some "($self, value, /)", some ["Return value//self."]⟩,
  ⟨"__rlshift__", some "($self, value, /)", some ["Return value<<self."]⟩,
  ⟨"__rmod__", some "($self, value, /)", some ["Return value%self."]⟩,
  ⟨"__rmul__", some "($self, value, /)", some ["Return value*self."]⟩,
  ⟨"__ror__", some "($self, value, /)", some ["Return value|self."]⟩,
  ⟨"__rpow__", some "($self, value, mod=None, /)", some ["Return pow(value, self, mod)."]⟩,
  ⟨"__rrshift__", some "($self, value, /)", some ["Return value>>self."]⟩,
  ⟨"__rshift__", some "($self, value, /)", some ["Return self>>value."]⟩,
  ⟨"__rsub__", some "($self, value, /)", some ["Return value-self."]⟩,
  ⟨"__rtruediv__", some "($self, value, /)", some ["Return value/self."]⟩,
  ⟨"__rxor__", some "($self, value, /)", some ["Return value^self."]⟩,
  ⟨"__set__", some "($self, instance, value, /)", some ["Set an attribute of instance to value."]⟩,
  ⟨"__setattr__", some "($self, name, value, /)", some ["Implement setattr(self, name, value)."]⟩,
  ⟨"__setitem__", some "($self, key, value, /)", some ["Set self[key] to value."]⟩,
  ⟨"__str__", some "($self, /)", some ["Return str(self)."]⟩,
  ⟨"__sub__", some "($self, value, /)", some ["Return self-value."]⟩,
  ⟨"__truediv__", some "($self, value, /)", some ["Return self/value."]⟩,
  ⟨"__xor__", some "($self, value, /)", some ["Return self^value."]⟩,
  ⟨"__new__", some "($type, *args, **kwargs)", some [
    "Create and return a new object.  See help(type) for accurate signature."]⟩]

end Launcher.Manual
