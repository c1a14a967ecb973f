-- SUMMARY: What the manual says of the methods of numbers.
import Launcher.Object.Manual.Entry

/-!
# Methods of numbers

The entries of whole numbers and of fractions.
-/
namespace Launcher.Manual

/-- The entries of whole numbers. -/
def ofWholeNumbers : List Entry := [
  ⟨"conjugate", none, some ["Returns self, the complex conjugate of any int."]⟩,
  ⟨"bit_length", some "($self, /)", some [
    "Number of bits necessary to represent self in binary.",
    "",
    ">>> bin(37)",
    "'0b100101'",
    ">>> (37).bit_length()",
    "6"]⟩,
  ⟨"bit_count", some "($self, /)", some [
    "Number of ones in the binary representation of the absolute value of self.",
    "",
    "Also known as the population count.",
    "",
    ">>> bin(13)",
    "'0b1101'",
    ">>> (13).bit_count()",
    "3"]⟩,
  ⟨"to_bytes", some "($self, /, length=1, byteorder='big', *, signed=False)", some [
    "Return an array of bytes representing an integer.",
    "",
    "  length",
    "    Length of bytes object to use.  An OverflowError is raised if the",
    "    integer is not representable with the given number of bytes.  Default",
    "    is length 1.",
    "  byteorder",
    "    The byte order used to represent the integer.  If byteorder is 'big',",
    "    the most significant byte is at the beginning of the byte array.  If",
    "    byteorder is 'little', the most significant byte is at the end of the",
    "    byte array.  To request the native byte order of the host system, use",
    "    `sys.byteorder' as the byte order value.  Default is to use 'big'.",
    "  signed",
    "    Determines whether two's complement is used to represent the integer.",
    "    If signed is False and a negative integer is given, an OverflowError",
    "    is raised."]⟩,
  ⟨"from_bytes", some "($type, /, bytes, byteorder='big', *, signed=False)", some [
    "Return the integer represented by the given array of bytes.",
    "",
    "  bytes",
    "    Holds the array of bytes to convert.  The argument must either",
    "    support the buffer protocol or be an iterable object producing bytes.",
    "    Bytes and bytearray are examples of built-in objects that support the",
    "    buffer protocol.",
    "  byteorder",
    "    The byte order used to represent the integer.  If byteorder is 'big',",
    "    the most significant byte is at the beginning of the byte array.  If",
    "    byteorder is 'little', the most significant byte is at the end of the",
    "    byte array.  To request the native byte order of the host system, use",
    "    `sys.byteorder' as the byte order value.  Default is to use 'big'.",
    "  signed",
    "    Indicates whether two's complement is used to represent the integer."]⟩,
  ⟨"as_integer_ratio", some "($self, /)", some [
    "Return integer ratio.",
    "",
    "Return a pair of integers, whose ratio is exactly equal to the original int",
    "and with a positive denominator.",
    "",
    ">>> (10).as_integer_ratio()",
    "(10, 1)",
    ">>> (-10).as_integer_ratio()",
    "(-10, 1)",
    ">>> (0).as_integer_ratio()",
    "(0, 1)"]⟩,
  ⟨"__trunc__", none, some ["Truncating an Integral returns itself."]⟩,
  ⟨"__floor__", none, some ["Flooring an Integral returns itself."]⟩,
  ⟨"__ceil__", none, some ["Ceiling of an Integral returns itself."]⟩,
  ⟨"__round__", some "($self, ndigits=<unrepresentable>, /)", some [
    "Rounding an Integral returns itself.",
    "",
    "Rounding with an ndigits argument also returns an integer."]⟩,
  ⟨"__getnewargs__", some "($self, /)", none⟩,
  ⟨"__format__", some "($self, format_spec, /)", none⟩,
  ⟨"__sizeof__", some "($self, /)", some ["Returns size in memory, in bytes."]⟩,
  ⟨"real", none, some ["the real part of a complex number"]⟩,
  ⟨"imag", none, some ["the imaginary part of a complex number"]⟩,
  ⟨"numerator", none, some ["the numerator of a rational number in lowest terms"]⟩,
  ⟨"denominator", none, some ["the denominator of a rational number in lowest terms"]⟩]

/-- The entries of fractions. -/
def ofFractions : List Entry := [
  ⟨"conjugate", some "($self, /)", some ["Return self, the complex conjugate of any float."]⟩,
  ⟨"__trunc__", some "($self, /)", some ["Return the Integral closest to x between 0 and x."]⟩,
  ⟨"__floor__", some "($self, /)", some ["Return the floor as an Integral."]⟩,
  ⟨"__ceil__", some "($self, /)", some ["Return the ceiling as an Integral."]⟩,
  ⟨"__round__", some "($self, ndigits=None, /)", some [
    "Return the Integral closest to x, rounding half toward even.",
    "",
    "When an argument is passed, work like built-in round(x, ndigits)."]⟩,
  ⟨"as_integer_ratio", some "($self, /)", some [
    "Return integer ratio.",
    "",
    "Return a pair of integers, whose ratio is exactly equal to the original float",
    "and with a positive denominator.",
    "",
    "Raise OverflowError on infinities and a ValueError on NaNs.",
    "",
    ">>> (10.0).as_integer_ratio()",
    "(10, 1)",
    ">>> (0.0).as_integer_ratio()",
    "(0, 1)",
    ">>> (-.25).as_integer_ratio()",
    "(-1, 4)"]⟩,
  ⟨"fromhex", some "($type, string, /)", some [
    "Create a floating-point number from a hexadecimal string.",
    "",
    ">>> float.fromhex('0x1.ffffp10')",
    "2047.984375",
    ">>> float.fromhex('-0x1p-1074')",
    "-5e-324"]⟩,
  ⟨"hex", some "($self, /)", some [
    "Return a hexadecimal representation of a floating-point number.",
    "",
    ">>> (-0.1).hex()",
    "'-0x1.999999999999ap-4'",
    ">>> 3.14159.hex()",
    "'0x1.921f9f01b866ep+1'"]⟩,
  ⟨"is_integer", some "($self, /)", some ["Return True if the float is an integer."]⟩,
  ⟨"__getnewargs__", some "($self, /)", none⟩,
  ⟨"__format__", some "($self, format_spec, /)", some [
    "Formats the float according to format_spec."]⟩,
  ⟨"real", none, some ["the real part of a complex number"]⟩,
  ⟨"imag", none, some ["the imaginary part of a complex number"]⟩,
  ⟨"__getformat__", some "($type, typestr, /)", none⟩]

end Launcher.Manual
