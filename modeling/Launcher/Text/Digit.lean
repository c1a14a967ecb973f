-- SUMMARY: The decimal digits of all scripts, and which texts write a whole number with them.
import Launcher.Text.Blank
import Launcher.Text.Pieces

/-!
# Decimal digits

Every script with decimal digits has ten of them in a row. A row is known by its zero.
The rows are those of Unicode 14. A whole number may have a sign, blanks around it, and
single low lines between its digits.
-/
namespace Launcher.Text

/-- The zeros of the rows of decimal digits, in ascending order. -/
def digitZeros : List Nat := [
  0x30, 0x660, 0x6F0, 0x7C0, 0x966, 0x9E6, 0xA66, 0xAE6, 0xB66, 0xBE6, 0xC66, 0xCE6, 0xD66,
  0xDE6, 0xE50, 0xED0, 0xF20, 0x1040, 0x1090, 0x17E0, 0x1810, 0x1946, 0x19D0, 0x1A80, 0x1A90,
  0x1B50, 0x1BB0, 0x1C40, 0x1C50, 0xA620, 0xA8D0, 0xA900, 0xA9D0, 0xA9F0, 0xAA50, 0xABF0, 0xFF10,
  0x104A0, 0x10D30, 0x11066, 0x110F0, 0x11136, 0x111D0, 0x112F0, 0x11450, 0x114D0, 0x11650,
  0x116C0, 0x11730, 0x118E0, 0x11950, 0x11C50, 0x11D50, 0x11DA0, 0x16A60, 0x16AC0, 0x16B50,
  0x1D7CE, 0x1D7D8, 0x1D7E2, 0x1D7EC, 0x1D7F6, 0x1E140, 0x1E2F0, 0x1E950, 0x1FBF0]

/-- Is the character a decimal digit, of whatever script? -/
def isDecimalDigit (c : Char) : Bool :=
  digitZeros.any fun first => first ≤ c.toNat && c.toNat < first + 10

/-- What a decimal digit stands for. -/
def digitValue (c : Char) : Nat :=
  match digitZeros.find? fun first => first ≤ c.toNat && c.toNat < first + 10 with
  | some first => c.toNat - first
  | none => 0

/-- The number that digits write. -/
def numberOf (digits : List Char) : Nat := digits.foldl (fun n c => 10 * n + digitValue c) 0

/-- The text without a sign in front. -/
def dropSign : List Char → List Char
  | '+' :: text | '-' :: text => text
  | text => text

/-- The groups of digits that a whole number is written with, if the text writes one. -/
def digitGroups (text : String) : List (List Char) := split ['_'] (dropSign (trimBlanks text).toList)

/-- Does the text write a whole number? -/
def isWhole (text : String) : Bool :=
  (digitGroups text).all fun group => !group.isEmpty && group.all isDecimalDigit

/-- How many digits a text begins with, after blanks and a sign. A low line that does not
    stand between digits makes them none. -/
def leadingDigits (text : String) : Nat :=
  let groups := split ['_'] ((dropSign (trimBlanks text).toList).takeWhile fun c =>
    isDecimalDigit c || c = '_')
  if groups.any List.isEmpty then 0 else groups.flatten.length

end Launcher.Text
