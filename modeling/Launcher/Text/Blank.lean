-- SUMMARY: The blank characters, and text without the blanks at its ends.

/-!
# Blank characters

The blank characters are the ASCII controls from tab to carriage return and from the file
separator to the unit separator, the next-line control, and every Unicode space, line and
paragraph separator.
-/
namespace Launcher.Text

/-- Is the character blank? -/
def isBlank (c : Char) : Bool :=
  let n := c.toNat
  (0x09 ≤ n && n ≤ 0x0D) || (0x1C ≤ n && n ≤ 0x20) || n == 0x85 || n == 0xA0 || n == 0x1680 ||
    (0x2000 ≤ n && n ≤ 0x200A) || n == 0x2028 || n == 0x2029 || n == 0x202F || n == 0x205F ||
    n == 0x3000

/-- `text` without the blanks at its two ends. -/
def trimBlanks (text : String) : String :=
  String.ofList ((text.toList.dropWhile isBlank).reverse.dropWhile isBlank).reverse

end Launcher.Text
