-- SUMMARY: Cutting a text to a number of octets of its encoding.

/-!
# Texts cut to a number of octets

Long names are cut in messages. What counts is the encoded text; a character of which only
a part is left is shown as the replacement character.
-/
namespace Launcher.Text

/-- The character that stands for a part of a character. -/
def replacement : Char := '\uFFFD'

/-- The characters of a text that fit into so many octets. -/
def cutChars : Nat → List Char → List Char
  | _, [] => []
  | limit, c :: cs =>
    if c.utf8Size ≤ limit then c :: cutChars (limit - c.utf8Size) cs
    else if limit = 0 then []
    else [replacement]

/-- A text cut to so many octets. -/
def cutOctets (limit : Nat) (text : String) : String := String.ofList (cutChars limit text.toList)

/-- A name in quotes as it is, cut to so many octets. -/
def named (limit : Nat) (name : String) : String := "'" ++ cutOctets limit name ++ "'"

end Launcher.Text
