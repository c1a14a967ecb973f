-- SUMMARY: Text in quotes, as messages show it.
import Launcher.Text.Hex
import Launcher.Text.Pieces
import Launcher.Text.Visible

/-!
# Quoted text

A text is quoted with `'`, and with `"` when it holds a `'` and no `"`. The quote in use
and the backslash are escaped, and so is every character that would not show.
-/
namespace Launcher.Text

/-- The shortest hexadecimal escape that holds the code point. -/
def codeEscape (n : Nat) : List Char :=
  if n < 0x100 then '\\' :: 'x' :: hex 2 n
  else if n < 0x10000 then '\\' :: 'u' :: hex 4 n
  else '\\' :: 'U' :: hex 8 n

/-- One character inside quotes. -/
def quotedChar (quote c : Char) : List Char :=
  if c = quote ∨ c = '\\' then ['\\', c]
  else if c = '\n' then ['\\', 'n']
  else if c = '\r' then ['\\', 'r']
  else if c = '\t' then ['\\', 't']
  else if isVisible c then [c]
  else codeEscape c.toNat

/-- The quote that a text is put in. -/
def quoteFor (text : List Char) : Char :=
  if '\'' ∈ text ∧ '"' ∉ text then '"' else '\''

/-- A text in quotes. -/
def quotedChars (text : List Char) : List Char :=
  let q := quoteFor text
  q :: text.flatMap (quotedChar q) ++ [q]

/-- A text in quotes. -/
def quoted (text : String) : String := String.ofList (quotedChars text.toList)

end Launcher.Text
