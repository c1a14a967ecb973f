-- SUMMARY: JSON values written as text, on one line or indented.
import Launcher.Decimal.Shortest
import Launcher.Json.Basic
import Launcher.Text.Hex

/-!
# Writing JSON

The text is ASCII: every other character is escaped, one beyond the basic plane as a pair
of surrogates. On one line, a comma and a colon are followed by a space. Indented, each
item has a line of its own, two spaces deeper than what holds it.
-/
namespace Launcher.Json

/-! ## Strings -/

/-- The escape of one 16-bit unit. -/
def unitEscape (n : Nat) : List Char := '\\' :: 'u' :: Text.hex 4 n

/-- One character of a string. -/
def writeChar (c : Char) : List Char :=
  if c = '"' then ['\\', '"']
  else if c = '\\' then ['\\', '\\']
  else if c = '\n' then ['\\', 'n']
  else if c = '\r' then ['\\', 'r']
  else if c = '\t' then ['\\', 't']
  else if c = '\x08' then ['\\', 'b']
  else if c = '\x0c' then ['\\', 'f']
  else if 0x20 ≤ c.toNat ∧ c.toNat < 0x7F then [c]
  else if c.toNat < 0x10000 then unitEscape c.toNat
  else
    let n := c.toNat - 0x10000
    unitEscape (0xD800 + n / 0x400) ++ unitEscape (0xDC00 + n % 0x400)

/-- The characters of a string, without its quotes. -/
def writeChars (s : List Char) : List Char := s.flatMap writeChar

@[simp] theorem writeChars_nil : writeChars [] = [] := rfl
@[simp] theorem writeChars_cons (c : Char) (s : List Char) :
    writeChars (c :: s) = writeChar c ++ writeChars s := rfl

/-- A string in its quotes. -/
def writeString (s : String) : List Char := '"' :: writeChars s.toList ++ ['"']

/-! ## Numbers -/

/-- A whole number. -/
def writeInt (n : Int) : List Char :=
  if n < 0 then '-' :: Nat.toDigits 10 n.natAbs else Nat.toDigits 10 n.natAbs

/-- A number with a fraction. -/
def writeFloat (x : Float) : List Char :=
  match Decimal.read x with
  | .finite b => b.text.toList
  | .infinite true => "-Infinity".toList
  | .infinite false => "Infinity".toList
  | .undefined => "NaN".toList

/-! ## Values -/

mutual

/-- A value on one line. -/
def write : Json → List Char
  | .null => "null".toList
  | .bool true => "true".toList
  | .bool false => "false".toList
  | .int n => writeInt n
  | .float x => writeFloat x
  | .string s => writeString s
  | .array [] => ['[', ']']
  | .array (v :: vs) => '[' :: write v ++ writeItems vs
  | .object [] => ['{', '}']
  | .object ((k, v) :: fs) => '{' :: writeString k ++ ':' :: ' ' :: write v ++ writeFields fs

/-- The further items of an array, and its end. -/
def writeItems : List Json → List Char
  | [] => [']']
  | v :: vs => ',' :: ' ' :: write v ++ writeItems vs

/-- The further fields of an object, and its end. -/
def writeFields : List (String × Json) → List Char
  | [] => ['}']
  | (k, v) :: fs => ',' :: ' ' :: writeString k ++ ':' :: ' ' :: write v ++ writeFields fs

end

/-- The start of a line at a depth of nesting. -/
def lineStart (depth : Nat) : List Char := '\n' :: List.replicate (2 * depth) ' '

mutual

/-- A value with one line for each item, at a depth of nesting. -/
def writeLines (depth : Nat) : Json → List Char
  | .null => "null".toList
  | .bool true => "true".toList
  | .bool false => "false".toList
  | .int n => writeInt n
  | .float x => writeFloat x
  | .string s => writeString s
  | .array [] => ['[', ']']
  | .array (v :: vs) =>
    '[' :: lineStart (depth + 1) ++ writeLines (depth + 1) v ++ writeItemLines depth vs
  | .object [] => ['{', '}']
  | .object ((k, v) :: fs) =>
    '{' :: lineStart (depth + 1) ++ writeString k ++ ':' :: ' ' :: writeLines (depth + 1) v ++
      writeFieldLines depth fs

/-- The further items of an array, and its end. -/
def writeItemLines (depth : Nat) : List Json → List Char
  | [] => lineStart depth ++ [']']
  | v :: vs =>
    ',' :: lineStart (depth + 1) ++ writeLines (depth + 1) v ++ writeItemLines depth vs

/-- The further fields of an object, and its end. -/
def writeFieldLines (depth : Nat) : List (String × Json) → List Char
  | [] => lineStart depth ++ ['}']
  | (k, v) :: fs =>
    ',' :: lineStart (depth + 1) ++ writeString k ++ ':' :: ' ' :: writeLines (depth + 1) v ++
      writeFieldLines depth fs

end

/-- A value on one line. -/
def toLine (v : Json) : String := String.ofList (write v)

/-- A value with one line for each item. -/
def toLines (v : Json) : String := String.ofList (writeLines 0 v)

end Launcher.Json
