-- SUMMARY: JSON text read back into values.
import Launcher.Decimal.Nearest
import Launcher.Json.Basic
import Launcher.Text.Hex

/-!
# Reading JSON

Each reader takes the text and returns what it read and the rest. Nesting is bounded by
a number that `read?` takes from the length of the text, so the bound is never met. The
numbers that are not finite are read as they are written.
-/
namespace Launcher.Json

/-- The text without leading white space. -/
def skipSpace : List Char → List Char
  | c :: r => if c = ' ' ∨ c = '\n' ∨ c = '\r' ∨ c = '\t' then skipSpace r else c :: r
  | [] => []

/-! ## Strings -/

/-- Four hexadecimal digits. -/
def readUnit : List Char → Option (Nat × List Char)
  | a :: b :: c :: d :: r => do
    let a ← Text.hexValue a
    let b ← Text.hexValue b
    let c ← Text.hexValue c
    let d ← Text.hexValue d
    some (((a * 16 + b) * 16 + c) * 16 + d, r)
  | _ => none

/-- What follows the backslash of an escape. -/
def readEscape : List Char → Option (Char × List Char)
  | 'n' :: r => some ('\n', r)
  | 'r' :: r => some ('\r', r)
  | 't' :: r => some ('\t', r)
  | 'b' :: r => some ('\x08', r)
  | 'f' :: r => some ('\x0c', r)
  | '"' :: r => some ('"', r)
  | '\\' :: r => some ('\\', r)
  | '/' :: r => some ('/', r)
  | 'u' :: r => do
    let (hi, r) ← readUnit r
    if 0xD800 ≤ hi ∧ hi < 0xDC00 then
      match r with
      | '\\' :: 'u' :: r => do
        let (lo, r) ← readUnit r
        if 0xDC00 ≤ lo ∧ lo < 0xE000 then
          some (Char.ofNat (0x10000 + (hi - 0xD800) * 0x400 + (lo - 0xDC00)), r)
        else none
      | _ => none
    else if 0xDC00 ≤ hi ∧ hi < 0xE000 then none
    else some (Char.ofNat hi, r)
  | _ => none

/-- The characters of a string up to its closing quote, at most `fuel` of them. -/
def readChars : Nat → List Char → Option (List Char × List Char)
  | 0, _ => none
  | fuel + 1, text =>
    match text with
    | [] => none
    | '"' :: r => some ([], r)
    | '\\' :: r => do
      let (c, r) ← readEscape r
      let (s, r) ← readChars fuel r
      some (c :: s, r)
    | c :: r =>
      if c.toNat < 0x20 then none
      else do
        let (s, r) ← readChars fuel r
        some (c :: s, r)

/-- A string, its opening quote already read. -/
def readString (text : List Char) : Option (String × List Char) :=
  (readChars (text.length + 1) text).map fun (s, r) => (String.ofList s, r)

/-! ## Numbers -/

/-- The longest run of digits at the start. -/
def spanDigits (text : List Char) : List Char × List Char :=
  (text.takeWhile Char.isDigit, text.dropWhile Char.isDigit)

/-- The value of a run of digits. -/
def ofDigits (ds : List Char) : Nat := ds.foldl (fun n d => 10 * n + (d.toNat - '0'.toNat)) 0

/-- A power of ten, if one is written. -/
def readExponent (text : List Char) : Option (Option Int × List Char) :=
  match text with
  | c :: r =>
    if c = 'e' ∨ c = 'E' then
      let (negative, r) := match r with
        | '-' :: r => (true, r)
        | '+' :: r => (false, r)
        | r => (false, r)
      match spanDigits r with
      | ([], _) => none
      | (ds, r) => some (some (if negative then -(ofDigits ds : Int) else ofDigits ds), r)
    else some (none, text)
  | [] => some (none, [])

/-- A fraction, if one is written. -/
def readFraction (text : List Char) : Option (List Char × List Char) :=
  match text with
  | '.' :: r =>
    match spanDigits r with
    | ([], _) => none
    | (ds, r) => some (ds, r)
  | r => some ([], r)

/-- A number, its sign already read. -/
def readNumber (negative : Bool) (text : List Char) : Option (Json × List Char) := do
  let (whole, r) := spanDigits text
  match whole with
  | [] => none
  | '0' :: _ :: _ => none
  | whole =>
    let (fraction, r) ← readFraction r
    let (power, r) ← readExponent r
    match fraction, power with
    | [], none =>
      let n := ofDigits whole
      some (.int (if negative then -(n : Int) else n), r)
    | fraction, power =>
      let value := Decimal.ofDecimal negative (ofDigits (whole ++ fraction))
        (power.getD 0 - fraction.length)
      some (.float value, r)

/-! ## Values -/

/-- What follows `word`, whose first character has been read. -/
def readWord (word : List Char) (value : Json) (text : List Char) : Option (Json × List Char) :=
  if word.isPrefixOf text then some (value, text.drop word.length) else none

/-- The word for the infinite number, without its first letter. -/
def infinityTail : List Char := ['n', 'f', 'i', 'n', 'i', 't', 'y']

mutual

/-- A value, with white space before it. -/
def readValue : Nat → List Char → Option (Json × List Char)
  | 0, _ => none
  | fuel + 1, text =>
    match skipSpace text with
    | 'n' :: r => readWord ['u', 'l', 'l'] .null r
    | 't' :: r => readWord ['r', 'u', 'e'] (.bool true) r
    | 'f' :: r => readWord ['a', 'l', 's', 'e'] (.bool false) r
    | 'I' :: r => readWord infinityTail (.float (Decimal.infinity false)) r
    | 'N' :: r => readWord ['a', 'N'] (.float Decimal.notNumber) r
    | '"' :: r => (readString r).map fun (s, r) => (.string s, r)
    | '[' :: r =>
      match skipSpace r with
      | ']' :: r => some (.array [], r)
      | r => (readItems fuel r).map fun (vs, r) => (.array vs, r)
    | '{' :: r =>
      match skipSpace r with
      | '}' :: r => some (.object [], r)
      | r => (readFields fuel r).map fun (fs, r) => (.object fs, r)
    | '-' :: 'I' :: r => readWord infinityTail (.float (Decimal.infinity true)) r
    | '-' :: r => readNumber true r
    | r => readNumber false r

/-- The items of an array up to its end. -/
def readItems : Nat → List Char → Option (List Json × List Char)
  | 0, _ => none
  | fuel + 1, text => do
    let (v, r) ← readValue fuel text
    match skipSpace r with
    | ']' :: r => some ([v], r)
    | ',' :: r => do
      let (vs, r) ← readItems fuel r
      some (v :: vs, r)
    | _ => none

/-- The fields of an object up to its end. -/
def readFields : Nat → List Char → Option (List (String × Json) × List Char)
  | 0, _ => none
  | fuel + 1, text =>
    match skipSpace text with
    | '"' :: r => do
      let (k, r) ← readString r
      match skipSpace r with
      | ':' :: r => do
        let (v, r) ← readValue fuel r
        match skipSpace r with
        | '}' :: r => some ([(k, v)], r)
        | ',' :: r => do
          let (fs, r) ← readFields fuel r
          some ((k, v) :: fs, r)
        | _ => none
      | _ => none
    | _ => none

end

/-- The value that a text holds, with nothing but white space around it. -/
def read? (text : List Char) : Option Json :=
  match readValue (2 * text.length + 2) text with
  | some (v, r) => if (skipSpace r).isEmpty then some v else none
  | none => none

/-- The value that a text holds. -/
def ofText? (text : String) : Option Json := read? text.toList

end Launcher.Json
