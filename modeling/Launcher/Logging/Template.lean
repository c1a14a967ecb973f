-- SUMMARY: Messages with places for arguments, marked by percent signs.
import Launcher.Decimal.Places
import Launcher.Json.Display

/-!
# Message templates

A place is a percent sign, an optional key in parentheses, flags, a width, a precision and
a letter for the form. Places take the arguments in order, or by key from a mapping that is
the only argument. A message without arguments is taken as it is.
-/
namespace Launcher.Template

/-! ## Places -/

/-- A place for an argument. -/
structure Place where
  key : Option String := none
  left : Bool := false
  zero : Bool := false
  plus : Bool := false
  space : Bool := false
  alternate : Bool := false
  width : Nat := 0
  precision : Option Nat := none

/-- The arguments that are left, or the mapping that keys are looked up in. A mapping also
    counts as an argument itself, once, and only before the first place that is filled. -/
inductive Arguments where
  | sequence (values : List Json)
  | mapping (value : Json) (whole : Bool)

/-- The next argument, and what is left. -/
def Arguments.next : Arguments → Option (Json × Arguments)
  | .sequence (v :: vs) => some (v, .sequence vs)
  | .sequence [] => none
  | .mapping v true => some (v, .mapping v false)
  | .mapping _ false => none

/-- The argument that a key names, and what is left. -/
def Arguments.atKey (key : String) : Arguments → Option (Json × Arguments)
  | .sequence _ => none
  | .mapping m _ => (m.field? key).map fun v => (v, .mapping m false)

/-- Put a text in a field of its width. -/
def Place.fill (p : Place) (text : String) : String :=
  let padding := String.ofList (List.replicate (p.width - text.length) ' ')
  if p.left then text ++ padding else padding ++ text

/-- Put a number in a field of its width: a sign, a mark such as `0x`, and digits. -/
def Place.fillNumber (p : Place) (negative : Bool) (mark digits : String) : String :=
  let sign := if negative then "-" else if p.plus then "+" else if p.space then " " else ""
  if p.zero && !p.left then
    let used := sign.length + mark.length + digits.length
    sign ++ mark ++ String.ofList (List.replicate (p.width - used) '0') ++ digits
  else p.fill (sign ++ mark ++ digits)

/-! ## Forms -/

/-- A text in a place, cut off at the precision. -/
def Place.text (p : Place) (s : String) : String :=
  match p.precision with
  | some n => p.fill (String.ofList (s.toList.take n))
  | none => p.fill s

/-- A whole number in a place. -/
def Place.whole (p : Place) (base : Nat) (mark : String) (upper : Bool) (n : Int) : String :=
  let digits := Nat.toDigits base n.natAbs
  let digits := if upper then digits.map Char.toUpper else digits
  let least := List.replicate ((p.precision.getD 1) - digits.length) '0'
  p.fillNumber (n < 0) (if p.alternate then mark else "") (String.ofList (least ++ digits))

/-- The whole number that a value stands for; a fraction is cut off. -/
def wholeOf : Json → Option Int
  | .int n => some n
  | .bool b => some (if b then 1 else 0)
  | .float x =>
    match Decimal.read x with
    | .finite b =>
      let (num, den) := b.quotient
      let n : Int := (num / den : Nat)
      some (if b.negative then -n else n)
    | _ => none
  | _ => none

/-- The whole number that a value is. -/
def exactWholeOf : Json → Option Int
  | .float _ => none
  | v => wholeOf v

/-- The number that a value stands for. -/
def floatOf : Json → Option Float
  | .int n => some (Float.ofInt n)
  | .bool b => some (if b then 1.0 else 0.0)
  | .float x => some x
  | _ => none

/-- A number with a fraction in a place. -/
def Place.float (p : Place) (upper : Bool)
    (form : Decimal.Binary → Nat → Bool → String) (x : Float) : String :=
  let case_ (s : String) := if upper then String.ofList (s.toList.map Char.toUpper) else s
  match Decimal.read x with
  | .finite b => p.fillNumber b.negative "" (case_ (form b (p.precision.getD 6) p.alternate))
  | .infinite negative => p.fillNumber negative "" (case_ "inf")
  | .undefined => p.fillNumber false "" (case_ "nan")

/-- The text of a value with escapes for all that is not ASCII. -/
def asciiShown (v : Json) : String :=
  String.ofList (v.shown.toList.flatMap fun c =>
    if c.toNat < 0x80 then [c] else Text.codeEscape c.toNat)

/-- A value in a place, in the form of a letter. -/
def Place.value (p : Place) (form : Char) (v : Json) : Option String :=
  match form with
  | 's' => some (p.text v.display)
  | 'r' => some (p.text v.shown)
  | 'a' => some (p.text (asciiShown v))
  | 'd' | 'i' | 'u' => (wholeOf v).map (p.whole 10 "" false)
  | 'x' => (exactWholeOf v).map (p.whole 16 "0x" false)
  | 'X' => (exactWholeOf v).map (p.whole 16 "0X" true)
  | 'o' => (exactWholeOf v).map (p.whole 8 "0o" false)
  | 'e' => (floatOf v).map (p.float false Decimal.Binary.scientific)
  | 'E' => (floatOf v).map (p.float true Decimal.Binary.scientific)
  | 'f' => (floatOf v).map (p.float false Decimal.Binary.fixed)
  | 'F' => (floatOf v).map (p.float true Decimal.Binary.fixed)
  | 'g' => (floatOf v).map (p.float false Decimal.Binary.general)
  | 'G' => (floatOf v).map (p.float true Decimal.Binary.general)
  | 'c' =>
    match v with
    | .string s => if s.length = 1 then some (p.fill s) else none
    | v => (exactWholeOf v).bind fun n =>
      if 0 ≤ n ∧ n < 0x110000 then some (p.fill (String.singleton (Char.ofNat n.toNat))) else none
  | _ => none

/-! ## Reading a place -/

/-- The text up to the parenthesis that closes a key. -/
def readKey : Nat → List Char → Option (List Char × List Char)
  | _, [] => none
  | 0, ')' :: r => some ([], r)
  | n, c :: r =>
    let n := if c = '(' then n + 1 else if c = ')' then n - 1 else n
    (readKey n r).map fun (k, r) => (c :: k, r)

/-- Flags, in any order. -/
def readFlags (p : Place) : List Char → Place × List Char
  | '-' :: r => readFlags { p with left := true } r
  | '0' :: r => readFlags { p with zero := true } r
  | '+' :: r => readFlags { p with plus := true } r
  | ' ' :: r => readFlags { p with space := true } r
  | '#' :: r => readFlags { p with alternate := true } r
  | r => (p, r)

/-- Numbers in places are smaller than this. -/
def numberLimit : Nat := 2147483648

/-- A number that is written, or taken from the arguments where a star stands. -/
def readNumber (arguments : Arguments) : List Char → Option (Option Int × Arguments × List Char)
  | '*' :: r =>
    match arguments.next with
    | some (v, arguments) =>
      match exactWholeOf v with
      | some n => if n.natAbs < numberLimit then some (some n, arguments, r) else none
      | none => none
    | none => none
  | r =>
    let ds := r.takeWhile Char.isDigit
    let n := ds.foldl (fun n d => 10 * n + (d.toNat - '0'.toNat)) 0
    if n < numberLimit then
      some (if ds.isEmpty then none else some (n : Int), arguments, r.dropWhile Char.isDigit)
    else none

/-- Fill the place that starts after a percent sign. -/
def fillPlace (arguments : Arguments) (text : List Char) :
    Option (String × Arguments × List Char) := do
  let (key, text) ← match text with
    | '(' :: r => (readKey 0 r).map fun (k, r) => (some (String.ofList k), r)
    | r => some (none, r)
  let (p, text) := readFlags { key } text
  let (width, arguments, text) ← readNumber arguments text
  let p := match width with
    | some n => if n < 0 then { p with left := true, width := n.natAbs }
      else { p with width := n.toNat }
    | none => p
  let (precision, arguments, text) ← match text with
    | '.' :: r => (readNumber arguments r).map fun (n, a, r) => (some ((n.getD 0).toNat), a, r)
    | r => some (none, arguments, r)
  let p := { p with precision }
  let text := match text with
    | 'h' :: r | 'l' :: r | 'L' :: r => r
    | r => r
  match text with
  | [] => none
  | form :: r =>
    let (v, arguments) ← match p.key with
      | some key => arguments.atKey key
      | none => arguments.next
    let s ← p.value form v
    some (s, arguments, r)

/-! ## Templates -/

/-- Fill the places of a text; the number bounds the places. -/
def fillFrom : Nat → Arguments → List Char → Option (List Char)
  | _, .sequence (_ :: _), [] => none
  | _, _, [] => some []
  | 0, _, _ => none
  | n + 1, arguments, '%' :: '%' :: r => (fillFrom n arguments r).map ('%' :: ·)
  | n + 1, arguments, '%' :: r =>
    match fillPlace arguments r with
    | some (s, arguments, r) => (fillFrom n arguments r).map (s.toList ++ ·)
    | none => none
  | n + 1, arguments, c :: r => (fillFrom n arguments r).map (c :: ·)

/-- The message of a template and its arguments, if they fit. -/
def fill (template : String) (arguments : List Json) : Option String :=
  match arguments with
  | [] => some template
  | [.object (f :: fs)] =>
    (fillFrom (template.length + 1) (.mapping (.object (f :: fs)) true) template.toList).map
      String.ofList
  | arguments =>
    (fillFrom (template.length + 1) (.sequence arguments) template.toList).map String.ofList

end Launcher.Template
