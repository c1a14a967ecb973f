-- SUMMARY: Placeholders in braces, and what becomes of a text with placeholders when nothing fills them.
import Launcher.Error
import Launcher.Text.Digit

/-!
# Placeholders

A placeholder stands in braces: a field, perhaps a conversion after an exclamation mark, and
perhaps a format after a colon. A brace that is doubled stands for itself. When there is
nothing to fill in, the first placeholder is an error, unless one that is not well written
comes before it or is it.
-/
namespace Launcher.Text

/-! ## Reading placeholders -/

/-- An error about how placeholders are written. -/
def badPlaceholder (text : String) : Error := .raised .value text

/-- What comes after an opening bracket in a field: the text from the closing bracket. -/
def afterBracket (text : List Char) : List Char := text.dropWhile (· ≠ ']')

theorem length_afterBracket_le (text : List Char) : (afterBracket text).length ≤ text.length :=
  (List.dropWhile_sublist _).length_le

/-- The field at the start of a text, the character that ends it, and what follows. -/
def readField (text : List Char) : Except Error (List Char × Char × List Char) :=
  match text with
  | [] => .error (badPlaceholder "expected '\x7d' before end of string")
  | '{' :: _ => .error (badPlaceholder "unexpected '\x7b' in field name")
  | '[' :: rest =>
    let inside := rest.takeWhile (· ≠ ']')
    match readField (afterBracket rest) with
    | .ok (field, stop, rest) => .ok ('[' :: (inside ++ field), stop, rest)
    | .error e => .error e
  | c :: rest =>
    if c = '}' ∨ c = ':' ∨ c = '!' then .ok ([], c, rest)
    else
      match readField rest with
      | .ok (field, stop, rest) => .ok (c :: field, stop, rest)
      | .error e => .error e
termination_by text.length
decreasing_by
  · exact Nat.lt_succ_of_le (length_afterBracket_le _)
  · exact Nat.lt_succ_self _

/-- Pass over a format up to the brace that closes it. The number counts open braces. -/
def passFormat : Nat → List Char → Except Error (List Char)
  | _, [] => .error (badPlaceholder "unmatched '\x7b' in format spec")
  | depth, '{' :: rest => passFormat (depth + 1) rest
  | 0, '}' :: rest => .ok rest
  | depth + 1, '}' :: rest => passFormat depth rest
  | depth, _ :: rest => passFormat depth rest

/-- Pass over a conversion, and the format after it. -/
def passConversion : List Char → Except Error (List Char)
  | [] => .error (badPlaceholder "end of string while looking for conversion specifier")
  | _ :: '}' :: rest => .ok rest
  | _ :: ':' :: rest => passFormat 0 rest
  | _ :: _ :: _ => .error (badPlaceholder "expected ':' after conversion specifier")
  | [_] => passFormat 0 []

/-- The field of the placeholder at the start of a text, after its opening brace. -/
def readPlaceholder (text : List Char) : Except Error (List Char) := do
  let (field, stop, rest) ← readField text
  match stop with
  | '!' => let _ ← passConversion rest
  | ':' => let _ ← passFormat 0 rest
  | _ => pure ()
  return field

/-! ## Filling in nothing -/

/-- The greatest number of a place. -/
def greatestPlace : Nat := 9223372036854775807

/-- The error of a field that nothing is there for: a number or no name at all asks for a
    place, another name for itself. -/
def unfilled (field : List Char) : Error :=
  let name := field.takeWhile fun c => c ≠ '.' && c ≠ '['
  let digits := name.takeWhile isDecimalDigit
  let place := numberOf digits
  if greatestPlace < place then badPlaceholder "Too many decimal digits in format string"
  else if digits.length = name.length then
    .raised .index ("Replacement index " ++ toString place ++ " out of range for positional args tuple")
  else .raised .key (String.ofList name)

/-- The error that filling in nothing ends in, if there is a placeholder. -/
def unfilled? : List Char → Option Error
  | [] => none
  | '{' :: '{' :: rest | '}' :: '}' :: rest => unfilled? rest
  | ['{'] => some (badPlaceholder "Single '\x7b' encountered in format string")
  | '}' :: _ => some (badPlaceholder "Single '\x7d' encountered in format string")
  | '{' :: rest =>
    match readPlaceholder rest with
    | .ok field => some (unfilled field)
    | .error e => some e
  | _ :: rest => unfilled? rest

end Launcher.Text
