-- SUMMARY: JSON values as messages show them.
import Launcher.Json.Basic
import Launcher.Decimal.Shortest
import Launcher.Text.Quoted

/-!
# Values in messages

A message names the three constants `None`, `True` and `False`, quotes texts, and writes
lists and mappings in brackets. A text that is the whole of a value may stand bare.
-/
namespace Launcher.Json

/-- A number with a fraction. -/
def showFloat (x : Float) : String :=
  match Decimal.read x with
  | .finite b => b.text
  | .infinite true => "-inf"
  | .infinite false => "inf"
  | .undefined => "nan"

/-- A list of texts in brackets. -/
def bracketed (opening closing : Char) (items : List String) : String :=
  String.singleton opening ++ ", ".intercalate items ++ String.singleton closing

mutual

/-- A value, texts in quotes. -/
def shown : Json → String
  | .null => "None"
  | .bool true => "True"
  | .bool false => "False"
  | .int n => toString n
  | .float x => showFloat x
  | .string s => Text.quoted s
  | .array vs => bracketed '[' ']' (shownItems vs)
  | .object fs => bracketed '{' '}' (shownFields fs)

/-- The items of a list. -/
def shownItems : List Json → List String
  | [] => []
  | v :: vs => shown v :: shownItems vs

/-- The fields of a mapping. -/
def shownFields : List (String × Json) → List String
  | [] => []
  | (k, v) :: fs => (Text.quoted k ++ ": " ++ shown v) :: shownFields fs

end

/-- A value, a text bare. -/
def display : Json → String
  | .string s => s
  | v => shown v

@[simp] theorem display_string (s : String) : display (.string s) = s := rfl

/-- The name of the type of a value. -/
def typeName : Json → String
  | .null => "NoneType"
  | .bool _ => "bool"
  | .int _ => "int"
  | .float _ => "float"
  | .string _ => "str"
  | .array _ => "list"
  | .object _ => "dict"

end Launcher.Json
