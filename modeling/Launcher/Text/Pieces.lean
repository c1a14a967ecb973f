-- SUMMARY: Cutting text at separators, and the tests on how a text starts and ends.

/-!
# Pieces of a text

Text is cut over its list of characters, by recursion on that list. The `String`
versions at the end are the ones the rest of the library calls.
-/
namespace Launcher.Text

/-! ## Cutting at every separator -/

/-- Put `c` in front of the first piece. -/
def consHead (c : Char) : List (List Char) → List (List Char)
  | [] => [[c]]
  | p :: ps => (c :: p) :: ps

@[simp] theorem consHead_nil (c : Char) : consHead c [] = [[c]] := rfl
@[simp] theorem consHead_cons (c : Char) (p : List Char) (ps : List (List Char)) :
    consHead c (p :: ps) = (c :: p) :: ps := rfl

/-- Cut `text` at every occurrence of `sep`, leftmost first and without overlap.
    The number says how many characters of a separator are still to be passed over. -/
def splitFrom (sep : List Char) : List Char → Nat → List (List Char)
  | [], _ => [[]]
  | _ :: r, n + 1 => splitFrom sep r n
  | c :: r, 0 =>
    if sep.isPrefixOf (c :: r) then [] :: splitFrom sep r (sep.length - 1)
    else consHead c (splitFrom sep r 0)

/-- The pieces of `text` between occurrences of `sep`, empty ones included. -/
def split (sep text : List Char) : List (List Char) := splitFrom sep text 0

/-! ## Cutting at one separator -/

/-- The text before and after the first `sep`. -/
def cutFirst (sep : Char) : List Char → Option (List Char × List Char)
  | [] => none
  | c :: r =>
    if c = sep then some ([], r) else (cutFirst sep r).map fun (a, b) => (c :: a, b)

/-- The text before and after the last `sep`. -/
def cutLast (sep : Char) : List Char → Option (List Char × List Char)
  | [] => none
  | c :: r =>
    match cutLast sep r with
    | some (a, b) => some (c :: a, b)
    | none => if c = sep then some ([], r) else none

/-- What follows `lead` at the start of a text. -/
def afterLead : List Char → List Char → Option (List Char)
  | [], text => some text
  | _ :: _, [] => none
  | c :: lead, d :: text => if c = d then afterLead lead text else none

/-- The text without its final newlines. -/
def dropNewlines (text : List Char) : List Char :=
  (text.reverse.dropWhile (· = '\n')).reverse

/-- The text without one newline at its end. -/
def dropLastNewline (text : List Char) : List Char :=
  if text.getLast? = some '\n' then text.dropLast else text

/-! ## On strings -/

/-- Cut at a separator that is not empty. -/
def pieces (sep text : String) : List String :=
  (split sep.toList text.toList).map String.ofList

/-- The pieces that are not empty. -/
def words (sep text : String) : List String := (pieces sep text).filter (· ≠ "")

/-- The text before and after the first `sep`. -/
def beforeAfterFirst (sep : Char) (text : String) : Option (String × String) :=
  (cutFirst sep text.toList).map fun (a, b) => (String.ofList a, String.ofList b)

/-- The text before and after the last `sep`. -/
def beforeAfterLast (sep : Char) (text : String) : Option (String × String) :=
  (cutLast sep text.toList).map fun (a, b) => (String.ofList a, String.ofList b)

/-- What follows `lead` at the start of `text`. -/
def after? (lead text : String) : Option String :=
  (afterLead lead.toList text.toList).map String.ofList

/-- Does `text` start with `lead`? -/
def startsWith (text lead : String) : Bool := lead.toList.isPrefixOf text.toList

/-- Does `text` end with `tail`? -/
def endsWith (text tail : String) : Bool := tail.toList.isSuffixOf text.toList

/-- Does `c` occur in `text`? -/
def has (c : Char) (text : String) : Bool := text.toList.contains c

/-- `text` joined from `parts` with `sep` between them. -/
def join (sep : String) (parts : List String) : String := sep.intercalate parts

/-- `text` without its final newlines. -/
def trimNewlines (text : String) : String := String.ofList (dropNewlines text.toList)

/-- `text` without one newline at its end. -/
def trimNewline (text : String) : String := String.ofList (dropLastNewline text.toList)

/-- Pad on the left with `fill` up to `width` characters. -/
def padLeft (fill : Char) (width : Nat) (text : String) : String :=
  String.ofList (List.replicate (width - text.length) fill) ++ text

end Launcher.Text
