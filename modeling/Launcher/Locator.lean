-- SUMMARY: Locators, which pair the path that is opened with a `file:` location, and how they are built.
import Launcher.Error
import Launcher.Path

/-!
# Locators

A locator names a directory or an archive that modules can be imported from. Its path is
the text that was given; its location is built from the normal form of that text, or of
another text given for the purpose.
-/
namespace Launcher

/-- What may be given as a path: a text, octets, or something else altogether. -/
inductive PathValue where
  | text (s : String)
  | octets (s : String)
  | other (value : Json)

/-- A directory or archive that modules can be imported from. -/
structure Locator where
  path : String
  uri : String
  deriving DecidableEq, Repr

/-! ## Share paths -/

/-- Double a leading pair of separators, unless a third one follows. -/
def doubleShare : List Char → List Char
  | '/' :: '/' :: '/' :: r => '/' :: '/' :: '/' :: r
  | '/' :: '/' :: r => '/' :: '/' :: '/' :: '/' :: r
  | '\\' :: '\\' :: '\\' :: r => '\\' :: '\\' :: '\\' :: r
  | '\\' :: '\\' :: r => '\\' :: '\\' :: '\\' :: '\\' :: r
  | text => text

/-- The text that a location is built from: on a platform with share paths, the leading
    separators of a share are doubled. -/
def shareSource (text : String) (share : Bool) : String :=
  if share then String.ofList (doubleShare text.toList) else text

@[simp] theorem shareSource_false (text : String) : shareSource text false = text := rfl

namespace Locator

/-! ## Building a locator -/

/-- The locator for the text `path`, its location built from `source`. -/
def ofSource (cwd path source : String) : Except Fault Locator :=
  if path = "" then .error (Error.emptyPath path : Error)
  else if Text.has '\x00' path then .error (Error.nulInPath path : Error)
  else if Text.has '\x00' source then .error (Error.nulInPath source : Error)
  else
    match ((Path.ofText source).absolute cwd).uri? with
    | some uri => .ok { path, uri }
    | none => .error (.because (.noLocation path) (Error.relativeLocation : Error))

/-- The locator for a text. -/
def ofText (cwd path : String) : Except Fault Locator := ofSource cwd path path

/-- The text that a value names a path with. -/
def textOf : PathValue → Except Fault String
  | .text s => .ok s
  | .octets "" => .error (Error.emptyPath "b''" : Error)
  | .octets _ => .error (Error.octetsWithText : Error)
  | .other v =>
    .error (.because (.notAPath v.shown) (Error.notPathLike v.typeName : Error))

/-- The locator for any value. -/
def ofValue (cwd : String) (value : PathValue) (source : Option String) :
    Except Fault Locator := do
  let path ← textOf value
  ofSource cwd path (source.getD path)

/-- The path that a value denotes. Octets do not denote one. -/
def pathOf : PathValue → Except Fault Path
  | .text s => .ok (.ofText s)
  | .octets _ => .error (Error.notTextPath "bytes" : Error)
  | .other v => .error (Error.notPathLike v.typeName : Error)

@[simp] theorem textOf_text (s : String) : textOf (.text s) = .ok s := rfl

theorem ofSource_path {cwd path source : String} {l : Locator}
    (h : ofSource cwd path source = .ok l) : l.path = path := by
  unfold ofSource at h
  split at h
  · simp at h
  split at h
  · simp at h
  split at h
  · simp at h
  split at h
  · cases h; rfl
  · simp at h

end Locator

end Launcher
