-- SUMMARY: The values of a logging configuration, with the references in them followed.
import Launcher.Import.Dotted
import Launcher.Logging.Level
import Launcher.Logging.Reference
import Launcher.Text.Digit

/-!
# Settings

The values that stand in a configuration are references or stand for themselves. A reference
is followed when its value is asked for, and so are the references met on the way. What is
found outside of the configuration is taken as it is, whatever it holds.
-/
namespace Launcher

/-- A value that a configuration gives. -/
inductive Setting where
  /-- A value that stands in the configuration. Values inside it may be references. -/
  | inside (v : Json)
  /-- An object found outside of it. -/
  | outside (o : Object)

namespace Setting

/-- The value, if it is one. -/
def value? : Setting → Option Json
  | inside v => some v
  | outside (.value v _) => some v
  | outside _ => none

/-- The setting as a text in a message. -/
def display (i : Imports) : Setting → String
  | inside v => v.display
  | outside (.value v _) => v.display
  | outside o => i.shown o

/-- Is the setting other than null, false, zero and empty? -/
def isSubstantial : Setting → Bool
  | inside v => v.isSubstantial
  | outside o => o.isSubstantial

/-- The level that a setting stands for, if it is not null. -/
def level? (i : Imports) (s : Setting) : Except Fault (Option Level) :=
  match s with
  | inside .null | outside (.value .null _) => .ok none
  | inside v | outside (.value v _) => (Level.ofJson v).map some
  | outside o => .error (Error.levelType (i.shown o) : Error)

end Setting

/-! ## Parts -/

namespace Json

/-- The part of a value under a name. -/
def partNamed (v : Json) (name : String) : Except Error Json :=
  match v with
  | .object fields =>
    match fields.lookup name with
    | some part => .ok part
    | none => .error (.unknownKey (Text.quoted name))
  | .array _ => .error (.listKeyType "str")
  | .string _ => .error (.textKeyType "str")
  | v => .error (.noItems v.typeName)

/-- The part of a value with a number. No field has a number for its name. -/
def partNumbered (v : Json) (n : Nat) : Except Error Json :=
  match v with
  | .object _ => .error (.unknownKey (toString n))
  | .array items =>
    match items[n]? with
    | some part => .ok part
    | none => .error .outsideList
  | .string s =>
    match s.toList[n]? with
    | some c => .ok (.string (String.singleton c))
    | none => .error .outsideText
  | v => .error (.noItems v.typeName)

end Json

/-- What becomes of asking for a part of an object that is no value. Only a mapping has parts,
    and they have names. -/
def Object.part (i : Imports) (o : Object) (name : Option String) : Except Error Object :=
  match o, name with
  | .attributes keeper, some name =>
    match i.binding? keeper name with
    | some part => .ok part
    | none => .error (.unknownKey (Text.quoted name))
  | .class _ path body, _ =>
    .error (((body.attribute? "__class_getitem__").map (Attribute.boundMisfit "__class_getitem__" 1)).getD
      (.noTypeItems (lastOf path)))
  | .type name, _ => .error (.noTypeItems name)
  | o, _ => .error (.noItems o.typeName)

namespace Setting

/-- The part of a setting under a name, as it stands there. -/
def partNamed (i : Imports) (name : String) : Setting → Except Error Setting
  | inside v => (v.partNamed name).map inside
  | outside (.value v _) => (v.partNamed name).map fun part => outside (.plain part)
  | outside o => (o.part i (some name)).map outside

/-- The part of a setting with a number, as it stands there. -/
def partNumbered (i : Imports) (n : Nat) : Setting → Except Error Setting
  | inside v => (v.partNumbered n).map inside
  | outside (.value v _) => (v.partNumbered n).map fun part => outside (.plain part)
  | outside o => (o.part i none).map outside

end Setting

/-! ## Following references -/

/-- The fields of a configuration, in which references have not been followed yet. -/
abbrev Settings := List (String × Json)

/-- How many references may lead to one another. -/
def referenceLimit : Nat := 240

namespace Settings

open Launch

/-- What a setting comes to: a value that stands in the configuration may be a reference. -/
def settle (follow : Json → Launch Setting) : Setting → Launch Setting
  | .inside v => follow v
  | .outside o => pure (.outside o)

/-- Ask a class for its items. Most have nothing to be asked. -/
def askItems : Setting → Launch Unit
  | .outside (.class moduleName path body) =>
    rescue .missingAttribute (do
      let _ ← attributeOf (.class moduleName path body) "__class_getitem__") fun _ =>
        fail (Error.noTypeItems (lastOf path))
  | _ => pure ()

/-- The part of a setting that a step leads to. A number is taken for a name where that comes
    to an error of types. -/
def step (follow : Json → Launch Setting) (v : Setting) (s : Logging.PathStep) : Launch Setting := do
  let named (word : String) : Launch Setting := do
    askItems v
    settle follow (← check (v.partNamed (← get).imports word))
  match s with
  | .name word => named word
  | .item word =>
    if word.toList.all Text.isDecimalDigit then
      rescue .type (do
        askItems v
        settle follow (← check (v.partNumbered (← get).imports (Text.numberOf word.toList)))) fun f =>
          handling f.error (named word)
    else named word

/-- The value that a value stands for, with at most so many references one inside another. -/
def follow (s : Settings) : Nat → Json → Launch Setting
  | depth, .string text =>
    match Logging.reference? text with
    | none => pure (.inside (.string text))
    | some (.outside, name) => return .outside (← dotted name)
    | some (.inside, text) =>
      match depth with
      | 0 => fail Error.tooDeep
      | depth + 1 =>
        match Logging.ValuePath.ofText? text with
        | none => fail (Error.unreadableReference text none)
        | some path =>
          match s.lookup path.field with
          | none => fail (Error.unknownKey (Text.quoted path.field))
          | some field => do
            let found ← path.steps.foldlM (step (s.follow depth)) (← s.follow depth field)
            if path.unread = "" then pure found
            else fail (Error.unreadableReference text (some path.unread))
  | _, v => pure (.inside v)

/-- The value that a value stands for. -/
def value (s : Settings) (v : Json) : Launch Setting := s.follow referenceLimit v

/-- The value of a field, if the configuration has it. -/
def get? (s : Settings) (name : String) : Launch (Option Setting) :=
  match s.lookup name with
  | none => pure none
  | some v => return some (← s.value v)

/-- The settings without a field. -/
def without (s : Settings) (name : String) : Settings := s.filter (·.1 ≠ name)

/-- The settings with a field, unless they have it. -/
def withDefault (s : Settings) (field : String × Json) : Settings :=
  if (s.lookup field.1).isSome then s else s ++ [field]

end Settings

end Launcher
