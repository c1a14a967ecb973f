-- SUMMARY: Reading options from the arguments of a command.
import Launcher.Text.Digit
import Launcher.Text.Pieces
import Launcher.Text.Quoted

/-!
# Options

An argument is first classified by itself: as an option, in full or by a prefix that only
one option has, or as a plain argument. Then options take their values. A value follows its
option as the next plain argument, or in the same argument after `=`. What follows a short
option without a value in its argument is a row of further short options. What no option
takes is left over.
-/
namespace Launcher.CommandLine

/-! ## Options and arguments -/

/-- An option: how it is written, whether it takes a value, and what it means. -/
structure Switch (α : Type) where
  spellings : List String
  takesValue : Bool
  meaning : α

/-- The name of an option in messages. -/
def Switch.name (s : Switch α) : String := "/".intercalate s.spellings

/-- An option as it was met: the option if it is known, its full spelling, and what else is
    in the same argument. -/
structure Met (α : Type) where
  switch : Option (Switch α)
  spelling : String
  value : Option String := none

/-- An argument, classified. -/
inductive Token (α : Type) where
  | plain
  /-- Two dashes by themselves; only plain arguments follow. -/
  | dashes
  | option (met : Met α)

/-- The known spellings, each with its option. -/
def spelled (switches : List (Switch α)) : List (String × Switch α) :=
  switches.flatMap fun s => s.spellings.map fun spelling => (spelling, s)

/-- Does the argument look like a negative number? A newline at its end does not matter. -/
def isNegativeNumber (arg : String) : Bool :=
  match arg.toList with
  | '-' :: rest =>
    let rest := if rest.getLast? = some '\n' then rest.dropLast else rest
    let whole := rest.takeWhile Text.isDecimalDigit
    match rest.dropWhile Text.isDecimalDigit with
    | [] => !whole.isEmpty
    | '.' :: fraction => !fraction.isEmpty && fraction.all Text.isDecimalDigit
    | _ => false
  | _ => false

/-- The options that an argument may be meant for, when it spells none in full. -/
def candidates (switches : List (Switch α)) (arg : String) : List (Met α) :=
  match arg.toList with
  | '-' :: '-' :: _ =>
    let (lead, value) := match Text.beforeAfterFirst '=' arg with
      | some (lead, value) => (lead, some value)
      | none => (arg, none)
    (spelled switches).filterMap fun (spelling, s) =>
      if Text.startsWith spelling lead then some ⟨some s, spelling, value⟩ else none
  | '-' :: c :: rest =>
    (spelled switches).filterMap fun (spelling, s) =>
      if spelling = String.ofList ['-', c] then some ⟨some s, spelling, some (String.ofList rest)⟩
      else if Text.startsWith spelling arg then some ⟨some s, spelling, none⟩
      else none
  | _ => []

/-- Classify an argument. The error is the message about an ambiguous one. -/
def classify (switches : List (Switch α)) (arg : String) : Except String (Token α) :=
  if !Text.startsWith arg "-" then .ok .plain
  else
    match (spelled switches).lookup arg with
    | some s => .ok (.option ⟨some s, arg, none⟩)
    | none =>
      if arg = "-" then .ok .plain
      else
        let inFull := match Text.beforeAfterFirst '=' arg with
          | some (spelling, value) =>
            ((spelled switches).lookup spelling).map fun s =>
              (⟨some s, spelling, some value⟩ : Met α)
          | none => none
        match inFull with
        | some met => .ok (.option met)
        | none =>
          match candidates switches arg with
          | [met] => .ok (.option met)
          | [] =>
            if isNegativeNumber arg || Text.has ' ' arg then .ok .plain
            else .ok (.option ⟨none, arg, none⟩)
          | mets =>
            .error ("ambiguous option: " ++ arg ++ " could match " ++
              ", ".intercalate (mets.map Met.spelling))

/-- Classify arguments. After two dashes, every argument is plain. -/
def classifyAll (switches : List (Switch α)) : List String →
    Except String (List (String × Token α))
  | [] => .ok []
  | "--" :: args => .ok (("--", .dashes) :: args.map fun arg => (arg, .plain))
  | arg :: args =>
    match classify switches arg with
    | .error e => .error e
    | .ok token =>
      match classifyAll switches args with
      | .error e => .error e
      | .ok rest => .ok ((arg, token) :: rest)

/-! ## Taking values -/

/-- An option as it takes effect. A value of two dashes does not count as one. -/
structure Setting (α : Type) where
  meaning : α
  value : Option String := none

/-- What was read: the options in order, each with its value, and what is left over. -/
structure Parsed (α : Type) where
  settings : List (Setting α) := []
  extras : List String := []

/-- The setting of an option by a value. -/
def Switch.set (s : Switch α) (value : String) : Setting α :=
  { meaning := s.meaning, value := if value = "--" then none else some value }

/-- The message about an argument of an option. -/
def argumentError (s : Switch α) (text : String) : String := "argument " ++ s.name ++ ": " ++ text

/-- The message about a value that an option does not take. -/
def ignoredValue (s : Switch α) (value : List Char) : String :=
  argumentError s ("ignored explicit argument " ++ Text.quoted (String.ofList value))

/-- What one argument with an option comes to: its settings, and the option that still
    needs its value. -/
structure Chain (α : Type) where
  settings : List (Setting α) := []
  pending : Option (Switch α) := none

/-- An option with nothing else in its argument. -/
def Chain.bare (s : Switch α) : Chain α :=
  if s.takesValue then { pending := some s } else { settings := [{ meaning := s.meaning }] }

/-- An option with more in its argument: its value, or a row of short options if it is short
    itself and takes none. -/
def follow (switches : List (Switch α)) (s : Switch α) (short : Bool) :
    List Char → Except String (Chain α)
  | [] => if s.takesValue then .ok { settings := [s.set ""] } else .error (ignoredValue s [])
  | c :: rest =>
    if s.takesValue then .ok { settings := [s.set (String.ofList (c :: rest))] }
    else if !short then .error (ignoredValue s (c :: rest))
    else
      match (spelled switches).lookup (String.ofList ['-', c]) with
      | none => .error (ignoredValue s (c :: rest))
      | some next =>
        let chain := if rest = [] then .ok (.bare next) else follow switches next true rest
        match chain with
        | .error e => .error e
        | .ok chain => .ok { chain with settings := { meaning := s.meaning } :: chain.settings }

/-- What an argument with a known option comes to. -/
def Met.chain (switches : List (Switch α)) (met : Met α) (s : Switch α) :
    Except String (Chain α) :=
  match met.value with
  | none => .ok (.bare s)
  | some value => follow switches s (!Text.startsWith met.spelling "--") value.toList

/-- Settings, in front of what the further arguments come to. A setting that stops the
    reading makes the further arguments moot. -/
def Parsed.after (stops : α → Bool) (settings : List (Setting α)) (extras : List String)
    (rest : Except String (Parsed α)) : Except String (Parsed α) :=
  if settings.any (stops ·.meaning) then .ok { settings, extras }
  else
    match rest with
    | .error e => .error e
    | .ok p => .ok { settings := settings ++ p.settings, extras := extras ++ p.extras }

/-- Go through classified arguments, up to a setting that stops the reading. -/
def collect (switches : List (Switch α)) (stops : α → Bool) :
    List (String × Token α) → Except String (Parsed α)
  | [] => .ok {}
  | (arg, .option met) :: rest =>
    match met.switch with
    | none => Parsed.after stops [] [arg] (collect switches stops rest)
    | some s =>
      match met.chain switches s with
      | .error e => .error e
      | .ok chain =>
        match chain.pending, rest with
        | none, rest => Parsed.after stops chain.settings [] (collect switches stops rest)
        | some s, (value, .plain) :: rest =>
          Parsed.after stops (chain.settings ++ [s.set value]) [] (collect switches stops rest)
        | some s, _ => .error (argumentError s "expected one argument")
  | (arg, _) :: rest => Parsed.after stops [] [arg] (collect switches stops rest)

/-- Read options from arguments. The error is the message about the first fault. -/
def read (switches : List (Switch α)) (stops : α → Bool) (args : List String) :
    Except String (Parsed α) :=
  match classifyAll switches args with
  | .error e => .error e
  | .ok tokens => collect switches stops tokens

end Launcher.CommandLine
