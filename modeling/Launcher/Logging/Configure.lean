-- SUMMARY: Configuration of logging, by a level or by a file.
import Launcher.FileSystem.Lookup
import Launcher.Json.Order
import Launcher.Logging.Setting
import Launcher.Sorting

/-!
# Configuring logging

A configuration file sets the levels of loggers and of the root, gives the root handlers in the
place of those that it had, and disables the loggers that it does not name; an incremental one
sets levels only. Without such a file, the default handler is installed anew and the level of the
root is set. A configuration can fail half way; what was done by then stays done.

The formatters, filters and handlers of a configuration are made by code that it names. What
making them does is given with the file.
-/
namespace Launcher

namespace Logging

/-! ## Changes -/

/-- Set the level of a logger or of the root. -/
def setLevel (l : Logging) (name : String) (level : Option Level) : Logging :=
  if isRoot name then { l with root := level.getD l.root }
  else
    let l := l.ensure name
    let old := (l.logger? name).getD {}
    l.setLogger name { old with level := level.getD old.level }

/-- Take the handlers away from the root. Those of other loggers are not kept. -/
def dropHandlers (l : Logging) (name : String) : Logging :=
  if isRoot name then { l with handlers := [] } else l

/-- Give the root a handler, unless it has it. -/
def addHandler (l : Logging) (name : String) (h : Handler) : Logging :=
  if isRoot name then
    { l with
      handlers := if h ∈ l.handlers then l.handlers else l.handlers ++ [h]
      unlisted := l.unlisted.filter (some · ≠ h.name) }
  else l

/-- Enable a logger. The root is never disabled. -/
def enable (l : Logging) (name : String) : Logging :=
  if isRoot name then l
  else
    match l.logger? name with
    | some logger => l.setLogger name { logger with disabled := .bool false }
    | none => l

/-- Take the handlers of the root off the list that they are found on. -/
def unlist (l : Logging) : Logging := { l with unlisted := l.handlers.filterMap Handler.name }

/-- Is there a handler to be found under a name? -/
def isListed (l : Logging) (name : String) : Bool :=
  l.handlers.any (·.name = some name) && !l.unlisted.contains name

/-- Treat a logger that no section names: below a named one it loses its level, and
    elsewhere it is disabled or enabled. -/
def settle (disable : Json) (below : List String) (l : Logging) (name : String) : Logging :=
  match l.logger? name with
  | none => l
  | some logger =>
    if name ∈ below then l.setLogger name { logger with level := .unset }
    else l.setLogger name { logger with disabled := disable }

/-- Install the default handler after all others, in the place of an earlier one. -/
def installDefault (l : Logging) : Logging :=
  { l with
    handlers := l.handlers.filter (·.name ≠ some defaultHandlerName) ++ [defaultHandler]
    unlisted := l.unlisted.filter (· ≠ defaultHandlerName) }

/-- Is the version of a configuration the one that is supported? -/
def isSupported : Json → Bool
  | .int n => n = 1
  | .bool b => b
  | .float x => x == 1.0
  | _ => false

end Logging

/-- What a configuration has made by the time when loggers are configured. -/
structure Made where
  filters : List String := []
  handlers : List Handler := []

namespace Settings

open Launch

/-! ## The parts of a configuration -/

/-- The setting under a name in a section, or null. -/
def getIn (s : Settings) (name : String) : Setting → Launch Setting
  | .inside (.object fields) => s.value ((fields.lookup name).getD .null)
  | .inside (.array _) => fail (Error.noAttribute (.value "ConvertingList") "get")
  | .inside v => fail (Error.noAttribute (.value v.typeName) "get")
  | .outside (.value (.object fields) _) =>
    pure (.outside (.plain ((fields.lookup name).getD .null)))
  | .outside (.attributes keeper) => do
    pure (.outside (((← get).imports.binding? keeper name).getD (.plain .null)))
  | .outside o => do
    let getter ← attributeOf o "get"
    fail (getter.misfit 2)

/-- The configuration with a field that is empty if it leaves it out. -/
def withSection (s : Settings) (name : String) : Settings := s.withDefault (name, .object [])

/-- The level that a section of a configuration gives. -/
def sectionLevel (s : Settings) (section_ : Setting) : Launch (Option Level) := do
  let level ← s.getIn "level" section_
  lift (level.level? (← get).imports)

/-- Refuse a list that stands where loggers are named, by the number of an item. Zero is as good
    as no name, so its item is asked for a level; other numbers are no names. -/
def refuseNumbered (s : Settings) (items : List Setting) (n : Int) : Launch Unit := do
  let place := if n < 0 then n + items.length else n
  match (if place < 0 then none else items[place.toNat]?) with
  | none => fail Error.outsideList
  | some v =>
    let v ← settle s.value v
    if n = 0 then fail (Error.noAttribute (.value ((v.value?.map Json.typeName).getD "object")) "get")
    else fail Error.loggerNameType

/-- Refuse a list that stands where loggers are named. What it lists is taken for names, and a
    whole number finds an item. -/
def refuseItem (s : Settings) (items : List Setting) (item : Json) : Launch Unit :=
  match item with
  | .int n => s.refuseNumbered items n
  | .bool b => s.refuseNumbered items (if b then 1 else 0)
  | v => fail (Error.listKeyType v.typeName)

/-- Refuse what stands where loggers are named and lists values or the characters of a text. An
    empty one names nothing. -/
def refuseItems (s : Settings) (make : Json → Setting) : Json → Launch Unit
  | .array [] | .string "" => pure ()
  | .array (item :: items) =>
    explained (fun _ => .loggerNotConfigured item.shown) (s.refuseItem ((item :: items).map make) item)
  | .string text =>
    explained (fun _ => .loggerNotConfigured (Text.quoted (String.ofList (text.toList.take 1))))
      (fail (Error.textKeyType "str"))
  | v => fail (Error.notIterable v.typeName)

/-- The sections of a field, by name. A list or a text is taken for names without sections, and
    refused if there are any. -/
def sectionsIn (refuse : (Json → Setting) → Json → Launch Unit) :
    Setting → Launch (List (String × Setting))
  | .inside (.object sections) => pure (sections.map fun (name, v) => (name, .inside v))
  | .inside v => do
    refuse .inside v
    pure []
  | .outside (.value (.object sections) _) =>
    pure (sections.map fun (name, v) => (name, .outside (.plain v)))
  | .outside (.value v _) => do
    refuse (fun v => .outside (.plain v)) v
    pure []
  | .outside (.attributes keeper) =>
    return ((← get).imports.bindingsOf keeper).map fun (name, o) => (name, .outside o)
  | .outside o => fail (Error.notIterable o.typeName)

/-- The sections of a field of a configuration, by name. -/
def sections (s : Settings) (name : String) (refuse : (Json → Setting) → Json → Launch Unit) :
    Launch (List (String × Setting)) := do
  sectionsIn refuse ((← s.get? name).getD (.inside (.object [])))

/-! ## Formatters, filters and handlers -/

/-- The error of taking the item of a list for the name of a part. A whole number finds an item, but
    not one that is a section. -/
def partError (items : List Json) : Json → Error
  | .int n => if n < -items.length ∨ (items.length : Int) ≤ n then .outsideList else .notIterable "int"
  | .bool b => if items.length ≤ b.toNat then .outsideList else .notIterable "bool"
  | v => .listKeyType v.typeName

/-- Refuse the first of several names that are none, as it is shown, by its error. -/
def refuseFirst (kind : PartKind) : Option (String × Error) → Launch Unit
  | some (shown, e) => explained (fun _ => .partNotConfigured kind.word shown) (fail e)
  | none => pure ()

/-- Refuse what stands where parts are named and lists values or the characters of a text. Handlers
    are taken in the order of their names. -/
def refuseParts (kind : PartKind) : Json → Launch Unit
  | .array items =>
    match if kind = .handler then Sorting.sort Json.less items else (items, none) with
    | (_, some e) => fail e
    | (ordered, none) =>
      refuseFirst kind (ordered.head?.map fun item => (item.shown, partError items item))
  | .string text =>
    let ordered := if kind = .handler then text.toList.mergeSort else text.toList
    refuseFirst kind (ordered.head?.map fun c =>
      (Text.quoted (String.singleton c), .textKeyType "str"))
  | v => fail (Error.notIterable v.typeName)

/-- Make the parts of a kind that sections name, one after another. A handler of which nothing is
    given has no class. -/
def makeEach (s : Settings) (kind : PartKind) (parts : List Part) :
    List (String × Setting) → Launch Unit
  | [] => pure ()
  | (name, section_) :: rest => do
    explained (fun _ => .partNotConfigured kind.word (Text.quoted name)) do
      let _ ← settle s.value section_
      match parts.find? fun part => part.kind = kind && part.name = name with
      | some part => performActions name part.making
      | none => if kind = .handler then fail (Error.unknownKey (Text.quoted "class"))
    s.makeEach kind parts rest

/-- Make the parts of a kind, handlers in the order of their names. The answer is their names. -/
def makeParts (s : Settings) (kind : PartKind) (parts : List Part) : Launch (List String) := do
  let sections ← s.sections kind.field fun _ => refuseParts kind
  let sections := if kind = .handler then sections.mergeSort (·.1 ≤ ·.1) else sections
  s.makeEach kind parts sections
  pure (sections.map Prod.fst)

/-- A handler that has been made. -/
def handlerNamed (parts : List Part) (name : String) : Handler :=
  let writes := parts.any fun part => part.kind = .handler && part.name = name && part.writes
  { name := some name, kind := if writes then .standard else .silent }

/-- The items that going through a setting comes to. -/
def itemsOf (i : Imports) : Setting → Except Error (List Json)
  | .inside (.array items) | .outside (.value (.array items) _) => .ok items
  | .inside (.string text) | .outside (.value (.string text) _) =>
    .ok (text.toList.map fun c => .string (String.singleton c))
  | .inside (.object fields) | .outside (.value (.object fields) _) =>
    .ok (fields.map fun (name, _) => .string name)
  | .inside v => .error (.notIterable v.typeName)
  | .outside (.attributes keeper) => .ok ((i.bindingsOf keeper).map fun (name, _) => .string name)
  | .outside o => .error (.notIterable o.typeName)

/-- Add what has been made under the names that are listed, one after another. -/
def addEach (kind : PartKind) (made : List α) (named : α → String → Bool) (add : α → Launch Unit) :
    List Json → Launch Unit
  | [] => pure ()
  | item :: items => do
    explained (fun _ => .partNotAdded kind.word item.shown) do
      match item with
      | .string name =>
        match made.find? (named · name) with
        | some a => add a
        | none => fail (Error.unknownKey (Text.quoted name))
      | .array _ | .object _ =>
        fail (Error.raised .type ("unhashable type: " ++ Text.quoted item.typeName))
      | v => fail (Error.unknownKey v.shown)
    addEach kind made named add items

/-- Add what a section lists in a field. -/
def addListed (s : Settings) (kind : PartKind) (made : List α) (named : α → String → Bool)
    (add : α → Launch Unit) (section_ : Setting) : Launch Unit := do
  let listed ← s.getIn kind.field section_
  if listed.isSubstantial then
    addEach kind made named add (← check (itemsOf (← get).imports listed))

/-! ## Configuring -/

/-- Configure a logger or the root by its section. An incremental configuration, which has nothing
    made, sets the level only. -/
def configureSection (s : Settings) (made : Option Made) (name : String) (section_ : Setting) :
    Launch Unit := do
  let level ← s.sectionLevel section_
  changeLogging (·.setLevel name level)
  if let some made := made then
    changeLogging (·.dropHandlers name)
    s.addListed .handler made.handlers (fun h n => h.name = some n)
      (fun h => changeLogging (·.addHandler name h)) section_
    s.addListed .filter made.filters (· = ·) (fun _ => pure ()) section_

/-- Go through the sections for loggers. `left` are the names that were known before and
    have not come up; `below` are those of them below a name that has. A section that stands
    for nothing leaves its logger as it is; a bad level comes up when the logger is there. -/
def configureLoggers (s : Settings) (made : Option Made) :
    List (String × Setting) → (left below : List String) → Launch (List String × List String)
  | [], left, below => pure (left, below)
  | (name, section_) :: rest, left, below => do
    let (left, below) :=
      if name ∈ left then
        (left.erase name, below ++ left.filter (Text.startsWith · (name ++ ".")))
      else (left, below)
    explained (fun _ => .loggerNotConfigured (Text.quoted name)) do
      let section_ ← settle s.value section_
      changeLogging (·.ensure name)
      s.configureSection made name section_
      changeLogging (·.enable name)
      let _ ← s.getIn "propagate" section_
    configureLoggers s made rest left below

/-- Configure the root by its section, if there is anything in it. -/
def applyRoot (s : Settings) (made : Option Made) : Launch Unit := do
  match ← s.get? "root" with
  | none => pure ()
  | some section_ =>
    if section_.isSubstantial then
      explained (fun _ => .rootNotConfigured) (s.configureSection made "" section_)

/-- Configure the loggers, those that are named and those that are not. -/
def applyLoggers (s : Settings) (made : Made) (disable : Json) : Launch Unit := do
  let known := (← get).logging.known.map Prod.fst
  let sections ← s.sections "loggers" s.refuseItems
  let (left, below) ← s.configureLoggers (some made) sections known []
  changeLogging fun l => left.foldl (Logging.settle disable below) l

/-- A setting as it is read for the second time: what was found outside stands in the
    configuration by then. -/
def reread (s : Settings) : Setting → Launch Setting
  | .outside (.value v _) => s.value v
  | v => pure v

/-- Check the version of a configuration. One that is not supported is read again for the
    message. -/
def checkVersion (s : Settings) : Launch Unit := do
  let version := (← s.get? "version").getD (.inside .null)
  if (version.value?.map Logging.isSupported).getD false then pure ()
  else
    let version ← s.reread version
    fail (Error.unsupportedVersion (version.display (← get).imports))

/-- Apply a configuration that replaces what there is. Whether to disable the loggers that are not
    named is read first, and nothing else can refer to it. An object that is no value disables
    them. -/
def replaceAll (s : Settings) (parts : List Part) : Launch Unit := do
  let disable ← (s.without "disable_existing_loggers").value
    ((s.lookup "disable_existing_loggers").getD (.bool true))
  changeLogging Logging.unlist
  let s := (s.without "disable_existing_loggers").withSection "formatters"
  let _ ← s.makeParts .formatter parts
  let s := s.withSection "filters"
  let filters ← s.makeParts .filter parts
  let s := s.withSection "handlers"
  let handlers ← s.makeParts .handler parts
  let made : Made := { filters, handlers := handlers.map (handlerNamed parts) }
  let s := s.withSection "loggers"
  s.applyLoggers made (disable.value?.getD (.bool true))
  s.applyRoot (some made)

/-! ## Adjusting -/

/-- Refuse what stands where handlers are to be adjusted. -/
def refuseNames : Json → Launch Unit
  | .array [] | .string "" => pure ()
  | .array (item :: _) => fail (Error.unknownHandler item.shown)
  | .string text => fail (Error.unknownHandler (Text.quoted (String.ofList (text.toList.take 1))))
  | v => fail (Error.notIterable v.typeName)

/-- Go through the sections for handlers, which have to be there, and check their levels. -/
def adjustHandlers (s : Settings) : List (String × Setting) → Launch Unit
  | [] => pure ()
  | (name, section_) :: rest => do
    if !(← get).logging.isListed name then fail (Error.unknownHandler (Text.quoted name))
    explained (fun _ => .partNotConfigured "handler" (Text.quoted name)) do
      let level ← s.getIn "level" (← settle s.value section_)
      if level.isSubstantial then
        let _ ← lift (level.level? (← get).imports)
    s.adjustHandlers rest

/-- Apply an incremental configuration: levels alone are set. -/
def adjustLevels (s : Settings) : Launch Unit := do
  let s := s.withSection "handlers"
  s.adjustHandlers (← s.sections "handlers" fun _ => refuseNames)
  let s := s.withSection "loggers"
  let sections ← s.sections "loggers" s.refuseItems
  let _ ← s.configureLoggers none sections [] []
  s.applyRoot none

end Settings

/-! ## Configuration files -/

/-- What a configuration file holds: its fields, and the parts that it has made. -/
structure Configuration where
  fields : Settings := []
  parts : List Part := []

/-- Apply a configuration. Whether it is incremental is read before anything else is done, and
    nothing else can refer to that. -/
def Configuration.apply (c : Configuration) : Launch Unit := do
  let s := c.fields.withDefault ("version", .int 1)
  s.checkVersion
  let rest := s.without "incremental"
  let incremental ← rest.value ((s.lookup "incremental").getD (.bool false))
  if incremental.isSubstantial then rest.adjustLevels else rest.replaceAll c.parts

namespace Host

/-- The path that a text names, with or without `file:` in front. -/
def configText (text : String) : String := (Text.after? "file:" text).getD text

/-- The configuration file that a value names, if there is such a file. -/
def configFile? (h : Host) (value : PathValue) : Except Fault (Option Path) :=
  match value with
  | .text s =>
    let text := configText s
    if text = "" then .ok none
    else
      match h.isFile (.ofText text) with
      | .error f => .error f
      | .ok false => .ok none
      | .ok true => .ok (some (.ofText text))
  | .octets _ => .error (Error.octetsPrefix : Error)
  | .other .null => .ok none
  | .other v => .error (Error.notPathLike v.typeName : Error)

/-- What a configuration file holds. An empty one has no fields. -/
def readConfig (h : Host) (p : Path) : Except Fault Configuration :=
  match h.stat p.text with
  | .error .nul => .error (Error.embeddedNul : Error)
  | .error (.errno e) => .error (Error.system e p.text : Error)
  | .ok n =>
    if !n.readable then .error (Error.system .denied p.text : Error)
    else
      match n.kind with
      | .file (.parsed v) =>
        if !v.isSubstantial then .ok {}
        else
          match v with
          | .object fields => .ok { fields, parts := n.parts }
          | _ => .error (Error.configurationType p.text : Error)
      | _ => .error (Error.malformedYaml : Error)

end Host

namespace Launch

/-! ## Configuring logging -/

/-- Apply the configuration file that a value names. The answer says whether there is one. -/
def applyConfig (value : PathValue) : Launch Bool := do
  let h := (← get).host
  match ← lift (h.configFile? value) with
  | none => pure false
  | some p =>
    (← lift (h.readConfig p)).apply
    pure true

/-- Install the default handler and set the level of the root. A bad level is found out
    when the handler is in place. -/
def setUpLogging (level : Json) : Launch Unit := do
  changeLogging (·.installDefault)
  let level ← lift (Level.ofJson (Level.upperCase level))
  changeLogging ({ · with root := level })

/-- Configure logging by a file, or by a level if there is no such file. The answer says whether
    there is one. -/
def configureLogging (level : Json) (config : Option PathValue) : Launch Bool := do
  let byFile ← match config with
    | none => pure false
    | some value => applyConfig value
  if byFile then pure true
  else do
    setUpLogging level
    pure false

end Launch

end Launcher
