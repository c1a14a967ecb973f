-- SUMMARY: Loaded modules and what they have, the finders that modules are looked for with, and the current loader.
import Launcher.Object.Inherent

/-!
# The state of importing

A loaded module keeps its attributes in a mapping, in the order in which they came, and so
does the record of where it came from. What an attribute refers to is looked up here.

Each launch context has a loader, known by the number of the context. A loader that is
active stands among the finders, after those of the host. The current loader is the one
that was made active last, unless it has been taken out since.
-/
namespace Launcher

/-! ## Bindings -/

/-- Objects by name, in the order in which the names came. -/
abbrev Bindings := List (String × Object)

/-- Give a name an object: in its old place, or at the end. -/
def Bindings.set : Bindings → String → Object → Bindings
  | [], name, o => [(name, o)]
  | (n, old) :: rest, name, o =>
    if n = name then (name, o) :: rest else (n, old) :: set rest name o

/-! ## Values inside attributes -/

/-- Put a value in the place of another one further down in an attribute. -/
def Attribute.replace : List String → Json → Attribute → Attribute
  | [], v, .value _ => .value v
  | [name], v, .class (.mk init (some (.value old)) attributes watch instanceWatch) =>
    if name = "start" then .class (.mk init (some (.value v)) attributes watch instanceWatch)
    else
      .class (.mk init (some (.value old)) (attributes.map fun (n, a) =>
        if n = name then (n, a.replace [] v) else (n, a)) watch instanceWatch)
  | name :: path, v, .class (.mk init start attributes watch instanceWatch) =>
    .class (.mk init start (attributes.map fun (n, a) =>
      if n = name then (n, a.replace path v) else (n, a)) watch instanceWatch)
  | _, _, a => a

/-- Put a value in the place of another one further down in an object. -/
def Object.replace (path : List String) (v : Json) : Object → Object
  | .value old place => if path = [] then .value v place else .value old place
  | .class moduleName names body =>
    match (Attribute.class body).replace path v with
    | .class body => .class moduleName names body
    | _ => .class moduleName names body
  | o => o

/-! ## Loaded modules -/

/-- A module that has been loaded, or is being loaded. Its submodules are looked for at its
    locations. Once it is loaded it can act when its attributes are looked up. -/
structure LoadedModule where
  origin : String
  attributes : Bindings
  record : Bindings := []
  locations : List Json := []
  watch : Watch := []

namespace LoadedModule

/-- The name of the package that a module of this name belongs to. A package belongs to itself. -/
def packageOf (name : String) (isPackage : Bool) : String :=
  if isPackage then name else ((Text.beforeAfterLast '.' name).map Prod.fst).getD ""

/-- The attributes of a module before anything has been done in it. -/
def attributesOf (name : String) (isPackage : Bool) (locations : Object) : Bindings :=
  [("__name__", .text name), ("__doc__", .plain .null),
    ("__package__", .text (packageOf name isPackage)), ("__loader__", .other "object"),
    ("__spec__", .specification name)] ++
  if isPackage then [("__path__", locations)] else []

/-- The record of where a module came from. -/
def recordOf (name origin : String) (isPackage : Bool) (locations : Object) : Bindings :=
  [("name", .text name), ("loader", .other "object"), ("origin", .text origin),
    ("loader_state", .plain .null),
    ("submodule_search_locations", if isPackage then locations else .plain .null),
    ("_uninitialized_submodules", .plain (.array [])), ("_set_fileattr", .plain (.bool false)),
    ("_cached", .plain .null), ("_initializing", .plain (.bool false))]

/-- A module as it is before anything has been done in it. A package looks for its submodules
    where it came from. -/
def new (name origin : String) (isPackage : Bool) : LoadedModule :=
  let locations : Object := .value (.strings [origin]) (some (.locations name))
  { origin
    attributes := attributesOf name isPackage locations
    record := recordOf name origin isPackage locations
    locations := [.string origin] }

/-- The module with an attribute that refers to an object. -/
def bind (m : LoadedModule) (name : String) (o : Object) : LoadedModule :=
  { m with attributes := m.attributes.set name o }

end LoadedModule

/-! ## Finders -/

/-- What modules are looked for with: a finder of the host, which has paths of its own, or the
    loader of a context. -/
inductive Finder where
  | host (name : String) (paths : List String := [])
  | loader (id : Nat)
  deriving DecidableEq, Repr

/-- The loaded modules, the finders in order, and the current loader. -/
structure Imports where
  modules : List (String × LoadedModule) := []
  finders : List Finder := []
  current : Option Nat := none

namespace Imports

/-- Is a loader among the finders? -/
def isActive (i : Imports) (id : Nat) : Bool := i.finders.contains (.loader id)

/-- Put a loader at the end of the finders, unless it is there, and make it the current one. -/
def activate (i : Imports) (id : Nat) : Imports :=
  { i with
    finders := if i.isActive id then i.finders else i.finders ++ [.loader id]
    current := some id }

/-- Take a loader out of the finders. -/
def deactivate (i : Imports) (id : Nat) : Imports :=
  { i with
    finders := i.finders.filter (· ≠ .loader id)
    current := if i.current = some id then none else i.current }

/-- The loaders among the finders, in order. -/
def loaders (i : Imports) : List Nat :=
  i.finders.filterMap fun
    | .loader id => some id
    | .host .. => none

/-! ## Modules -/

/-- The loaded module with a name. -/
def module? (i : Imports) (name : String) : Option LoadedModule := i.modules.lookup name

/-- Set a module. -/
def setModule (i : Imports) (name : String) (m : LoadedModule) : Imports :=
  { i with modules := (name, m) :: i.modules.filter (·.1 ≠ name) }

/-- Change a module, if it is loaded. -/
def changeModule (i : Imports) (name : String) (change : LoadedModule → LoadedModule) : Imports :=
  match i.module? name with
  | some m => i.setModule name (change m)
  | none => i

/-- Forget a module. -/
def forget (i : Imports) (name : String) : Imports :=
  { i with modules := i.modules.filter (·.1 ≠ name) }

/-- Give an attribute of a loaded module a new object. -/
def bind (i : Imports) (moduleName name : String) (o : Object) : Imports :=
  i.changeModule moduleName (·.bind name o)

/-- Set an attribute of a loaded module. What a module is and its mapping cannot be set. -/
def setAttribute (i : Imports) (moduleName name : String) (o : Object) : Except Error Imports :=
  if name = "__class__" then
    .error (if o.typeItself?.isSome then .immutableType else .replacedType o.typeName)
  else if name = "__dict__" then .error .fixedAttribute
  else .ok (i.bind moduleName name o)

/-- Put a value where another one stands. -/
def store (i : Imports) (place : Place) (v : Json) : Imports :=
  match place with
  | .locations moduleName =>
    match v with
    | .array items => i.changeModule moduleName ({ · with locations := items })
    | _ => i
  | .attribute _ [] => i
  | .attribute moduleName (name :: path) =>
    match (i.module? moduleName).bind (·.attributes.lookup name) with
    | some o => i.bind moduleName name (o.replace path v)
    | none => i

/-! ## Mappings -/

/-- What a keeper has in its mapping. -/
def bindingsOf (i : Imports) : Keeper → Bindings
  | .module name => ((i.module? name).map LoadedModule.attributes).getD []
  | .specification name => ((i.module? name).map LoadedModule.record).getD []

/-- Give a keeper another mapping. -/
def setBindings (i : Imports) (keeper : Keeper) (bindings : Bindings) : Imports :=
  match keeper with
  | .module name => i.changeModule name ({ · with attributes := bindings })
  | .specification name => i.changeModule name ({ · with record := bindings })

/-- An object as it is by now: locations change under all their names. -/
def refresh (i : Imports) : Object → Object
  | .value v (some (.locations moduleName)) =>
    match i.module? moduleName with
    | some m => .value (.array m.locations) (some (.locations moduleName))
    | none => .value v (some (.locations moduleName))
  | o => o

/-- What a keeper has been given under a name. -/
def binding? (i : Imports) (keeper : Keeper) (name : String) : Option Object :=
  ((i.bindingsOf keeper).lookup name).map i.refresh

/-! ## Looking up -/

/-- What a record says of the package that its module belongs to. -/
def parentOnRecord? (i : Imports) (moduleName : String) : Option Object :=
  let binding := i.binding? (.specification moduleName)
  match binding "submodule_search_locations", binding "name" with
  | some (.value .null _), some (.value (.string name) _) => some (.text (LoadedModule.packageOf name false))
  | some _, name => name
  | none, _ => none

/-- What an object says of itself under the name of a datum of its type. -/
def datum? (i : Imports) (o : Object) (name : String) : Option Object :=
  match o, name with
  | .module m, "__dict__" => some (.attributes (.module m))
  | .module m, "__annotations__" =>
    some ((i.binding? (.module m) "__annotations__").getD (.plain (.object [])))
  | .specification m, "__dict__" => some (.attributes (.specification m))
  | .specification _, "__weakref__" => some (.plain .null)
  | .specification m, "cached" => i.binding? (.specification m) "_cached"
  | .specification m, "has_location" => i.binding? (.specification m) "_set_fileattr"
  | .specification m, "parent" => i.parentOnRecord? m
  | o, name => some ((o.datum? name).getD (.other "object"))

/-- What an object has been given under a name, if it keeps what it is given. -/
def given? (i : Imports) (o : Object) (name : String) : Option Object :=
  match o with
  | .module m => i.binding? (.module m) name
  | .specification m => i.binding? (.specification m) name
  | _ => none

/-- The attribute of an object. Data of its type come first, then what it has been given, then
    the other members of its type. -/
def attribute? (i : Imports) (o : Object) (name : String) : Option Object :=
  if o.typeItself?.isSome then o.typeAttribute? name
  else
    match Members.resolve? o.typeName name with
    | some (_, .datum _) => i.datum? o name
    | found =>
      i.given? o name <|> found.map (fun (owner, m) => o.bound owner name m) <|> o.typeSummary? name

/-- The error of an attribute that an object does not have. A module can have something to be
    called for it. -/
def missing (i : Imports) (o : Object) (name : String) : Error :=
  match o, o.typeItself? with
  | _, some typeName => Object.missingInType typeName name
  | .module m, none =>
    match i.binding? (.module m) "__getattr__" with
    | some hook => hook.misfit 1
    | none =>
      match i.binding? (.module m) "__name__" with
      | some (.value (.string moduleName) _) => .noAttribute (.module (some moduleName)) name
      | _ => .noAttribute (.module none) name
  | o, none => .noAttribute (.value o.typeName) name

/-- The attribute that an object has by itself. A function together with its first argument has
    what the function has besides. -/
def ownAttribute (i : Imports) : Object → String → Except Error Object
  | .attached function subject, name =>
    match i.attribute? (.attached function subject) name with
    | some a => .ok a
    | none => i.ownAttribute function name
  | o, name =>
    match i.attribute? o name with
    | some a => .ok a
    | none => .error (i.missing o name)

/-- What is done when an attribute of an object is looked up, and under which label. -/
def watch? (i : Imports) (o : Object) (name : String) : Option (String × List Action) :=
  match o with
  | .module m =>
    ((i.module? m).bind (·.watch.lookup name)).map fun actions => (m, actions)
  | .class moduleName path body =>
    (body.watch.lookup name).map fun actions => (labelOf moduleName (lastOf path), actions)
  | _ => none

/-! ## Showing -/

/-- A module as a text in a message, with where it came from. -/
def shownModule (i : Imports) (moduleName : String) : String :=
  let binding := i.binding? (.specification moduleName)
  match binding "name", binding "origin" with
  | some (.value name _), some (.value origin _) =>
    "<module " ++ name.shown ++ " (" ++ origin.display ++ ")>"
  | _, _ => "<module " ++ Text.quoted moduleName ++ ">"

/-- An object as a text in a message. -/
def shown (i : Imports) : Object → String
  | .value v _ => v.shown
  | .class moduleName path body =>
    "<class '" ++ moduleName ++ "." ++ body.qualifiedName (lastOf path) ++ "'>"
  | .type name => "<class '" ++ name ++ "'>"
  | .module name => i.shownModule name
  | o => "<" ++ o.typeName ++ " object>"

/-- The fields of a mapping, if all that it has are values. -/
def fieldsOf? : Bindings → Option (List (String × Json))
  | [] => some []
  | (name, .value v _) :: rest => (fieldsOf? rest).map ((name, v) :: ·)
  | _ :: _ => none

/-- What an object is, as a value to be shown. -/
def describe (i : Imports) (o : Object) : Json :=
  match o with
  | .value v _ => .object [("v", v)]
  | .module m =>
    match i.binding? (.module m) "__name__" with
    | some (.value name _) => .object [("module", name)]
    | _ => .object [("module", .string m)]
  | .attributes keeper => .object [("v", ((fieldsOf? (i.bindingsOf keeper)).map Json.object).getD .null)]
  | o =>
    match o.typeItself?, o.routineName? with
    | some name, _ => .object [("class", .string name)]
    | none, some name => .object [("func", .string name)]
    | none, none => .object [("v", .null)]

/-! ## What changes keep -/

@[simp] theorem activate_current (i : Imports) (id : Nat) : (i.activate id).current = some id := rfl

@[simp] theorem activate_modules (i : Imports) (id : Nat) : (i.activate id).modules = i.modules :=
  rfl

theorem isActive_activate (i : Imports) (id : Nat) : (i.activate id).isActive id = true := by
  by_cases h : Finder.loader id ∈ i.finders <;> simp [activate, isActive, h]

@[simp] theorem changeModule_finders (i : Imports) (name : String)
    (change : LoadedModule → LoadedModule) : (i.changeModule name change).finders = i.finders := by
  unfold changeModule
  split <;> rfl

@[simp] theorem changeModule_current (i : Imports) (name : String)
    (change : LoadedModule → LoadedModule) : (i.changeModule name change).current = i.current := by
  unfold changeModule
  split <;> rfl

theorem store_finders (i : Imports) (place : Place) (v : Json) :
    (i.store place v).finders = i.finders := by
  unfold store bind
  split
  · split <;> simp
  · rfl
  · split <;> simp

theorem store_current (i : Imports) (place : Place) (v : Json) :
    (i.store place v).current = i.current := by
  unfold store bind
  split
  · split <;> simp
  · rfl
  · split <;> simp

end Imports

end Launcher
