-- SUMMARY: Finding modules on the search paths, loading them, and performing the actions of application code.
import Launcher.World

/-!
# Importing modules

A module is found at the first search path that provides it; a submodule only at the places
that its parent has under `__path__`. Importing a name imports the names above it first. What
is being loaded counts as loaded, and a module whose loading fails is forgotten.
-/
namespace Launcher

/-! ## Names -/

/-- The names above a dotted name and the name itself, longest first. -/
def lineage : Nat → List Char → List (List Char)
  | 0, name => [name]
  | n + 1, name =>
    match Text.cutLast '.' name with
    | none => [name]
    | some ([], _) => [name]
    | some (above, _) => name :: lineage n above

/-- The names to import for a dotted name, longest first. -/
def importNames (name : String) : List String :=
  (lineage name.length name.toList).map String.ofList

/-! ## Finding -/

/-- The module that a path provides under a name, and whether it is a package. -/
def Host.provides (h : Host) (path name : String) : Option (ModuleBody × Bool) :=
  match h.stat path with
  | .ok n =>
    if n.readable then
      (n.modules.lookup name).map fun body => (body, Modules.isPackage n.modules name)
    else none
  | .error _ => none

/-- The module that the first of several paths provides under a name, and that path. -/
def Host.provided? (h : Host) (paths : List String) (name : String) :
    Option (String × ModuleBody × Bool) :=
  paths.findSome? fun path => (h.provides path name).map fun found => (path, found)

/-- The first of several paths that provides a module. -/
def Host.provider? (h : Host) (paths : List String) (name : String) : Option String :=
  paths.find? fun path => (h.provides path name).isSome

/-- Where the loader of a context finds a module. It leaves submodules, for which a path is
    given, to the finders of the host. -/
def Context.findModule (c : Context) (h : Host) (name : String) (below : Bool) : Option String :=
  if below then none else h.provider? c.path.paths name

/-- Look for a module with the loader of a context. -/
def Launch.findModule (id : Nat) (name : String) (below : Bool) : Launch (Option String) := do
  let c ← Launch.context id
  pure (c.findModule (← get).host name below)

/-- The paths at which a finder looks for modules that have no module above them. -/
def World.pathsOf (w : World) : Finder → List String
  | .host _ paths => paths
  | .loader id =>
    match w.contexts[id]? with
    | some held => held.context.path.paths
    | none => []

/-- The paths of the finders, in order. -/
def World.searchPaths (w : World) : List String := w.imports.finders.flatMap w.pathsOf

/-- The number of module bodies that a file system holds. -/
def FileSystem.moduleCount (fs : FileSystem) : Nat :=
  fs.entries.foldl (fun n e => n + e.2.modules.length) 0

/-! ## Actions -/

namespace Action

/-- Perform an action under the label of the running code. Imports are left to `importer`,
    which answers where a module came from. -/
def perform (importer : String → Launch String) (label : String) : Action → Launch Unit
  | .addPath value => do
    Launch.addPath (← Launch.registered) value
    Launch.happen (.addedPath label)
  | .addUrl value => do
    Launch.addUrl (← Launch.registered) (.path value)
    Launch.happen (.addedUrl label)
  | .getHome => do
    let c ← Launch.context (← Launch.registered)
    Launch.happen (.home label (c.home.map Path.text))
  | .locators => do
    let c ← Launch.context (← Launch.registered)
    Launch.happen (.locators label c.path.paths)
  | .importing name => do
    let origin ← importer name
    Launch.happen (.imported label name origin)
  | .note text => Launch.happen (.noted label text)
  | .raise f => Launch.fail f
  | .exit code => throw (.exit code)
  | .interrupt => throw .interrupt
  | .attempt action =>
    Launch.rescue .exception (action.perform importer label) fun f =>
      Launch.happen (.caught label f.error.kind.name f.message)

/-- Perform actions in order. -/
def performAll (importer : String → Launch String) (label : String) : List Action → Launch Unit
  | [] => pure ()
  | action :: actions => do
    action.perform importer label
    performAll importer label actions

end Action

/-! ## Looking attributes up -/

/-- Let an object that watches for an attribute act on its being looked up. -/
def Launch.alert (importer : String → Launch String) (o : Object) (name : String) :
    Launch Unit := do
  match (← get).imports.watch? o name with
  | some (label, actions) => Action.performAll importer label actions
  | none => pure ()

/-- Look an attribute of an object up. An object that watches for it acts first. -/
def Launch.lookUp (importer : String → Launch String) (o : Object) (name : String) :
    Launch Object := do
  alert importer o name
  check ((← get).imports.ownAttribute o name)

/-! ## Loading -/

/-- Set an attribute of a module that is being loaded. A class has to be made for it first. -/
def setModuleAttribute (moduleName name : String) (a : Attribute) : Launch Unit := do
  match ClassBody.makingError? name a with
  | some e => Launch.fail e
  | none =>
    match (← get).imports.setAttribute moduleName name (.ofAttribute moduleName [name] a) with
    | .ok imports => Launch.changeImports fun _ => imports
    | .error e => Launch.fail e

/-- Load a module: perform its actions, then set its attributes. From then on it is watched. If
    that ends early, the module is forgotten. -/
def loadModule (importer : String → Launch String) (name origin : String) (body : ModuleBody)
    (isPackage : Bool) : Launch Unit := do
  Launch.changeImports (·.setModule name (.new name origin isPackage))
  Launch.happen (.loaded name)
  tryCatch (do
    Action.performAll importer name body.init
    body.attributes.forM fun (a, attr) => setModuleAttribute name a attr
    Launch.changeImports (·.changeModule name ({ · with watch := body.watch }))) fun raised => do
      Launch.changeImports (·.forget name)
      throw raised

/-- Look for a module at paths, and load it. -/
def findAndLoad (importer : String → Launch String) (paths : List String) (name : String) :
    Launch Unit := do
  match (← get).host.provided? paths name with
  | none => Launch.fail (Error.moduleNotFound name none : Error)
  | some (origin, body, isPackage) => loadModule importer name origin body isPackage

/-! ## Submodules -/

/-- The places that an object lists, if it is not null. What is not a text is no place. -/
def Object.places : Object → Except Error (Option (List String))
  | .value .null _ => .ok none
  | .value (.array items) _ => .ok (some (items.filterMap fun
    | .string s => some s
    | _ => none))
  | .value (.string s) _ => .ok (some (s.toList.map String.singleton))
  | .value (.object fields) _ => .ok (some (fields.map Prod.fst))
  | o => .error (.notIterable o.typeName)

/-- What a module has under `__path__`. One that has nothing there is no package. -/
def pathOfParent (importer : String → Launch String) (name parentName : String) : Launch Object :=
  Launch.rescue .missingAttribute (Launch.lookUp importer (.module parentName) "__path__") fun _ =>
    Launch.fail { error := .moduleNotFound name (some parentName), closed := true }

/-- Check that the record of a module can keep the submodules that are being loaded. -/
def checkRecord (importer : String → Launch String) (record : Object) : Launch Unit := do
  if record.isSubstantial then
    let _ ← Launch.lookUp importer record "_uninitialized_submodules"

/-- Make a submodule an attribute of its parent, if it can be set. -/
def bindSubmodule (parentName name : String) : Launch Unit := do
  match (← get).imports.setAttribute parentName (lastName name) (.module name) with
  | .ok imports => Launch.changeImports fun _ => imports
  | .error e => if e.isA .missingAttribute then pure () else Launch.fail e

/-- Find a submodule and load it; its parent has been imported. Where the parent does not say
    where, it is looked for as if it had no parent. -/
def findAndLoadBelow (importer : String → Launch String) (parentName name : String) :
    Launch Unit := do
  let listed ← pathOfParent importer name parentName
  let record ← Launch.lookUp importer (.module parentName) "__spec__"
  let paths := (← Launch.check listed.places).getD (← get).searchPaths
  let h := (← get).host
  if (h.provider? paths name).isSome then checkRecord importer record
  findAndLoad importer paths name
  bindSubmodule parentName name

/-- Import names, longest first: the ones above a name come before it. -/
def importChain (importer : String → Launch String) : List String → Launch Unit
  | [] => pure ()
  | name :: above => do
    if ((← get).imports.module? name).isNone then
      importChain importer above
      -- loading what is above may have loaded the name itself
      if ((← get).imports.module? name).isNone then
        match above.head? with
        | none => findAndLoad importer (← get).searchPaths name
        | some parentName => findAndLoadBelow importer parentName name

/-- Ask a module that is there whether it is still being loaded. One that has no answer is not. -/
def askLoading (importer : String → Launch String) (name : String) : Launch Unit :=
  Launch.rescue .missingAttribute (do
    let record ← Launch.lookUp importer (.module name) "__spec__"
    let _ ← Launch.lookUp importer record "_initializing") fun _ => pure ()

/-- Where a module came from that is there. -/
def originOf (name : String) : Launch String := do
  match (← get).imports.module? name with
  | some m => pure m.origin
  | none => Launch.fail (Error.moduleNotFound name none : Error)

/-- Import a name, with at most `depth` imports inside one another. The answer is where the module
    came from. -/
def importWithin : Nat → String → Launch String
  | 0, _ => Launch.fail (Error.tooDeep : Error)
  | depth + 1, name => do
    if name = "" then Launch.fail (Error.emptyModuleName : Error)
    else if Text.startsWith name "." then Launch.fail (Error.relativeImport name : Error)
    else
      if ((← get).imports.module? name).isSome then askLoading (importWithin depth) name
      importChain (importWithin depth) (importNames name)
      originOf name

/-- How many calls may go on inside one another. -/
def callLimit : Nat := 1000

/-- How many imports may go on inside the first one. A module that is loading is not loaded again,
    so no more modules load inside one another than there are; the other imports are made by calls,
    when attributes are looked up. -/
def World.importDepth (w : World) : Nat := w.host.files.moduleCount + callLimit

/-- The importer of a world. -/
def importer : Launch (String → Launch String) := do
  pure (importWithin ((← get).importDepth + 1))

/-- Import a module by its name. -/
def importModule (name : String) : Launch String := do
  (← importer) name

/-- Perform actions in order, under a label, outside of any module that is loading. -/
def performActions (label : String) (actions : List Action) : Launch Unit := do
  Action.performAll (← importer) label actions

/-- Look an attribute of an object up, outside of any module that is loading. -/
def attributeOf (o : Object) (name : String) : Launch Object := do
  Launch.lookUp (← importer) o name

end Launcher
