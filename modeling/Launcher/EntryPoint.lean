-- SUMMARY: Names of entry points, how they are read, and what they refer to.
import Launcher.Import.Loading

/-!
# Entry points

An entry point is a module and a dotted path of attributes in it. The two are separated by
a colon; without one, or with nothing after it, by the last dot.
-/
namespace Launcher

/-- A module, and the dotted path of attributes in it. -/
structure EntryPoint where
  moduleName : String
  path : String
  deriving DecidableEq, Repr

namespace EntryPoint

/-- The parts of a name around its last dot. -/
def ofDotted (name : String) : String × String :=
  (Text.beforeAfterLast '.' name).getD ("", name)

/-- The parts of a name. -/
def partsOf (name : String) : String × String :=
  match Text.beforeAfterFirst ':' name with
  | some (moduleName, path) => if path = "" then ofDotted name else (moduleName, path)
  | none => ofDotted name

/-- The entry point that a name denotes. Both parts have to be there. -/
def ofName? (name : String) : Option EntryPoint :=
  let (moduleName, path) := partsOf name
  if moduleName = "" ∨ path = "" then none else some ⟨moduleName, path⟩

/-- The attributes to look up, one after another. -/
def attributes (e : EntryPoint) : List String := Text.pieces "." e.path

end EntryPoint

namespace Launch

/-- Make a loader active. -/
def activate (id : Nat) : Launch Unit :=
  modify fun w => { w with imports := w.imports.activate id }

/-- Take a loader out of the finders. -/
def deactivate (id : Nat) : Launch Unit :=
  modify fun w => { w with imports := w.imports.deactivate id }

/-- Look attributes up one after another. -/
def walk (o : Object) : List String → Launch Object
  | [] => pure o
  | name :: names => do
    let next ← attributeOf o name
    walk next names

/-- Find what a name refers to, with the loader of a context made active. An attribute that is
    missing is a matter of the entry point. -/
def resolve (id : Nat) (name : String) : Launch Object := do
  match EntryPoint.ofName? name with
  | none => fail (Error.invalidEntryPoint name : Error)
  | some e =>
    activate id
    let _ ← importModule e.moduleName
    rescue .missingAttribute (walk (.module e.moduleName) e.attributes) fun f =>
      fail (.because (.missingEntryPoint e.moduleName e.path name) f)

end Launch

end Launcher
