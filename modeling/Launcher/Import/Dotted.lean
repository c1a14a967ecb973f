-- SUMMARY: Objects by dotted names, with modules imported on the way.
import Launcher.Import.Loading

/-!
# Dotted names

The first piece of a dotted name is a module, which is imported. Each further piece is an
attribute of what was found before; where it is missing, a module of the name so far is
imported, and the attribute looked up again.
-/
namespace Launcher.Launch

/-- Carry out a computation while an error is being handled. -/
def handling (e : Error) (x : Launch α) : Launch α :=
  tryCatch x fun
    | .fault f => fail (f.during e)
    | other => throw other

/-- The error that a computation ends in as the cause of another one. Any other end passes
    through. -/
def explained (e : Fault → Error) (x : Launch α) : Launch α :=
  rescue .exception x fun f => fail (.because (e f) f)

/-- The attribute of an object. If it is missing, a module is imported before it is looked up
    again. -/
def attributeOrModule (o : Object) (moduleName piece : String) : Launch Object :=
  rescue .missingAttribute (attributeOf o piece) fun f =>
    handling f.error do
      let _ ← importModule moduleName
      attributeOf o piece

/-- Look pieces up one after another. The name so far is `used`. -/
def pieces (o : Object) (used : String) : List String → Launch Object
  | [] => pure o
  | piece :: rest => do
    let used := used ++ "." ++ piece
    pieces (← attributeOrModule o used piece) used rest

/-- The object of a dotted name. An error about importing is reported with the name. -/
def dotted (name : String) : Launch Object :=
  rescue .importing (do
    let (first, rest) := match Text.pieces "." name with
      | first :: rest => (first, rest)
      | [] => ("", [])
    let _ ← importModule first
    pieces (.module first) first rest) fun f =>
      fail (.because (.unresolvedReference name f.message) f)

end Launcher.Launch
