-- SUMMARY: The manual of the members of types.
import Launcher.Object.Manual.Container
import Launcher.Object.Manual.Kind
import Launcher.Object.Manual.Number
import Launcher.Object.Manual.Operation
import Launcher.Object.Manual.Text

/-!
# The manual

A member is looked up under its type, and an operation among the operations.
-/
namespace Launcher.Manual

/-- The entries of a type. -/
def ofType : String → List Entry
  | "object" => ofObjects
  | "int" => ofWholeNumbers
  | "float" => ofFractions
  | "str" => ofTexts
  | "list" => ofLists
  | "dict" => ofMappings
  | "tuple" => ofFixedLists
  | "mappingproxy" => ofFixedMappings
  | "type" => ofTypes
  | "function" => ofFunctions
  | "module" => ofModules
  | "code" => ofCode
  | "method" => ofAttached
  | "property" => ofProperties
  | "ModuleSpec" => ofSpecifications
  | _ => []

/-- The entry of a member of a type. -/
def onMember? (type name : String) : Option Entry :=
  find? (ofType type) name <|> find? ofOperations name

/-- How a member of a type is called. -/
def arguments? (type name : String) : Option String := (onMember? type name).bind Entry.arguments

/-- What a member of a type does. -/
def text? (type name : String) : Option String := (onMember? type name).bind Entry.text?

end Launcher.Manual
