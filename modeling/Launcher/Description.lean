-- SUMMARY: Worlds described as JSON: files, modules, variables and the rest, read into values of the library.
import Launcher.Json.Reader
import Launcher.World

/-!
# Described worlds

A world is described by a JSON object. Every field may be left out. Files are given as a
list of entries with a path, a kind and options; a directory that an entry needs comes
into being with it. Application code is given as lists whose first item names the action.
-/
namespace Launcher.Description

/-! ## Parts -/

/-- A text. -/
def text? : Json → Option String
  | .string s => some s
  | _ => none

/-- A text that may be left out. -/
def optionalText (v : Option Json) : Option String := v.bind text?

/-- The texts in a list. -/
def texts : Json → List String
  | .array vs => vs.filterMap text?
  | _ => []

/-- Is a flag set? -/
def flag (v : Json) (name : String) : Bool := ((v.field? name).map Json.isSubstantial).getD false

/-- Texts by name. -/
def properties : Json → Properties
  | .object fields => fields.filterMap fun (name, v) => (text? v).map fun s => (name, s)
  | _ => []

/-- What is given as a path: a text, the text of a path object, octets, or any other value. -/
def pathValue : Json → PathValue
  | .string s => .text s
  | .object [("path", .string s)] => .text (Path.ofText s).text
  | .object [("fspath", .string s)] => .text s
  | .object [("bytes", .string s)] => .octets s
  | .object [("raw", .string s)] => .text s
  | .object [("raw", v)] => .other v
  | v => .other v

/-- The kinds of errors that application code raises. -/
def errorKind? (name : String) : Option ErrorKind :=
  [.exception, .runtime, .value, .type, .key, .missingAttribute, .importing, .arithmetic, .lookup,
    .launcher, .malformedLocator].find? fun k : ErrorKind => k.name = name

/-- An error as a kind and a text. -/
def raised? : Json → Option (ErrorKind × String)
  | .array [.string name, .string text] => (errorKind? name).map fun k => (k, text)
  | _ => none

/-! ## Application code -/

/-- An action. -/
def action? : Json → Option Action
  | .array [.string "add_path", v] => some (.addPath (pathValue v))
  | .array [.string "add_url", v] => some (.addUrl (pathValue v))
  | .array [.string "get_home"] => some .getHome
  | .array [.string "locators"] => some .locators
  | .array [.string "import", .string name] => some (.importing name)
  | .array [.string "note", .string text] => some (.note text)
  | .array [.string "raise", .string name, .string text] =>
    (errorKind? name).map fun k => .raise (Error.raised k text : Error)
  | .array [.string "raise_from", e, cause] =>
    match raised? e, raised? cause with
    | some (k, text), some (causeKind, causeText) =>
      let cause : Error := .raised causeKind causeText
      some (.raise { Fault.because (.raised k text) cause with closed := true })
    | _, _ => none
  | .array [.string "exit", code] => some (.exit code)
  | .array [.string "interrupt"] => some .interrupt
  | .array [.string "try", a] => (action? a).map .attempt
  | _ => none

/-- A list of actions. -/
def actions : Json → List Action
  | .array vs => vs.filterMap action?
  | _ => []

/-- What a class has under the name `start`. -/
def start? : Json → Option Start
  | .array vs => some (.method (actions (.array vs)))
  | v => (v.field? "v").map .value

mutual

/-- An attribute. -/
def attribute? : Json → Option Attribute
  | .object [("v", v)] => some (.value v)
  | .object [("class", v)] => some (.class (classBody v))
  | .object [("func", .object [("v", v)])] => some (.returning v)
  | .object [("func", .object [("instance", v)])] => some (.making (classBody v))
  | _ => none

/-- The body of a class. -/
def classBody : Json → ClassBody
  | .object fields =>
    .mk ((fields.lookup "init").map actions) ((fields.lookup "start").bind start?)
      (attributesIn fields) [] []
  | _ => .mk none none [] [] []

/-- The attributes among the fields of a class. -/
def attributesIn : List (String × Json) → List (String × Attribute)
  | [] => []
  | ("attrs", .object fields) :: _ => attributes fields
  | (_, _) :: rest => attributesIn rest

/-- Attributes by name. -/
def attributes : List (String × Json) → List (String × Attribute)
  | [] => []
  | (name, v) :: rest =>
    match attribute? v with
    | some a => (name, a) :: attributes rest
    | none => attributes rest

end

/-- The body of a module. -/
def moduleBody : Json → ModuleBody
  | .object fields =>
    { init := ((fields.lookup "init").map actions).getD [], attributes := attributesIn fields }
  | _ => {}

/-- Modules by name. -/
def modules : Json → Modules
  | .object fields => fields.map fun (name, v) => (name, moduleBody v)
  | _ => []

/-! ## Files -/

/-- The kind of an entry. -/
def nodeKind (v : Json) : NodeKind :=
  match optionalText (v.field? "k") with
  | some "dir" => .directory (!flag v "nosearch")
  | some "link" => .link ((optionalText (v.field? "to")).getD "")
  | some "file" =>
    .file (if flag v "yaml_bad" then .malformed else .parsed ((v.field? "yaml").getD .null))
  | _ => .other

/-- An entry. -/
def node (v : Json) : Node :=
  { kind := nodeKind v
    readable := !flag v "noread"
    modules := ((v.field? "mods").map modules).getD [] }

/-- Put a described entry into a file system. -/
def insertEntry (fs : FileSystem) (v : Json) : FileSystem :=
  fs.insert (FileSystem.location ((optionalText (v.field? "p")).getD "")) (node v)

/-- A file system as a list of entries, put in one after another. -/
def files : Json → FileSystem
  | .array vs => vs.foldl insertEntry .empty
  | _ => .empty

/-- A host whose working directory exists, if its text is absolute and plain. -/
def host (fs : FileSystem) (cwd : String) : Host :=
  let h : Host := { files := fs, cwd }
  let at_ := FileSystem.location cwd
  if Text.startsWith cwd "/" && !at_.contains "." && !at_.contains ".." then
    match h.stat cwd with
    | .ok _ => h
    | .error _ => { h with files := fs.insert at_ .plainDirectory }
  else h

/-! ## Worlds -/

/-- The value of a clock. -/
def clock : Json → Clock
  | .int n => .ofInt n
  | .float x => .ofFloat x
  | _ => .ofFloat 1700000000.25

/-- A world. -/
def world (v : Json) : World :=
  let vars := ((v.field? "environ").map properties).getD []
  let cwd := (optionalText (v.field? "cwd")).getD "/work"
  { host := host (((v.field? "fs").map files).getD .empty) cwd
    vars
    arguments := ((v.field? "argv").map texts).getD ["/opt/launcher/bin/run.pyz"]
    system := (optionalText (v.field? "system")).getD "Linux"
    style := { LineStyle.ofVariables vars (clock ((v.field? "now").getD .null)) with tight := true }
    recording := flag v "logs" }

/-- The environment of a launch. -/
def environment (v : Json) : Environment :=
  let plain : Environment := {}
  { searchPath := (optionalText (v.field? "search_path")).getD plain.searchPath
    system := (optionalText (v.field? "os_name")).getD plain.system
    cwd := (optionalText (v.field? "cwd")).getD plain.cwd
    homeOverride := optionalText (v.field? "home_override")
    properties := ((v.field? "properties").map properties).getD plain.properties
    separator := (optionalText (v.field? "path_separator")).getD plain.separator }

end Launcher.Description
