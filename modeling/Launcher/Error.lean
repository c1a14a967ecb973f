-- SUMMARY: What can go wrong, with the kind, the message and the context of each error, and chains of errors.
import Launcher.Json.Display
import Launcher.Text.Octets

/-!
# Errors

An `Error` is a cause; its kind, message and context are computed from it. A `Fault` is an
error together with the errors that led to it.
-/
namespace Launcher

/-! ## Kinds -/

/-- The kind of an error, which is what a handler tells errors apart by. -/
inductive ErrorKind where
  /-- The kind that all others lie below, also those of ends that are no errors. -/
  | any
  | exception
  | runtime
  | value
  | type
  | key
  | missingAttribute
  | importing
  | moduleNotFound
  | arithmetic
  | overflow
  | lookup
  | index
  | recursion
  | os
  | fileNotFound
  | permission
  | notADirectory
  | yaml
  | launcher
  | malformedLocator
  | archiveLoad
  | entryPoint
  | notInitialized
  /-- A kind that a module defines, right below another one. -/
  | defined (moduleName name : String) (base : ErrorKind)
  deriving DecidableEq, Repr

/-- The name of a kind. -/
def ErrorKind.name : ErrorKind → String
  | .any => "BaseException"
  | .exception => "Exception"
  | .runtime => "RuntimeError"
  | .value => "ValueError"
  | .type => "TypeError"
  | .key => "KeyError"
  | .missingAttribute => "AttributeError"
  | .importing => "ImportError"
  | .moduleNotFound => "ModuleNotFoundError"
  | .arithmetic => "ArithmeticError"
  | .overflow => "OverflowError"
  | .lookup => "LookupError"
  | .index => "IndexError"
  | .recursion => "RecursionError"
  | .os => "OSError"
  | .fileNotFound => "FileNotFoundError"
  | .permission => "PermissionError"
  | .notADirectory => "NotADirectoryError"
  | .yaml => "YAMLError"
  | .launcher => "BootdriverError"
  | .malformedLocator => "MalformedLocatorError"
  | .archiveLoad => "ArchiveLoadError"
  | .entryPoint => "EntryPointError"
  | .notInitialized => "ContextNotInitializedError"
  | .defined _ name _ => name

/-- The kinds that a kind lies below, nearest first. -/
def ErrorKind.above : ErrorKind → List ErrorKind
  | .any => []
  | .exception => [.any]
  | .runtime | .value | .type | .missingAttribute | .importing | .arithmetic | .lookup | .os |
    .yaml => [.exception, .any]
  | .key | .index => [.lookup, .exception, .any]
  | .moduleNotFound => [.importing, .exception, .any]
  | .overflow => [.arithmetic, .exception, .any]
  | .recursion | .launcher => [.runtime, .exception, .any]
  | .fileNotFound | .permission | .notADirectory => [.os, .exception, .any]
  | .malformedLocator | .archiveLoad | .entryPoint | .notInitialized =>
    [.launcher, .runtime, .exception, .any]
  | .defined _ _ base => base :: base.above

/-- Does a handler of errors of the other kind take hold of errors of this one? -/
def ErrorKind.isA (k other : ErrorKind) : Bool := k = other || k.above.contains other

/-- Is the kind one of the launcher's own? Those carry a context. -/
def ErrorKind.isOwn (k : ErrorKind) : Bool := k.isA .launcher

/-- The module in which a kind is defined, if it is not there from the start. -/
def ErrorKind.moduleName : ErrorKind → String
  | .defined moduleName _ _ => moduleName
  | k => if k.isOwn then "bootdriver.errors" else "builtins"

/-- The name of a kind in a trace, with the module in which it is defined. -/
def ErrorKind.qualifiedName (k : ErrorKind) : String :=
  if k.moduleName = "builtins" ∨ k.moduleName = "__main__" then k.name
  else k.moduleName ++ "." ++ k.name

/-! ## System errors -/

/-- Why the operating system refuses a path. -/
inductive Errno where
  | notFound
  | denied
  | notDirectory
  | loop
  | tooLong
  deriving DecidableEq, Repr

/-- The number of a system error. -/
def Errno.code : Errno → Nat
  | .notFound => 2
  | .denied => 13
  | .notDirectory => 20
  | .loop => 40
  | .tooLong => 36

/-- The description of a system error. -/
def Errno.text : Errno → String
  | .notFound => "No such file or directory"
  | .denied => "Permission denied"
  | .notDirectory => "Not a directory"
  | .loop => "Too many levels of symbolic links"
  | .tooLong => "File name too long"

/-- Does the error say that a path leads nowhere? -/
def Errno.leadsNowhere : Errno → Bool
  | .notFound | .notDirectory | .loop => true
  | .denied | .tooLong => false

/-- The kind that a system error is reported as. -/
def Errno.kind : Errno → ErrorKind
  | .notFound => .fileNotFound
  | .denied => .permission
  | .notDirectory => .notADirectory
  | .loop | .tooLong => .os

/-! ## Causes -/

/-- What an attribute was looked up on. -/
inductive Owner where
  | module (name : Option String)
  | class (name : String)
  | value (type : String)
  deriving DecidableEq, Repr

/-- How a message names an owner. A module without a name is just a module. -/
def Owner.text : Owner → String
  | .module none => "module"
  | .module (some name) => "module '" ++ name ++ "'"
  | .class name => "type object " ++ Text.named 50 name
  | .value type => Text.named 50 type ++ " object"

/-- What went wrong. -/
inductive Error where
  -- locators
  | notAPath (shown : String)
  | emptyPath (shown : String)
  | nulInPath (path : String)
  | noLocation (path : String)
  | archiveFailed (message : String) (path : Option String)
  -- the hand-off
  | invalidEntryPoint (name : String)
  | missingEntryPoint (moduleName path name : String)
  | notStartable (name : String)
  | notHandedOff
  -- paths and files
  | notPathLike (type : String)
  | notTextPath (type : String)
  | octetsWithText
  | octetsPrefix
  | relativeLocation
  | embeddedNul
  | system (errno : Errno) (path : String)
  | linkLoop (path : String)
  | tooDeep
  -- texts
  | emptySeparator
  -- logging
  | unknownLevel (level : String)
  | levelType (shown : String)
  | unsupportedVersion (shown : String)
  | configurationType (path : String)
  | rootNotConfigured
  | loggerNotConfigured (shown : String)
  | partNotConfigured (part shown : String)
  | partNotAdded (part shown : String)
  | unknownHandler (shown : String)
  | loggerNameType
  | unreadableReference (path : String) (rest : Option String)
  | unresolvedReference (name reason : String)
  | malformedYaml
  | notIterable (type : String)
  -- modules and objects
  | moduleNotFound (name : String) (parent : Option String)
  | relativeImport (name : String)
  | emptyModuleName
  | noAttribute (owner : Owner) (name : String)
  | unsetAttribute (type name : String)
  | notCallable (type : String)
  | tooManyArguments (routine : String) (taken given : Nat)
  | noArguments (type : String)
  | notNothing (type : String)
  | notAClass
  | unordered (type other : String)
  | replacedType (type : String)
  | immutableType
  | fixedAttribute
  -- classes that cannot be made
  | nulInTypeName
  | qualifiedNameType (type : String)
  | cellType (type : String)
  | slotType (type : String)
  | slotName
  | secondDictionary
  | secondReference
  | slotTaken (name : String)
  -- keys, places and numbers
  | unknownKey (shown : String)
  | listKeyType (type : String)
  | textKeyType (type : String)
  | outsideList
  | outsideText
  | noItems (type : String)
  | noTypeItems (type : String)
  | notWhole (text : String)
  | tooManyDigits (count : Nat)
  -- raised by the application, or by what it calls
  | raised (kind : ErrorKind) (text : String)
  deriving DecidableEq, Repr

namespace Error

/-- The kind of an error. -/
def kind : Error → ErrorKind
  | notAPath _ | emptyPath _ | nulInPath _ | noLocation _ => .malformedLocator
  | archiveFailed .. => .archiveLoad
  | invalidEntryPoint _ | missingEntryPoint .. | notStartable _ => .entryPoint
  | notHandedOff => .notInitialized
  | notPathLike _ | notTextPath _ | octetsWithText | octetsPrefix | levelType _ |
    relativeImport _ | notCallable _ | notIterable _ | loggerNameType | listKeyType _ |
    textKeyType _ | noItems _ | noTypeItems _ | tooManyArguments .. | noArguments _ |
    notNothing _ | notAClass | unordered .. | replacedType _ | immutableType |
    qualifiedNameType _ | cellType _ | slotType _ | slotName | secondDictionary |
    secondReference => .type
  | relativeLocation | embeddedNul | emptySeparator | unknownLevel _ | unsupportedVersion _ |
    configurationType _ | rootNotConfigured | loggerNotConfigured _ | partNotConfigured .. |
    partNotAdded .. | unknownHandler _ | emptyModuleName |
    notWhole _ | tooManyDigits _ | unreadableReference .. | unresolvedReference .. |
    nulInTypeName | slotTaken _ => .value
  | linkLoop _ => .runtime
  | tooDeep => .recursion
  | system errno _ => errno.kind
  | malformedYaml => .yaml
  | moduleNotFound .. => .moduleNotFound
  | noAttribute .. | unsetAttribute .. | fixedAttribute => .missingAttribute
  | unknownKey _ => .key
  | outsideList | outsideText => .index
  | raised kind _ => kind

/-- The message of an error. A key error shows its key in quotes. -/
def message : Error → String
  | notAPath shown => "Not a path: " ++ shown
  | emptyPath _ => "Empty path"
  | nulInPath path => "Path contains a NUL byte: " ++ Text.quoted path
  | noLocation path => "Cannot build locator for " ++ Text.quoted path
  | archiveFailed message _ => message
  | invalidEntryPoint name => "Invalid entry point name: " ++ Text.quoted name
  | missingEntryPoint moduleName path _ =>
    Text.quoted moduleName ++ " has no attribute " ++ Text.quoted path
  | notStartable name => name ++ " does not provide start(args)"
  | notHandedOff => "The launcher has not handed off to an application"
  | notPathLike type => "expected str, bytes or os.PathLike object, not " ++ type
  | notTextPath type =>
    "argument should be a str object or an os.PathLike object returning str, not <class '" ++
      type ++ "'>"
  | octetsWithText => "a bytes-like object is required, not 'str'"
  | octetsPrefix => "startswith first arg must be bytes or a tuple of bytes, not str"
  | relativeLocation => "relative path can't be expressed as a file URI"
  | embeddedNul => "embedded null byte"
  | system errno path =>
    "[Errno " ++ toString errno.code ++ "] " ++ errno.text ++ ": " ++ Text.quoted path
  | linkLoop path => "Symlink loop from " ++ Text.quoted path
  | tooDeep => "maximum recursion depth exceeded"
  | emptySeparator => "empty separator"
  | unknownLevel level => "Unknown level: " ++ Text.quoted level
  | levelType shown => "Level not an integer or a valid string: " ++ shown
  | unsupportedVersion shown => "Unsupported version: " ++ shown
  | configurationType path => "Logging configuration must be a mapping: " ++ path
  | rootNotConfigured => "Unable to configure root logger"
  | loggerNotConfigured shown => "Unable to configure logger " ++ shown
  | partNotConfigured part shown => "Unable to configure " ++ part ++ " " ++ shown
  | partNotAdded part shown => "Unable to add " ++ part ++ " " ++ shown
  | unknownHandler shown => "No handler found with name " ++ shown
  | loggerNameType => "A logger name must be a string"
  | unreadableReference path none => "Unable to convert " ++ Text.quoted path
  | unreadableReference path (some rest) =>
    "Unable to convert " ++ Text.quoted path ++ " at " ++ Text.quoted rest
  | unresolvedReference name reason => "Cannot resolve " ++ Text.quoted name ++ ": " ++ reason
  | malformedYaml => ""
  | notIterable type => Text.named 200 type ++ " object is not iterable"
  | moduleNotFound name none => "No module named " ++ Text.quoted name
  | moduleNotFound name (some parent) =>
    "No module named " ++ Text.quoted name ++ "; " ++ Text.quoted parent ++ " is not a package"
  | relativeImport name =>
    "the 'package' argument is required to perform a relative import for " ++ Text.quoted name
  | emptyModuleName => "Empty module name"
  | noAttribute owner name => owner.text ++ " has no attribute '" ++ name ++ "'"
  | unsetAttribute type name => Text.named 200 type ++ " object has no attribute '" ++ name ++ "'"
  | notCallable type => Text.named 200 type ++ " object is not callable"
  | tooManyArguments routine taken given =>
    routine ++ "() takes " ++ toString taken ++ " positional argument" ++
      (if taken = 1 then "" else "s") ++ " but " ++ toString given ++
      (if given = 1 then " was" else " were") ++ " given"
  | noArguments type => Text.cutOctets 200 type ++ "() takes no arguments"
  | notNothing type => "__init__() should return None, not " ++ Text.named 200 type
  | notAClass => "issubclass() arg 1 must be a class"
  | unordered type other =>
    "'<' not supported between instances of " ++ Text.named 100 type ++ " and " ++ Text.named 100 other
  | replacedType type => "__class__ must be set to a class, not " ++ Text.named 200 type ++ " object"
  | immutableType => "__class__ assignment only supported for mutable types or ModuleType subclasses"
  | fixedAttribute => "readonly attribute"
  | nulInTypeName => "type name must not contain null characters"
  | qualifiedNameType type => "type __qualname__ must be a str, not " ++ type
  | cellType type => "__classcell__ must be a nonlocal cell, not <class '" ++ type ++ "'>"
  | slotType type => "__slots__ items must be strings, not " ++ Text.named 200 type
  | slotName => "__slots__ must be identifiers"
  | secondDictionary => "__dict__ slot disallowed: we already got one"
  | secondReference => "__weakref__ slot disallowed: either we already got one, or __itemsize__ != 0"
  | slotTaken name => Text.quoted name ++ " in __slots__ conflicts with class variable"
  | unknownKey shown => shown
  | listKeyType type => "list indices must be integers or slices, not " ++ type
  | textKeyType type => "string indices must be integers, not " ++ Text.quoted type
  | outsideList => "list index out of range"
  | outsideText => "string index out of range"
  | noItems type => Text.named 200 type ++ " object is not subscriptable"
  | noTypeItems type => "type " ++ Text.named 200 type ++ " is not subscriptable"
  | notWhole text =>
    "invalid literal for int() with base 10: " ++ String.ofList ((Text.quoted text).toList.take 200)
  | tooManyDigits count =>
    "Exceeds the limit (4300 digits) for integer string conversion: value has " ++ toString count ++
      " digits; use sys.set_int_max_str_digits() to increase the limit"
  | raised kind text => if kind.isA .key then Text.quoted text else text

/-- The context that the launcher attaches to an error. -/
def context : Error → List (String × String)
  | notAPath shown => [("path", shown)]
  | emptyPath shown => [("path", shown)]
  | nulInPath path => [("path", path)]
  | noLocation path => [("path", path)]
  | archiveFailed _ (some path) => [("path", path)]
  | invalidEntryPoint name => [("name", name)]
  | missingEntryPoint _ _ name => [("name", name)]
  | notStartable name => [("name", name)]
  | _ => []

/-- Does a handler of errors of a kind take hold of the error? -/
def isA (e : Error) (k : ErrorKind) : Bool := e.kind.isA k

/-- The lines of a trace for one error. -/
def block (e : Error) : String :=
  e.kind.qualifiedName ++ (if e.message = "" then "" else ": " ++ e.message) ++ "\n"

end Error

/-! ## Chains -/

/-- An error and what led to it, the nearest cause first. The oldest error of the chain may
    have come up while another one was being handled; a closed chain does not tell. -/
structure Fault where
  error : Error
  causes : List Error := []
  handled : Option Error := none
  closed : Bool := false
  deriving DecidableEq, Repr

instance : Coe Error Fault := ⟨fun e => { error := e }⟩

namespace Fault

/-- Does a handler of errors of a kind take hold of the fault? -/
def isA (f : Fault) (k : ErrorKind) : Bool := f.error.kind.isA k

/-- The message of the error itself. -/
def message (f : Fault) : String := f.error.message

/-- The error as the consequence of a fault. -/
def because (e : Error) (f : Fault) : Fault := { f with error := e, causes := f.error :: f.causes }

/-- A fault that came up while an error was being handled. -/
def during (handled : Error) (f : Fault) : Fault :=
  if f.closed ∨ f.handled.isSome then f else { f with handled := some handled }

/-- What stands between a cause and its effect in a trace. -/
def causeNote : String :=
  "\nThe above exception was the direct cause of the following exception:\n\n"

/-- What stands in a trace after an error that was being handled. -/
def handledNote : String :=
  "\nDuring handling of the above exception, another exception occurred:\n\n"

/-- The trace of a fault: its errors, the oldest cause first. -/
def trace (f : Fault) : String :=
  (match f.handled with
    | some e => e.block ++ handledNote
    | none => "") ++
  causeNote.intercalate ((f.error :: f.causes).reverse.map Error.block)

@[simp] theorem because_error (e : Error) (f : Fault) : (because e f).error = e := rfl
@[simp] theorem because_causes (e : Error) (f : Fault) :
    (because e f).causes = f.error :: f.causes := rfl
@[simp] theorem during_error (e : Error) (f : Fault) : (during e f).error = f.error := by
  unfold during
  split <;> rfl

end Fault

end Launcher
