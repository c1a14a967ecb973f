-- SUMMARY: Modules of an application, described by what happens when they are loaded, called and started.
import Launcher.Locator

/-!
# Application modules

A module is described by the actions that loading it performs and by its attributes: plain
values, classes, and functions without arguments. The actions are the ways in which an
application can act on the launcher or fail. A module or a class can also act whenever one of
its attributes is looked up, and a class whenever one of an instance is.
-/
namespace Launcher

/-! ## Actions -/

/-- Something that application code does. -/
inductive Action where
  /-- Add to the search path of the registered context. -/
  | addPath (path : PathValue)
  /-- Add to the loader of the registered context. -/
  | addUrl (path : PathValue)
  /-- Report the home of the registered context. -/
  | getHome
  /-- Report the locator paths of the registered context. -/
  | locators
  /-- Import a module and report where it came from. -/
  | importing (name : String)
  /-- Report a text. -/
  | note (text : String)
  /-- Raise an error, with what led to it. -/
  | raise (f : Fault)
  /-- Ask for the process to end. -/
  | exit (code : Json)
  /-- End as on an interrupt from the keyboard. -/
  | interrupt
  /-- Perform an action and report the error it raises, if any. -/
  | attempt (action : Action)
  deriving Inhabited

/-- What is done when an attribute is looked up, by the name of the attribute. -/
abbrev Watch := List (String × List Action)

/-! ## Modules -/

/-- What a class has under the name `start`. -/
inductive Start where
  | method (actions : List Action)
  | value (v : Json)

mutual

/-- An attribute of a module or of a class. -/
inductive Attribute where
  | value (v : Json)
  | class (body : ClassBody)
  /-- A function that returns a value. -/
  | returning (v : Json)
  /-- A function that returns a new instance of a class of its own. -/
  | making (body : ClassBody)

/-- The body of a class: the actions of its constructor, its `start`, its attributes, and what is
    done when attributes of the class and of its instances are looked up. -/
inductive ClassBody where
  | mk (init : Option (List Action)) (start : Option Start)
      (attributes : List (String × Attribute)) (watch instanceWatch : Watch)

end

/-- The actions of the constructor, if the class has one. -/
def ClassBody.init : ClassBody → Option (List Action)
  | mk init _ _ _ _ => init

/-- What the class has under the name `start`. -/
def ClassBody.start : ClassBody → Option Start
  | mk _ start _ _ _ => start

/-- The further attributes of the class. -/
def ClassBody.attributes : ClassBody → List (String × Attribute)
  | mk _ _ attributes _ _ => attributes

/-- What is done when an attribute of the class is looked up. -/
def ClassBody.watch : ClassBody → Watch
  | mk _ _ _ watch _ => watch

/-- What is done when an attribute of an instance of the class is looked up. -/
def ClassBody.instanceWatch : ClassBody → Watch
  | mk _ _ _ _ instanceWatch => instanceWatch

/-- A module: the actions of loading it, the attributes it has afterwards, and what is done then
    when they are looked up. -/
structure ModuleBody where
  init : List Action := []
  attributes : List (String × Attribute) := []
  watch : Watch := []

/-- The modules that a directory or an archive provides, by full name. -/
abbrev Modules := List (String × ModuleBody)

/-- Is the module a package? It is when another name lies below its own. -/
def Modules.isPackage (ms : Modules) (name : String) : Bool :=
  ms.any fun (other, _) => Text.startsWith other (name ++ ".")

end Launcher
