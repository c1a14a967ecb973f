-- SUMMARY: The hand-off to the application, and how its end becomes an exit status.
import Launcher.EntryPoint
import Launcher.Logging.Configure
import Launcher.Object.Call
import Launcher.Text.Control

/-!
# The hand-off

A launch with failures is refused with one report. Otherwise the context is registered,
its loader made active, logging configured, and the application found, made and started. A
fault on the way gives two reports and the status one; a request to exit and an interrupt
pass through.
-/
namespace Launcher

/-! ## Applications -/

/-- What calling an entry point gives: a plain value, or an instance of a class. -/
inductive Product where
  | plain
  | instance (label className : String) (body : ClassBody)

/-- The name of the classes that functions make. -/
def madeName : String := "Made"

namespace Launch

/-- Make an instance of a class. No class makes instances in a way of its own, and no instance
    is left by what only looks like a constructor. -/
def construct (moduleName className : String) (body : ClassBody) : Launch Product := do
  match body.find? className "__new__" with
  | some (.attribute a) => fail (a.misfit "__new__" 1)
  | some _ => fail (Error.notCallable "member_descriptor")
  | none =>
    match body.init with
    | some actions =>
      happen (.constructed (labelOf moduleName className))
      performActions (labelOf moduleName className) actions
    | none =>
      match _ : body.attributes.lookup "__init__" with
      | some (.class other) =>
        let _ ← construct moduleName "__init__" other
        fail (Error.notNothing "__init__")
      | some a => fail (a.boundMisfit "__init__" 0)
      | none =>
        if "__init__" ∈ body.slots className then fail (Error.unsetAttribute className "__init__")
    pure (.instance (labelOf moduleName className) className body)
termination_by sizeOf body
decreasing_by exact ClassBody.sizeOf_lt_of_attribute? ‹_›

/-- Call a routine of a value, which can change the value where it stands. -/
def act (routine : String) : Object → Launch Unit
  | .value v place => do
    let (after, error) := v.undergo routine
    if let some place := place then changeImports (·.store place after)
    if let some e := error then fail e
  | .attributes keeper => do
    let (after, error) := Json.undergoAsMapping ((← get).imports.bindingsOf keeper) routine
    changeImports (·.setBindings keeper after)
    if let some e := error then fail e
  | _ => pure ()

/-- Call an object without arguments. Some routines do nothing but call what they belong to. -/
def call : Object → Launch Product
  | .class moduleName path body => construct moduleName (lastOf path) body
  | .returning moduleName name _ => do
    happen (.called (labelOf moduleName name))
    pure .plain
  | .making moduleName name body => do
    happen (.called (labelOf moduleName name))
    match body.classError? madeName with
    | some e => fail e
    | none => construct moduleName madeName body
  | .routine kind owner name subject =>
    if Object.reply owner name = .calls then call subject
    else
      match Object.routineError? kind owner name subject with
      | some e => fail e
      | none => do
        act name subject
        pure .plain
  | o =>
    match o.callError? with
    | some e => fail e
    | none => pure .plain

/-- What is done when an attribute of an instance is looked up. -/
def watchInstance (label : String) (body : ClassBody) (name : String) : Launch Unit :=
  match body.instanceWatch.lookup name with
  | some actions => performActions label actions
  | none => pure ()

/-- Look up what an instance has under a name. -/
def entryOf (label className : String) (body : ClassBody) (name : String) :
    Launch ClassBody.Entry := do
  watchInstance label body name
  check (body.instanceEntry className name)

/-- Look up the class that an instance says it is of. Does it provide `start`? -/
def apparentlyStarts (label className : String) (body : ClassBody) : Launch Bool := do
  watchInstance label body "__class__"
  let (otherName, other) ← check (body.apparentClass className)
  pure (other.providesStart otherName)

/-- Does an instance have a `start` of its own that is not null? It is looked up once more when it
    has turned out to be there. -/
def hasStart (label className : String) (body : ClassBody) : Launch Bool := do
  let found ← rescue .missingAttribute (do
    let _ ← entryOf label className body "start"
    pure true) fun _ => pure false
  if found then
    match ← entryOf label className body "start" with
    | .attribute (.value .null) => pure false
    | _ => pure true
  else pure false

/-- Can an instance be started? The class that it says it is of has to provide `start`, or the
    instance has to have it, or the class that it is of provides it after all. -/
def canStart (label className : String) (body : ClassBody) : Launch Bool := do
  if ← apparentlyStarts label className body then pure true
  else if ← hasStart label className body then pure true
  else if ← apparentlyStarts label className body then pure true
  else pure (body.providesStart className)

/-- The label and the actions of the `start` of a product, which has to provide one that can be
    called with arguments. -/
def startOf (name : String) : Product → Launch (String × List Action)
  | .plain => fail (Error.notStartable name)
  | .instance label className body => do
    if ← canStart label className body then
      match ← entryOf label className body "start" with
      | .routine _ actions => pure (label, actions)
      | .attribute a => fail (a.boundMisfit "start" 1)
      | .slot => fail (Error.unsetAttribute className "start")
    else fail (Error.notStartable name)

/-- Start a product with its arguments. -/
def start (name : String) (product : Product) (args : List String) : Launch Unit := do
  let (label, actions) ← startOf name product
  happen (.started label args)
  performActions label actions

/-! ## The stages -/

/-- Name the logging configuration of the home, unless one is named already. -/
def nameLogConfig (c : Context) : Context :=
  match c.home with
  | none => c
  | some home =>
    if (c.env.properties.get? logConfigVariable).getD "" ≠ "" then c
    else
      let path := home.descend ["bin", logConfigName]
      { c with env := { c.env with
          properties := c.env.properties.set logConfigVariable ("file:" ++ path.text) } }

/-- Configure logging by the file that the properties name. -/
def configureByProperties (id : Nat) : Launch Unit := do
  let c ← context id
  match c.env.properties.get? logConfigVariable with
  | none => pure ()
  | some "" => pure ()
  | some text =>
    let _ ← applyConfig (.text text)

/-- Put a context in charge of the process. -/
def takeCharge (id : Nat) : Launch Unit := do
  modify ({ · with registered := some id })
  activate id

/-- Make what the entry point of a context stands for. -/
def obtain (id : Nat) (name : String) : Launch Product := do
  let c ← context id
  modify (·.setContext id (nameLogConfig c))
  configureByProperties id
  modify (·.notify (.starting name c.homeDisplay) none)
  let factory ← resolve id name
  call factory

/-- Hand off to the application. -/
def handOff (id : Nat) (name : String) (args : List String) : Launch Unit := do
  takeCharge id
  let product ← obtain id name
  start name product args

/-! ## The run -/

/-- Where reports go. -/
inductive Reporting where
  | collected
  | standardError
  deriving DecidableEq, Repr

/-- A world after a report. What goes to the standard error has no control sequences. -/
def reported (w : World) (r : Reporting) (text : String) : World :=
  match r with
  | .collected => w.collect text
  | .standardError => w.printError (Text.dropControls text ++ "\n")

/-- Give a report. -/
def report (r : Reporting) (text : String) : Launch Unit := modify (reported · r text)

/-- The traces of failures, a line between them. -/
def formatFailures (failures : List Fault) : String := "\n".intercalate (failures.map Fault.trace)

/-- The head of the report about failures. -/
def failureHeader : String := "Configuration error during init, see exceptions:"

/-- The report about the home. -/
def homeReport (home : String) : String := "Installation directory was detected as: " ++ home

/-- The entry point of a run: the one that is asked for, unless its name is empty. -/
def runName (c : Context) (entryPoint : Option String) : String :=
  match entryPoint with
  | some name => if name = "" then entryPointName c.env.properties else name
  | none => entryPointName c.env.properties

/-- Run the application of a context. The answer is the exit status. -/
def runApplication (id : Nat) (args : List String) (entryPoint : Option String) (r : Reporting) :
    Launch Int := do
  let c ← context id
  if c.failures ≠ [] then
    report r (failureHeader ++ "\n" ++ formatFailures c.failures)
    pure 1
  else
    let name := runName c entryPoint
    rescue .exception (do handOff id name args; pure 0) fun f => do
      modify (·.notify (.handOffFailed name) (some f))
      report r f.trace
      report r (homeReport c.homeDisplay)
      pure 1

end Launch

end Launcher
