-- SUMMARY: The state that launches share, and computations that change it and can end early.
import Launcher.Context
import Launcher.Import.Provided
import Launcher.Logging.Registry
import Launcher.Logging.Record
import Launcher.Text.Blank

/-!
# The world of a launch

A world is one process as the launcher sees it: files and working directory, variables,
clock, logging, launch contexts, imports, and what has been put out so far. A `Launch` is a
computation that changes the world and ends in a value or early; what it changed stays
changed either way.
-/
namespace Launcher

/-! ## Output -/

/-- What application code is seen to do. -/
inductive Event where
  | loaded (name : String)
  | called (label : String)
  | constructed (label : String)
  | started (label : String) (args : List String)
  | addedPath (label : String)
  | addedUrl (label : String)
  | home (label : String) (home : Option String)
  | locators (label : String) (paths : List String)
  | imported (label name origin : String)
  | noted (label text : String)
  | caught (label kind message : String)
  deriving DecidableEq, Repr

/-- An event as a value to be shown. -/
def Event.toJson : Event → Json
  | loaded name => .strings [name, "load"]
  | called label => .strings [label, "call"]
  | constructed label => .strings [label, "init"]
  | started label args => .array [.string label, .string "start", .strings args]
  | addedPath label => .strings [label, "add_path"]
  | addedUrl label => .strings [label, "add_url"]
  | home label path =>
    .array [.string label, .string "home", (path.map Json.string).getD .null]
  | locators label paths => .array [.string label, .string "locators", .strings paths]
  | imported label name origin => .strings [label, "import", name, origin]
  | noted label text => .strings [label, "note", text]
  | caught label kind message => .strings [label, "caught", kind, message]

/-- A record as it is kept when log calls are recorded. -/
structure RecordedCall where
  level : String
  logger : String
  message : String
  deriving DecidableEq, Repr

/-- Who is in charge of a process: the registered context, the finders, the current loader. -/
structure Standing where
  registered : Option Nat
  finders : List Finder
  current : Option Nat
  deriving DecidableEq, Repr

/-- An event, and who was in charge when it happened. -/
structure Occurrence where
  event : Event
  standing : Standing
  deriving DecidableEq, Repr

/-- What has been put out. -/
structure Output where
  out : String := ""
  err : String := ""
  occurrences : List Occurrence := []
  reports : List String := []
  records : List RecordedCall := []

/-- The events, in order. -/
def Output.events (o : Output) : List Event := o.occurrences.map Occurrence.event

/-! ## The world -/

/-- A context, and whether its properties are the variables of the process themselves. -/
structure HeldContext where
  context : Context
  sharesVariables : Bool

/-- A process as the launcher sees it. Contexts are known by their place in the list. -/
structure World where
  host : Host
  vars : Properties := []
  arguments : List String := []
  system : String := "Linux"
  style : LineStyle
  recording : Bool := false
  logging : Logging := .initial
  imports : Imports := .initial
  contexts : List HeldContext := []
  registered : Option Nat := none
  output : Output := {}

/-- The correlation id when none is given. -/
def noCorrelation : String := String.ofList (List.replicate 32 '0')

/-- The correlation id that the variables give. -/
def correlationId (vars : Properties) : String :=
  match vars.get? "BOOTDRIVER_CORR_ID" with
  | some id => if id = "" then noCorrelation else id
  | none => noCorrelation

/-- Do the variables ask for log lines in JSON? -/
def asksForJson (vars : Properties) : Bool :=
  let answer := (vars.get? "BOOTDRIVER_LOG_JSON").getD ""
  ["1", "true", "yes"].contains (Text.lowerAscii (Text.trimBlanks answer))

/-- How log lines are written, by the variables and the clock. -/
def LineStyle.ofVariables (vars : Properties) (clock : Clock) : LineStyle :=
  { json := asksForJson vars, correlation := correlationId vars, clock }

namespace World

/-! ## Writing -/

/-- Write to the standard output. -/
def print (w : World) (text : String) : World :=
  { w with output := { w.output with out := w.output.out ++ text } }

/-- Write to the standard error. -/
def printError (w : World) (text : String) : World :=
  { w with output := { w.output with err := w.output.err ++ text } }

/-- Keep a report. -/
def collect (w : World) (text : String) : World :=
  { w with output := { w.output with reports := w.output.reports ++ [text] } }

/-- Who is in charge now. -/
def standing (w : World) : Standing := ⟨w.registered, w.imports.finders, w.imports.current⟩

/-- Keep an event. -/
def happen (w : World) (e : Event) : World :=
  { w with output := { w.output with occurrences := w.output.occurrences ++ [⟨e, w.standing⟩] } }

/-! ## Logging -/

/-- Is the logger one of the launcher's own? -/
def isOwnLogger (name : String) : Bool :=
  name = "bootdriver" || Text.startsWith name "bootdriver."

/-- Keep a log call, if calls are recorded. -/
def recordCall (w : World) (r : Record) : World :=
  if w.recording && isOwnLogger r.logger then
    let call : RecordedCall := ⟨Level.label r.rank, r.logger, r.message⟩
    { w with output := { w.output with records := w.output.records ++ [call] } }
  else w

/-- Hand a record to one handler. -/
def handle (r : Record) (w : World) (h : Handler) : World :=
  match h.kind with
  | .standard => w.print ((r.line? w.style).getD "")
  | .silent => w

/-- Log a record: every handler gets it, if it passes. -/
def log (w : World) (r : Record) : World :=
  let w := w.recordCall r
  if w.logging.isEnabled r.logger r.rank then w.logging.handlers.foldl (handle r) w else w

/-- Log a notice, with the fault it is about. -/
def notify (w : World) (n : Notice) (fault : Option Fault) : World :=
  w.log { rank := n.severity.rank, logger := n.source, message := n.text, fault }

/-- Log notices in order. -/
def notifyAll (w : World) (ns : List Notice) : World := ns.foldl (fun w n => w.notify n none) w

/-! ## Contexts -/

/-- A context with its properties as they are now. -/
def context? (w : World) (id : Nat) : Option Context :=
  w.contexts[id]?.map fun held =>
    if held.sharesVariables then
      { held.context with env := { held.context.env with properties := w.vars } }
    else held.context

/-- Set a context. Shared properties go to the variables of the process. -/
def setContext (w : World) (id : Nat) (c : Context) : World :=
  match w.contexts[id]? with
  | none => w
  | some held =>
    { w with
      contexts := w.contexts.set id { held with context := c }
      vars := if held.sharesVariables then c.env.properties else w.vars }

/-- Hold a new context; its number is the answer. -/
def hold (w : World) (c : Context) (sharesVariables : Bool) : Nat × World :=
  (w.contexts.length,
    { w with
      contexts := w.contexts ++ [⟨c, sharesVariables⟩]
      vars := if sharesVariables then c.env.properties else w.vars })

/-- The environment of the process. -/
def environment (w : World) : Environment :=
  .ofProcess w.vars w.arguments w.system w.host.cwd

end World

/-! ## Launches -/

/-- How a launch ends early. -/
inductive Raised where
  /-- An error, or an end that only looks like one. -/
  | fault (f : Fault)
  | exit (code : Json)
  | interrupt
  | abort

/-- A computation that changes the world, and ends in a value or early. -/
abbrev Launch := ExceptT Raised (StateM World)

namespace Launch

/-- Carry a computation out in a world. The answer is how it ends, and the world then. -/
def execute (x : Launch α) (w : World) : Except Raised α × World := StateT.run (ExceptT.run x) w

/-- End with a fault. -/
def fail (f : Fault) : Launch α := throw (.fault f)

/-- Take a result that may be a fault. -/
def lift : Except Fault α → Launch α
  | .ok a => pure a
  | .error f => fail f

/-- Take a result that may be an error. -/
def check : Except Error α → Launch α
  | .ok a => pure a
  | .error e => fail e

/-- Carry out a computation, and go on from it if it ends in an error of a kind. -/
def rescue (kind : ErrorKind) (x : Launch α) (handle : Fault → Launch α) : Launch α :=
  tryCatch x fun
    | .fault f => if f.isA kind then handle f else fail f
    | other => throw other

/-- Log the notices of a computation, and take its result. -/
def noted (x : Noted α) : Launch α := do
  modify (·.notifyAll x.notices)
  lift x.result

/-! ### How launches are carried out -/

@[simp] theorem execute_pure (a : α) (w : World) : (pure a : Launch α).execute w = (.ok a, w) := rfl

@[simp] theorem execute_throw (r : Raised) (w : World) :
    (throw r : Launch α).execute w = (.error r, w) := rfl

@[simp] theorem execute_get (w : World) : (get : Launch World).execute w = (.ok w, w) := rfl

@[simp] theorem execute_modify (f : World → World) (w : World) :
    (modify f : Launch Unit).execute w = (.ok (), f w) := rfl

@[simp] theorem execute_modifyGet (f : World → α × World) (w : World) :
    (modifyGet f : Launch α).execute w = (.ok (f w).1, (f w).2) := rfl

/-- What follows a computation is carried out in the world that it leaves, unless it ended
    early. -/
theorem execute_bind (x : Launch α) (f : α → Launch β) (w : World) :
    (x >>= f).execute w =
      match x.execute w with
      | (.ok a, w) => (f a).execute w
      | (.error r, w) => (.error r, w) := by
  change (match StateT.run (ExceptT.run x) w with
    | (r, w) => StateT.run (ExceptT.bindCont f r : StateM World _) w) = _
  unfold execute
  rcases StateT.run (ExceptT.run x) w with ⟨_ | _, _⟩ <;> rfl

/-- What is done about an early end is carried out in the world that it leaves. -/
theorem execute_tryCatch (x : Launch α) (handle : Raised → Launch α) (w : World) :
    (tryCatch x handle).execute w =
      match x.execute w with
      | (.ok a, w) => (.ok a, w)
      | (.error r, w) => (handle r).execute w := by
  unfold execute
  change StateT.run (ExceptT.run (ExceptT.tryCatch x handle)) w = _
  unfold ExceptT.tryCatch
  rw [ExceptT.run_mk]
  change StateT.run (ExceptT.run x >>= _) w = _
  rw [StateT.run_bind]
  rcases StateT.run (ExceptT.run x) w with ⟨_ | _, _⟩ <;> rfl

@[simp] theorem execute_fail (f : Fault) (w : World) :
    (fail f : Launch α).execute w = (.error (.fault f), w) := rfl

/-- An error of the kind is dealt with in the world that it comes up in. -/
theorem execute_rescue (kind : ErrorKind) (x : Launch α) (handle : Fault → Launch α) (w : World) :
    (rescue kind x handle).execute w =
      match x.execute w with
      | (.error (.fault f), w) =>
        if f.isA kind then (handle f).execute w else (.error (.fault f), w)
      | other => other := by
  rw [rescue, execute_tryCatch]
  rcases x.execute w with ⟨raised | a, w⟩
  · cases raised with
    | fault f =>
      simp only
      split <;> rfl
    | _ => rfl
  · rfl

/-- Keep an event. -/
def happen (e : Event) : Launch Unit := modify (·.happen e)

/-- Change logging. -/
def changeLogging (change : Logging → Logging) : Launch Unit :=
  modify fun w => { w with logging := change w.logging }

/-- Change imports. -/
def changeImports (change : Imports → Imports) : Launch Unit :=
  modify fun w => { w with imports := change w.imports }

/-- A context by its number. -/
def context (id : Nat) : Launch Context := do
  match (← get).context? id with
  | some c => pure c
  | none => fail (Error.notHandedOff : Error)

/-- The number of the registered context. -/
def registered : Launch Nat := do
  match (← get).registered with
  | some id => pure id
  | none => fail (Error.notHandedOff : Error)

/-- Carry out an extension of a context. -/
def extend (id : Nat) (e : Extension) (change : Context → Context) : Launch Unit := do
  let c ← context id
  modify (·.setContext id (change c))
  modify (·.notifyAll e.notices)
  lift e.result

/-- Add a path to the loader and to the search path of a context. -/
def addPath (id : Nat) (value : PathValue) : Launch Unit := do
  let e := Extension.ofPath (← get).host value
  extend id e (·.addPath e)

/-- Add to the loader of a context alone. -/
def addUrl (id : Nat) (target : Target) : Launch Unit := do
  let e := Extension.ofTarget (← get).host target
  extend id e (·.addUrl e)

/-- Find the home and assemble its archives. The answer is the number of the new context. -/
def prepare (env : Environment) (sharesVariables : Bool) : Launch Nat := do
  let c ← noted ((← get).host.prepare env)
  modifyGet (·.hold c sharesVariables)

end Launch

end Launcher
