-- SUMMARY: The exit status of the boot command: the one that the application asked for, unless it asked with an empty value.
import Launcher.CommandLine.Boot
import Launcher.Proofs.Assembly.Preparation
import Launcher.Proofs.HandOff.Stages

/-!
# The exit status of the boot command

The end of the hand-off decides on the exit status. An application that finishes gives zero and one
that fails gives one. One that asks for an exit is given what it asks for, with one exception: a value
that is neither a number nor none stands for one, but an empty one is taken for none and gives zero.
An interrupt aborts the command.
-/
namespace Launcher.CommandLine

open Launch

/-! ## Requests to exit -/

/-- The exit status that a request stands for: that of none is zero, a number is itself, and any
    other value is one. -/
def requestedStatus : Json → Int
  | .null => 0
  | .int n => n
  | .bool b => if b then 1 else 0
  | _ => 1

/-- An empty text, list or mapping, or a fraction that is zero. -/
def isHollow : Json → Bool
  | .null | .int _ | .bool _ => false
  | code => !code.isSubstantial

/-- The number that a status is. A truth value is a number as well. -/
def statusNumber : Json → Option Int
  | .int n => some n
  | .bool b => some (if b then 1 else 0)
  | _ => none

/-- A request gives the status that it stands for, unless it is hollow. -/
theorem statusNumber_exitStatus (code : Json) :
    statusNumber (exitStatus code) = some (if isHollow code then 0 else requestedStatus code) := by
  unfold exitStatus
  cases hsubstantial : code.isSubstantial with
  | true => cases code <;> simp_all [isHollow, requestedStatus, statusNumber]
  | false => cases code <;> simp_all [isHollow, requestedStatus, statusNumber, Json.isSubstantial]

/-! ## The command -/

/-- The command comes as far as the run: no shell asks for completion, logging is set up, and a
    context without failures is prepared. -/
structure Boots (w : World) (id : Nat) (c : Context) (w' : World) : Prop where
  noRequest : completionRequest? w.vars = none
  prepared : ∃ byFile w₁,
    (configureLogging (.string ((w.vars.get? logLevelVariable).getD defaultLogLevel)) none).execute w =
      (.ok byFile, w₁) ∧ (prepare w₁.environment true).execute w₁ = (.ok id, w')
  held : w'.context? id = some c
  noFailures : c.failures = []

/-- What the command makes of the end of its hand-off. -/
inductive Ends : Except Raised Unit → Except Raised Json → Prop
  | finished : Ends (.ok ()) (.ok (.int 0))
  | failed (f : Fault) : f.isA .exception = true → Ends (.error (.fault f)) (.ok (.int 1))
  | escaped (f : Fault) : f.isA .exception = false → Ends (.error (.fault f)) (.error (.fault f))
  | exited (code status : Json) :
    statusNumber status = some (if isHollow code then 0 else requestedStatus code) →
      Ends (.error (.exit code)) (.ok status)
  | interrupted : Ends (.error .interrupt) (.error .abort)

variable {w w₁ w₂ : World} {id : Nat} {c : Context}

/-- Where the command boots the application, it ends as its run does, but for exits and
    interrupts. -/
theorem execute_boot (hboots : Boots w id c w₁) (args : List String) :
    (boot args).execute w =
      match (runApplication id args none .standardError).execute w₁ with
      | (.ok status, w') => (.ok (.int status), w')
      | (.error (.exit code), w') => (.ok (exitStatus code), w')
      | (.error .interrupt, w') => (.error .abort, w'.printError "\n")
      | (.error raised, w') => (.error raised, w') := by
  obtain ⟨byFile, w', hlogging, hprepare⟩ := hboots.prepared
  simp only [boot, bootApplication, execute_tryCatch, execute_bind, execute_get, hboots.noRequest,
    hlogging, hprepare]
  rcases (runApplication id args none .standardError).execute w₁ with ⟨_ | _, w'⟩
  case error raised => cases raised <;> rfl
  case ok => rfl

theorem boot_ends (hboots : Boots w id c w₁) {args : List String} {handed : Except Raised Unit}
    (hhand : (handOff id (entryPointName c.env.properties) args).execute w₁ = (handed, w₂)) :
    ∃ ending w', (boot args).execute w = (ending, w') ∧ Ends handed ending := by
  have hnamed : (handOff id (runName c none) args).execute w₁ = (handed, w₂) := hhand
  obtain ⟨ending, w', hrun, hconcludes, -⟩ :=
    runApplication_concludes (r := .standardError) hboots.held hboots.noFailures hnamed
  rw [execute_boot hboots args, hrun]
  cases hconcludes with
  | finished => exact ⟨_, _, rfl, .finished⟩
  | failed f hf => exact ⟨_, _, rfl, .failed f hf⟩
  | escaped f hf => exact ⟨_, _, rfl, .escaped f hf⟩
  | exited code => exact ⟨_, _, rfl, .exited code _ (statusNumber_exitStatus code)⟩
  | interrupted => exact ⟨_, _, rfl, .interrupted⟩

/-- Where the command boots the application, the hand-off ends as the application ends it, and the
    end of the hand-off decides on the end of the command: zero when it finishes, one on an error, and
    the status that is asked for on an exit, unless the value asked with is hollow. That gives zero,
    although it stands for one. An interrupt ends the command as an abort, and any other end passes
    through. -/
theorem boot_status (w w₁ : World) (id : Nat) (c : Context) (args : List String)
    (hboots : Boots w id c w₁) :
    ∃ handed w₂ ending w₃,
      (handOff id (entryPointName c.env.properties) args).execute w₁ = (handed, w₂) ∧
      HandsOff id (entryPointName c.env.properties) args c w₁ handed w₂ ∧
      (∀ e, ApplicationEnds id (entryPointName c.env.properties) args c w₁ e → handed = e) ∧
      (boot args).execute w = (ending, w₃) ∧ Ends handed ending := by
  rcases hhand : (handOff id (entryPointName c.env.properties) args).execute w₁ with ⟨handed, w₂⟩
  obtain ⟨ending, w₃, hrun, hends⟩ := boot_ends hboots hhand
  refine ⟨handed, w₂, ending, w₃, rfl, handsOff hboots.held hhand, ?_, hrun, hends⟩
  intro e he
  obtain ⟨w', hrun'⟩ := he.execute hboots.held
  exact congrArg Prod.fst (hhand.symm.trans hrun')

/-! ## An application that asks for an exit -/

/-- A process that boots an application whose module asks for an exit with an empty text. -/
def exitWorld : World where
  host :=
    { cwd := "/work"
      files :=
        { entries :=
            [(["opt"], .plainDirectory), (["opt", "lib"], .plainDirectory), (["opt", "lib", "app.zip"],
              { kind := .file .malformed
                modules := [("app", { init := [.exit (.string "")] }), ("app.main", {})] })]
          distinct := by decide
          named := by decide } }
  vars := [(homeVariable, "/opt")]
  style := .ofVariables [] (.ofInt 0)

/-- The process when logging has been set up. -/
def exitWorldLogging : World :=
  ((configureLogging (.string defaultLogLevel) none).execute exitWorld).2

/-- The process when its context has been prepared. -/
def exitWorldPrepared : World :=
  ((prepare exitWorldLogging.environment true).execute exitWorldLogging).2

theorem execute_of_toOption {α : Type} {x : Launch α} {a : α}
    (h : (x.execute w).1.toOption = some a) : x.execute w = (.ok a, (x.execute w).2) := by
  rcases hrun : x.execute w with ⟨_ | b, w'⟩
  · simp [hrun, Except.toOption] at h
  · simp_all [Except.toOption]

theorem boots_exitWorld :
    ∃ c, Boots exitWorld 0 c exitWorldPrepared ∧
      entryPointName c.env.properties = defaultEntryPoint := by
  have hlogging : ((configureLogging (.string defaultLogLevel) none).execute
      exitWorld).1.toOption = some false := by decide +kernel
  have hprepare : ((prepare exitWorldLogging.environment true).execute
      exitWorldLogging).1.toOption = some 0 := by decide +kernel
  have hcontext : (exitWorldPrepared.context? 0).map
      (fun c => (c.failures.length, entryPointName c.env.properties)) =
        some (0, defaultEntryPoint) := by decide +kernel
  obtain ⟨c, hheld, hc⟩ := Option.map_eq_some_iff.mp hcontext
  obtain ⟨hfailures, hname⟩ := Prod.mk.inj hc
  refine ⟨c, ⟨rfl, ⟨false, _, ?_, execute_of_toOption hprepare⟩, hheld, ?_⟩, hname⟩
  · exact execute_of_toOption hlogging
  · exact List.length_eq_zero_iff.mp hfailures

theorem boot_status_exit :
    ∃ c, Boots exitWorld 0 c exitWorldPrepared ∧
      ∃ handed w₂ ending w₃,
        HandsOff 0 (entryPointName c.env.properties) ["q"] c exitWorldPrepared handed w₂ ∧
        (boot ["q"]).execute exitWorld = (ending, w₃) ∧ Ends handed ending := by
  obtain ⟨c, hboots, -⟩ := boots_exitWorld
  obtain ⟨handed, w₂, ending, w₃, -, hhands, -, hrun, hends⟩ := boot_status _ _ 0 c ["q"] hboots
  exact ⟨c, hboots, handed, w₂, ending, w₃, hhands, hrun, hends⟩

/-- Is it an early end that asks for an exit with an empty text? -/
def asksWithEmptyText : Except Raised Unit → Bool
  | .error (.exit (.string text)) => text = ""
  | _ => false

/-- The application asks for an exit with an empty text. That stands for one, and the command gives
    zero. -/
theorem boot_ignores_empty_text :
    ∃ c w₁ w₂ status, Boots exitWorld 0 c exitWorldPrepared ∧
      (handOff 0 (entryPointName c.env.properties) []).execute exitWorldPrepared =
        (.error (.exit (.string "")), w₁) ∧
      requestedStatus (.string "") = 1 ∧
      (boot []).execute exitWorld = (.ok status, w₂) ∧ statusNumber status = some 0 := by
  obtain ⟨c, hboots, hname⟩ := boots_exitWorld
  rcases hhand : (handOff 0 (entryPointName c.env.properties) []).execute exitWorldPrepared with
    ⟨handed, w₁⟩
  obtain ⟨ending, w₂, hrun, hends⟩ := boot_ends hboots hhand
  have hasks : asksWithEmptyText ((handOff 0 defaultEntryPoint []).execute exitWorldPrepared).1 =
      true := by decide +kernel
  rw [← hname, hhand] at hasks
  cases hends with
  | finished => cases hasks
  | failed f _ => cases hasks
  | escaped f _ => cases hasks
  | interrupted => cases hasks
  | exited code status hstatus =>
    obtain ⟨text, rfl, rfl⟩ : ∃ text, code = .string text ∧ text = "" := by
      unfold asksWithEmptyText at hasks
      split at hasks <;> simp_all
    exact ⟨c, w₁, w₂, status, hboots, hhand, rfl, hrun, by rw [hstatus]; rfl⟩

end Launcher.CommandLine
