-- SUMMARY: The course of a hand-off: the stages that it goes through, and what ends it at each of them.
import Launcher.Proofs.EntryPoint.Attributes
import Launcher.Proofs.HandOff.Charge

/-!
# The course of a hand-off

A hand-off goes from stage to stage: the context is put in charge, logging is configured, the entry
point is read, its module imported and its attributes looked up, what they lead to is called, the
product is asked whether it can be started, and started. Each stage can end the hand-off in any way,
and goes on in the world that the one before has left. Up to the start the charge stays as it is.
-/
namespace Launcher.Launch

/-! ## Stages -/

/-- The world in which a context has been put in charge and has named its logging configuration. -/
def named (w : World) (id : Nat) (c : Context) : World :=
  (w.underCharge id).setContext id (nameLogConfig c)

/-- Logging is configured by the file that the properties name, if they name one. -/
inductive ConfiguresBy (ps : Properties) (w : World) : Except Raised Unit → World → Prop
  | unnamed : (ps.get? logConfigVariable).getD "" = "" → ConfiguresBy ps w (.ok ()) w
  | applied {text : String} {found : Bool} {w' : World} :
    ps.get? logConfigVariable = some text → text ≠ "" →
    (applyConfig (.text text)).execute w = (.ok found, w') → ConfiguresBy ps w (.ok ()) w'
  | broken {text : String} {raised : Raised} {w' : World} :
    ps.get? logConfigVariable = some text → text ≠ "" →
    (applyConfig (.text text)).execute w = (.error raised, w') → ConfiguresBy ps w (.error raised) w'

/-- How far a hand-off has come. -/
inductive Progress where
  | named
  | announced
  | imported (e : EntryPoint)
  | found (factory : Object)
  | made (product : Product)
  | approved (label className : String) (body : ClassBody)
  | ready (label className : String) (body : ClassBody) (actions : List Action)

/-- A hand-off that begins in a world comes so far, and leaves a world there. -/
inductive Reaches (id : Nat) (name : String) (c : Context) (w : World) : Progress → World → Prop
  | named : Reaches id name c w .named (named w id c)
  | announced {w₁ w₂ : World} :
    Reaches id name c w .named w₁ →
    ConfiguresBy (nameLogConfig c).env.properties w₁ (.ok ()) w₂ →
      Reaches id name c w .announced (w₂.notify (.starting name c.homeDisplay) none)
  | imported {e : EntryPoint} {origin : String} {w₁ w₂ : World} :
    Reaches id name c w .announced w₁ → EntryPoint.ofName? name = some e →
    (importModule e.moduleName).execute { w₁ with imports := w₁.imports.activate id } =
      (.ok origin, w₂) → Reaches id name c w (.imported e) w₂
  | found {e : EntryPoint} {factory : Object} {w₁ w₂ : World} :
    Reaches id name c w (.imported e) w₁ →
    Leads w₁ (.module e.moduleName) e.attributes factory w₂ → Reaches id name c w (.found factory) w₂
  | made {factory : Object} {product : Product} {w₁ w₂ : World} :
    Reaches id name c w (.found factory) w₁ → (call factory).execute w₁ = (.ok product, w₂) →
      Reaches id name c w (.made product) w₂
  | approved {label className : String} {body : ClassBody} {w₁ w₂ : World} :
    Reaches id name c w (.made (.instance label className body)) w₁ →
    (canStart label className body).execute w₁ = (.ok true, w₂) →
      Reaches id name c w (.approved label className body) w₂
  | ready {label className : String} {body : ClassBody} {parameters : List String}
    {actions : List Action} {w₁ w₂ : World} :
    Reaches id name c w (.approved label className body) w₁ →
    (entryOf label className body "start").execute w₁ = (.ok (.routine parameters actions), w₂) →
      Reaches id name c w (.ready label className body actions) w₂

/-- How a hand-off ends, and the world that it leaves: early, at one of its stages, or as what is
    started ends. Only a look-up that misses an attribute is given another name for it. -/
inductive EndsAt (id : Nat) (name : String) (args : List String) (c : Context) (w : World) :
    Except Raised Unit → World → Prop
  | configuring {raised : Raised} {w₁ w₂ : World} :
    Reaches id name c w .named w₁ →
    ConfiguresBy (nameLogConfig c).env.properties w₁ (.error raised) w₂ →
      EndsAt id name args c w (.error raised) w₂
  | misnamed {w₁ : World} :
    Reaches id name c w .announced w₁ → EntryPoint.ofName? name = none →
      EndsAt id name args c w (.error (.fault (Error.invalidEntryPoint name : Error))) w₁
  | importing {e : EntryPoint} {raised : Raised} {w₁ w₂ : World} :
    Reaches id name c w .announced w₁ → EntryPoint.ofName? name = some e →
    (importModule e.moduleName).execute { w₁ with imports := w₁.imports.activate id } =
      (.error raised, w₂) → EndsAt id name args c w (.error raised) w₂
  | lookingUp {e : EntryPoint} {raised : Raised} {w₁ w₂ : World} :
    Reaches id name c w (.imported e) w₁ →
    Breaks w₁ (.module e.moduleName) e.attributes raised w₂ →
      EndsAt id name args c w (.error (blamed e name raised)) w₂
  | making {factory : Object} {raised : Raised} {w₁ w₂ : World} :
    Reaches id name c w (.found factory) w₁ → (call factory).execute w₁ = (.error raised, w₂) →
      EndsAt id name args c w (.error raised) w₂
  | plain {w₁ : World} :
    Reaches id name c w (.made .plain) w₁ →
      EndsAt id name args c w (.error (.fault (Error.notStartable name : Error))) w₁
  | checking {label className : String} {body : ClassBody} {raised : Raised} {w₁ w₂ : World} :
    Reaches id name c w (.made (.instance label className body)) w₁ →
    (canStart label className body).execute w₁ = (.error raised, w₂) →
      EndsAt id name args c w (.error raised) w₂
  | refused {label className : String} {body : ClassBody} {w₁ w₂ : World} :
    Reaches id name c w (.made (.instance label className body)) w₁ →
    (canStart label className body).execute w₁ = (.ok false, w₂) →
      EndsAt id name args c w (.error (.fault (Error.notStartable name : Error))) w₂
  | lost {label className : String} {body : ClassBody} {raised : Raised} {w₁ w₂ : World} :
    Reaches id name c w (.approved label className body) w₁ →
    (entryOf label className body "start").execute w₁ = (.error raised, w₂) →
      EndsAt id name args c w (.error raised) w₂
  | unfit {label className : String} {body : ClassBody} {a : Attribute} {w₁ w₂ : World} :
    Reaches id name c w (.approved label className body) w₁ →
    (entryOf label className body "start").execute w₁ = (.ok (.attribute a), w₂) →
      EndsAt id name args c w (.error (.fault (a.boundMisfit "start" 1 : Error))) w₂
  | unset {label className : String} {body : ClassBody} {w₁ w₂ : World} :
    Reaches id name c w (.approved label className body) w₁ →
    (entryOf label className body "start").execute w₁ = (.ok .slot, w₂) →
      EndsAt id name args c w (.error (.fault (Error.unsetAttribute className "start" : Error))) w₂
  | started {label className : String} {body : ClassBody} {actions : List Action}
    {ending : Except Raised Unit} {w₁ w₂ : World} :
    Reaches id name c w (.ready label className body actions) w₁ →
    (performActions label actions).execute (w₁.happen (.started label args)) = (ending, w₂) →
      EndsAt id name args c w ending w₂

variable {id : Nat} {name : String} {args : List String} {c : Context} {w w' : World}
  {ending : Except Raised Unit}

/-! ## A hand-off goes through the stages -/

/-- The hand-off behind the naming of the logging configuration. -/
def proceed (id : Nat) (name home : String) (args : List String) : Launch Unit := do
  configureByProperties id
  modify (·.notify (.starting name home) none)
  let factory ← resolve id name
  let product ← call factory
  start name product args

/-- What is left of a hand-off that has come so far. -/
def remainder (id : Nat) (name home : String) (args : List String) : Progress → Launch Unit
  | .named => proceed id name home args
  | .announced => do
    let factory ← resolve id name
    let product ← call factory
    start name product args
  | .imported e => do
    let factory ← rescue .missingAttribute (walk (.module e.moduleName) e.attributes) fun f =>
      fail (.because (.missingEntryPoint e.moduleName e.path name) f)
    let product ← call factory
    start name product args
  | .found factory => do
    let product ← call factory
    start name product args
  | .made product => start name product args
  | .approved label className body => do
    match ← entryOf label className body "start" with
    | .routine _ actions => do
      happen (.started label args)
      performActions label actions
    | .attribute a => fail (a.boundMisfit "start" 1)
    | .slot => fail (Error.unsetAttribute className "start")
  | .ready label _ _ actions => do
    happen (.started label args)
    performActions label actions

theorem execute_handOff (hc : w.context? id = some c) (name : String) (args : List String) :
    (handOff id name args).execute w =
      (proceed id name c.homeDisplay args).execute (named w id c) := by
  have hcharge : (w.underCharge id).context? id = some c := hc
  simp only [handOff, obtain, bind_assoc]
  rw [execute_bind, execute_takeCharge]
  simp only
  rw [execute_bind, execute_context hcharge]
  rfl

theorem configuresBy_execute (hc : w.context? id = some c) :
    ConfiguresBy c.env.properties w ((configureByProperties id).execute w).1
      ((configureByProperties id).execute w).2 := by
  simp only [configureByProperties, execute_bind, execute_context hc]
  split
  case h_1 hnone => exact .unnamed (by rw [hnone]; rfl)
  case h_2 hempty => exact .unnamed (by rw [hempty]; rfl)
  case h_3 text hne hsome =>
    rw [execute_bind]
    rcases happly : (applyConfig (.text text)).execute w with ⟨raised | found, w'⟩
    · exact .broken hsome hne happly
    · exact .applied hsome hne happly

theorem execute_remainder_made {label className : String} {body : ClassBody} {home : String}
    (w : World) :
    (remainder id name home args (.made (.instance label className body))).execute w =
      match (canStart label className body).execute w with
      | (.ok true, w) => (remainder id name home args (.approved label className body)).execute w
      | (.ok false, w) => (.error (.fault (Error.notStartable name : Error)), w)
      | (.error raised, w) => (.error raised, w) := by
  simp only [remainder, start, startOf, bind_assoc]
  rw [execute_bind]
  rcases (canStart label className body).execute w with ⟨raised | can, w₁⟩
  · rfl
  cases can with
  | false => rfl
  | true =>
    simp only [if_true, bind_assoc]
    refine congrArg (execute · w₁) (bind_congr fun entry => ?_)
    cases entry <;> rfl

theorem endsAt_of_approved {label className : String} {body : ClassBody} {w₁ : World}
    (hreach : Reaches id name c w (.approved label className body) w₁)
    (hrun : (remainder id name c.homeDisplay args (.approved label className body)).execute w₁ =
      (ending, w')) :
    EndsAt id name args c w ending w' := by
  rw [remainder, execute_bind] at hrun
  rcases hentry : (entryOf label className body "start").execute w₁ with ⟨raised | entry, w₂⟩
  · rw [hentry] at hrun
    cases hrun
    exact .lost hreach hentry
  · rw [hentry] at hrun
    cases entry with
    | «attribute» a =>
      cases hrun
      exact .unfit hreach hentry
    | slot =>
      cases hrun
      exact .unset hreach hentry
    | routine parameters actions => exact .started (.ready hreach hentry) hrun

theorem endsAt_of_made {product : Product} {w₁ : World}
    (hreach : Reaches id name c w (.made product) w₁)
    (hrun : (remainder id name c.homeDisplay args (.made product)).execute w₁ = (ending, w')) :
    EndsAt id name args c w ending w' := by
  cases product with
  | plain =>
    cases hrun
    exact .plain hreach
  | «instance» label className body =>
    rw [execute_remainder_made] at hrun
    rcases hcan : (canStart label className body).execute w₁ with ⟨raised | can, w₂⟩
    · rw [hcan] at hrun
      cases hrun
      exact .checking hreach hcan
    · rw [hcan] at hrun
      cases can with
      | false =>
        cases hrun
        exact .refused hreach hcan
      | true =>
        exact endsAt_of_approved (.approved hreach hcan) hrun

theorem endsAt_of_announced {w₁ : World} (hreach : Reaches id name c w .announced w₁)
    (hrun : (remainder id name c.homeDisplay args .announced).execute w₁ = (ending, w')) :
    EndsAt id name args c w ending w' := by
  rw [remainder, execute_bind] at hrun
  cases hname : EntryPoint.ofName? name with
  | none =>
    rw [execute_resolve_refused hname] at hrun
    cases hrun
    exact .misnamed hreach hname
  | some e =>
    have hproceeds : Proceeds id name e w₁ := proceeds_of_ofName? hname
    obtain ⟨imported, w₂, himport, hresolve⟩ := hproceeds
    rw [hresolve] at hrun
    cases imported with
    | error raised =>
      cases hrun
      exact .importing hreach hname himport
    | ok origin =>
      have himported := hreach.imported hname himport
      rcases hwalk : (walk (.module e.moduleName) e.attributes).execute w₂ with ⟨raised | factory, w₃⟩
      · simp only [hwalk] at hrun
        cases hrun
        exact .lookingUp himported (execute_walk_error_iff.mp hwalk)
      · simp only [hwalk] at hrun
        have hfound := himported.found (execute_walk_ok_iff.mp hwalk)
        change (call factory >>= fun product => start name product args).execute w₃ = _ at hrun
        rw [execute_bind] at hrun
        rcases hcall : (call factory).execute w₃ with ⟨raised | product, w₄⟩
        · rw [hcall] at hrun
          cases hrun
          exact .making hfound hcall
        · rw [hcall] at hrun
          exact endsAt_of_made (hfound.made hcall) hrun

/-- Every hand-off ends at one of its stages. -/
theorem endsAt_of_execute (hc : w.context? id = some c)
    (hrun : (handOff id name args).execute w = (ending, w')) :
    EndsAt id name args c w ending w' := by
  have hcharge : (w.underCharge id).context? id = some c := hc
  have hnamed : (named w id c).context? id = some (nameLogConfig c) :=
    World.context?_setContext hcharge _
  have hconfigures := configuresBy_execute hnamed
  rw [execute_handOff hc, proceed, execute_bind] at hrun
  rcases hconfigure : (configureByProperties id).execute (named w id c) with ⟨raised | _, w₁⟩
  · rw [hconfigure] at hrun hconfigures
    cases hrun
    exact .configuring .named hconfigures
  · rw [hconfigure] at hrun hconfigures
    exact endsAt_of_announced (.announced .named hconfigures) hrun

/-! ## The stages are those of a hand-off -/

theorem ConfiguresBy.execute (hc : w.context? id = some c) {answer : Except Raised Unit}
    (h : ConfiguresBy c.env.properties w answer w') :
    (configureByProperties id).execute w = (answer, w') := by
  simp only [configureByProperties, execute_bind, execute_context hc]
  split
  case h_1 hnone =>
    cases h with
    | unnamed _ => rfl
    | applied hsome _ _ | broken hsome _ _ => cases hnone.symm.trans hsome
  case h_2 hempty =>
    cases h with
    | unnamed _ => rfl
    | applied hsome hne _ | broken hsome hne _ =>
      cases hempty.symm.trans hsome
      exact absurd rfl hne
  case h_3 text hne htext =>
    rw [execute_bind]
    cases h with
    | unnamed hnone => exact absurd (by simpa [htext] using hnone) hne
    | applied hsome _ happly =>
      cases htext.symm.trans hsome
      rw [happly]
      rfl
    | broken hsome _ happly =>
      cases htext.symm.trans hsome
      rw [happly]

theorem execute_remainder_imported {e : EntryPoint} {home : String} (w : World) :
    (remainder id name home args (.imported e)).execute w =
      match (walk (.module e.moduleName) e.attributes).execute w with
      | (.ok factory, w) => (remainder id name home args (.found factory)).execute w
      | (.error raised, w) => (.error (blamed e name raised), w) := by
  simp only [remainder]
  rw [execute_bind, execute_rescue]
  rcases (walk (.module e.moduleName) e.attributes).execute w with ⟨raised | factory, w₁⟩
  · cases raised with
    | fault f => by_cases hf : f.isA .missingAttribute = true <;> simp [blamed, hf, execute_fail]
    | _ => rfl
  · rfl

/-- What follows a stage that has been reached is what is left of the hand-off. -/
theorem Reaches.execute (hc : w.context? id = some c) {p : Progress} {w₁ : World}
    (h : Reaches id name c w p w₁) (args : List String) :
    (handOff id name args).execute w = (remainder id name c.homeDisplay args p).execute w₁ := by
  induction h with
  | named => exact execute_handOff hc name args
  | announced hreach hconfigures ih =>
    cases hreach
    have hnamed : (Launch.named w id c).context? id = some (nameLogConfig c) :=
      World.context?_setContext (w := w.underCharge id) hc _
    rw [ih, remainder, proceed, execute_bind, hconfigures.execute hnamed]
    rfl
  | @imported e origin w₁ w₂ _ hname himport ih =>
    have hproceeds : Proceeds id name e w₁ := proceeds_of_ofName? hname
    obtain ⟨_, _, hsame, hresolve⟩ := hproceeds
    rw [himport] at hsame
    cases hsame
    rw [ih, remainder, execute_bind, hresolve, execute_remainder_imported]
    rcases (walk (.module e.moduleName) e.attributes).execute w₂ with ⟨_ | _, _⟩ <;> rfl
  | found _ hleads ih => rw [ih, execute_remainder_imported, execute_walk_ok_iff.mpr hleads]
  | made _ hcall ih =>
    rw [ih, remainder, execute_bind, hcall]
    rfl
  | approved _ hcan ih => rw [ih, execute_remainder_made, hcan]
  | ready _ hentry ih =>
    rw [ih, remainder, execute_bind, hentry]
    rfl

/-- What ends a stage ends the hand-off. -/
theorem EndsAt.execute (hc : w.context? id = some c) (h : EndsAt id name args c w ending w') :
    (handOff id name args).execute w = (ending, w') := by
  cases h with
  | configuring hreach hconfigures =>
    rw [hreach.execute hc]
    cases hreach
    have hnamed : (Launch.named w id c).context? id = some (nameLogConfig c) :=
      World.context?_setContext (w := w.underCharge id) hc _
    rw [remainder, proceed, execute_bind, hconfigures.execute hnamed]
  | misnamed hreach hname =>
    rw [hreach.execute hc, remainder, execute_bind, execute_resolve_refused hname]
  | @importing e raised w₁ _ hreach hname himport =>
    have hproceeds : Proceeds id name e w₁ := proceeds_of_ofName? hname
    obtain ⟨_, _, hsame, hresolve⟩ := hproceeds
    rw [himport] at hsame
    cases hsame
    rw [hreach.execute hc, remainder, execute_bind, hresolve]
  | lookingUp hreach hbreaks =>
    rw [hreach.execute hc, execute_remainder_imported, execute_walk_error_iff.mpr hbreaks]
  | making hreach hcall => rw [hreach.execute hc, remainder, execute_bind, hcall]
  | plain hreach =>
    rw [hreach.execute hc]
    rfl
  | checking hreach hcan => rw [hreach.execute hc, execute_remainder_made, hcan]
  | refused hreach hcan => rw [hreach.execute hc, execute_remainder_made, hcan]
  | lost hreach hentry => rw [hreach.execute hc, remainder, execute_bind, hentry]
  | unfit hreach hentry =>
    rw [hreach.execute hc, remainder, execute_bind, hentry]
    rfl
  | unset hreach hentry =>
    rw [hreach.execute hc, remainder, execute_bind, hentry]
    rfl
  | started hreach hperform =>
    rw [hreach.execute hc, remainder, execute_bind]
    exact hperform

/-- How a hand-off ends is how one of its stages ends it. -/
theorem execute_handOff_iff (hc : w.context? id = some c) :
    (handOff id name args).execute w = (ending, w') ↔ EndsAt id name args c w ending w' :=
  ⟨endsAt_of_execute hc, EndsAt.execute hc⟩

/-! ## The charge up to the start -/

theorem Tame.steady_of_execute {x : Launch α} {answer : Except Raised α} (hx : Tame Logging.Free x)
    (hrun : x.execute w = (answer, w')) : w.Steady w' ∧ answer ≠ .error .abort := by
  obtain ⟨hsteady, habort⟩ := hx.steady w
  rw [hrun] at hsteady habort
  exact ⟨hsteady, habort⟩

theorem ConfiguresBy.steady {ps : Properties} (h : ConfiguresBy ps w ending w') :
    w.Steady w' ∧ ending ≠ .error .abort := by
  cases h with
  | unnamed => exact ⟨.refl w, by simp⟩
  | applied _ _ happly => exact ⟨((tame_applyConfig _).steady_of_execute happly).1, by simp⟩
  | broken _ _ happly =>
    obtain ⟨hsteady, habort⟩ := (tame_applyConfig _).steady_of_execute happly
    exact ⟨hsteady, fun h => habort (by cases h; rfl)⟩

/-- What is reached leaves alone who has been put in charge. -/
theorem Reaches.steady {p : Progress} (h : Reaches id name c w p w') :
    (w.underCharge id).Steady w' := by
  induction h with
  | named => exact (w.underCharge id).steady_setContext id _
  | announced _ hconfigures ih =>
    exact ih.trans (hconfigures.steady.1.trans (World.logs_notify _ _ none).steady)
  | @imported e origin w₁ w₂ _ _ himport ih =>
    have hcharge : w₁.standing.InCharge id := ih.standing ▸ w.inCharge_underCharge id
    have hactivate : w₁.Steady { w₁ with imports := w₁.imports.activate id } :=
      (steadyAt_activate hcharge).1
    exact ih.trans (hactivate.trans ((tame_importModule _).steady_of_execute himport).1)
  | found _ hleads ih =>
    exact ih.trans ((tame_walk _ _).steady_of_execute (execute_walk_ok_iff.mpr hleads)).1
  | made _ hcall ih => exact ih.trans ((tame_call _).steady_of_execute hcall).1
  | approved _ hcan ih => exact ih.trans ((tame_canStart _ _ _).steady_of_execute hcan).1
  | ready _ hentry ih => exact ih.trans ((tame_entryOf _ _ _ _).steady_of_execute hentry).1

end Launcher.Launch
