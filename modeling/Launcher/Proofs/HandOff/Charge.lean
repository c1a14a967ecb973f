-- SUMMARY: Making and starting an application is steady in a process that its context is in charge of.
import Launcher.HandOff
import Launcher.Proofs.Launch.Steady
import Launcher.Proofs.Logging.Tame

/-!
# Under the charge of a context

A context is in charge when it is registered and its loader is among the finders and the current
one. Looking an entry point up makes the loader active once more, which changes nothing by then. So
making a product is steady, and starting one is but for the event of the start itself.
-/
namespace Launcher

open Launch

/-! ## Calls -/

theorem Imports.setBindings_keeps (i : Imports) (keeper : Keeper) (bindings : Bindings) :
    (i.setBindings keeper bindings).finders = i.finders ∧
      (i.setBindings keeper bindings).current = i.current := by
  unfold setBindings
  cases keeper <;> simp

theorem Imports.isActive_iff {i : Imports} {id : Nat} :
    i.isActive id = true ↔ .loader id ∈ i.finders := by
  simp [isActive]

namespace Launch

variable {rule : Logging → Logging → Prop}

theorem tame_construct (moduleName className : String) (body : ClassBody) :
    Tame rule (construct moduleName className body) := by
  fun_induction construct moduleName className body with
  | case1 => exact tame_fail _
  | case2 => exact tame_fail _
  | case3 className body _ made actions _ =>
    refine .bind (tame_happen rfl) fun _ => ?_
    exact .bind (tame_performActions _ actions) fun _ => tame_pure _
  | case4 className body _ made _ other _ ih =>
    exact .bind ih fun _ => .bind (tame_fail _) fun _ => tame_pure _
  | case5 => exact .bind (tame_fail _) fun _ => tame_pure _
  | case6 => exact .bind (tame_fail _) fun _ => tame_pure _
  | case7 => exact tame_pure _

/-- What may be an error may end a computation. -/
theorem tame_failIfSome (e : Option Error) :
    Tame rule (match e with | some e => fail e | _ => pure () : Launch Unit) := by
  cases e with
  | none => exact tame_pure ()
  | some e => exact tame_fail e

theorem tame_act (routine : String) (o : Object) : Tame rule (act routine o) := by
  unfold act
  split
  · simp only
    split
    · refine .bind (tame_changeImports ?_ ?_) fun _ => tame_failIfSome _
      · exact fun i => i.store_finders _ _
      · exact fun i => i.store_current _ _
    · exact tame_failIfSome _
  · refine .bind tame_get fun w => .bind (tame_changeImports ?_ ?_) fun _ => tame_failIfSome _
    · exact fun i => (i.setBindings_keeps _ _).1
    · exact fun i => (i.setBindings_keeps _ _).2
  · exact tame_pure ()

theorem tame_call (o : Object) : Tame rule (call o) := by
  fun_induction call o with
  | case1 => exact tame_construct _ _ _
  | case2 => exact .bind (tame_happen rfl) fun _ => tame_pure _
  | case3 moduleName name body =>
    refine .bind (tame_happen rfl) fun _ => ?_
    split
    · exact tame_fail _
    · exact tame_construct _ _ _
  | case4 kind owner name subject _ ih => exact ih
  | case5 => exact tame_fail _
  | case6 => exact .bind (tame_act _ _) fun _ => tame_pure _
  | case7 => exact tame_fail _
  | case8 => exact tame_pure _

theorem tame_walk (o : Object) (names : List String) : Tame rule (walk o names) := by
  induction names generalizing o with
  | nil => exact tame_pure o
  | cons name names ih => exact .bind (tame_attributeOf o name) fun next => ih next

/-! ## Starts -/

theorem tame_watchInstance (label : String) (body : ClassBody) (name : String) :
    Tame rule (watchInstance label body name) := by
  unfold watchInstance
  split
  · exact tame_performActions _ _
  · exact tame_pure ()

theorem tame_entryOf (label className : String) (body : ClassBody) (name : String) :
    Tame rule (entryOf label className body name) :=
  .bind (tame_watchInstance label body name) fun _ => tame_check _

theorem tame_apparentlyStarts (label className : String) (body : ClassBody) :
    Tame rule (apparentlyStarts label className body) := by
  refine .bind (tame_watchInstance label body _) fun _ => .bind (tame_check _) fun other => ?_
  exact tame_pure _

theorem tame_hasStart (label className : String) (body : ClassBody) :
    Tame rule (hasStart label className body) := by
  have hentry : Tame rule (entryOf label className body "start") := tame_entryOf _ _ _ _
  refine .bind (.rescue (.bind hentry fun _ => tame_pure true) fun _ => tame_pure false) fun found => ?_
  split
  · refine .bind hentry fun entry => ?_
    split
    · exact tame_pure false
    · exact tame_pure true
  · exact tame_pure false

theorem tame_canStart (label className : String) (body : ClassBody) :
    Tame rule (canStart label className body) := by
  have happarent : Tame rule (apparentlyStarts label className body) := tame_apparentlyStarts _ _ _
  refine .bind happarent fun apparently => ?_
  split
  · exact tame_pure true
  refine .bind (tame_hasStart label className body) fun has => ?_
  split
  · exact tame_pure true
  refine .bind happarent fun again => ?_
  split
  · exact tame_pure true
  · exact tame_pure _

theorem tame_startOf (name : String) (product : Product) : Tame rule (startOf name product) := by
  cases product with
  | plain => exact tame_fail _
  | «instance» label className body =>
    refine .bind (tame_canStart label className body) fun can => ?_
    split
    · refine .bind (tame_entryOf label className body "start") fun entry => ?_
      split
      · exact tame_pure _
      · exact tame_fail _
      · exact tame_fail _
    · exact tame_fail _

end Launch

/-! ## Charge -/

/-- A context is registered, and its loader is among the finders and the current one. -/
structure Standing.InCharge (id : Nat) (s : Standing) : Prop where
  registered : s.registered = some id
  active : .loader id ∈ s.finders
  current : s.current = some id

/-- The world with a context put in charge. -/
def World.underCharge (w : World) (id : Nat) : World :=
  { w with registered := some id, imports := w.imports.activate id }

theorem World.inCharge_underCharge (w : World) (id : Nat) :
    (w.underCharge id).standing.InCharge id where
  registered := rfl
  active := Imports.isActive_iff.mp (w.imports.isActive_activate id)
  current := rfl

namespace Launch

variable {w : World} {id : Nat}

theorem execute_takeCharge (id : Nat) (w : World) :
    (takeCharge id).execute w = (.ok (), w.underCharge id) := rfl

/-- Making a loader active that is active and the current one changes nothing. -/
theorem steadyAt_activate (h : w.standing.InCharge id) : SteadyAt w (activate id) := by
  have hactive : w.imports.isActive id = true := Imports.isActive_iff.mpr h.active
  have hcurrent : w.imports.current = some id := h.current
  refine ⟨.of_output ?_ rfl, by simp [activate]⟩
  simp [activate, World.standing, Imports.activate, hactive, hcurrent]

/-- Importing a module and looking up what an entry point names in it is tame. -/
theorem tame_find {rule : Logging → Logging → Prop} (e : EntryPoint) (name : String) :
    Tame rule (do
      let _ ← importModule e.moduleName
      rescue .missingAttribute (walk (.module e.moduleName) e.attributes) fun f =>
        fail (.because (.missingEntryPoint e.moduleName e.path name) f)) :=
  .bind (tame_importModule e.moduleName) fun _ => .rescue (tame_walk _ _) fun _ => tame_fail _

theorem tame_configureByProperties (id : Nat) : Tame Logging.Free (configureByProperties id) := by
  refine .bind (tame_context id) fun c => ?_
  split
  · exact tame_pure ()
  · exact tame_pure ()
  · exact .bind (tame_applyConfig _) fun _ => tame_pure ()

theorem steadyAt_resolve (h : w.standing.InCharge id) (name : String) :
    SteadyAt w (resolve id name) := by
  unfold resolve
  cases EntryPoint.ofName? name with
  | none => exact (tame_fail _).steady w
  | some e => exact (steadyAt_activate h).bind fun _ w₁ _ _ => (tame_find e name).steady w₁

/-- Making a product is steady under the charge of its context. -/
theorem steadyAt_obtain (h : w.standing.InCharge id) (name : String) :
    SteadyAt w (obtain id name) := by
  refine ((tame_context id).steady w).bind fun c w₁ _ h₁ => ?_
  refine (steady_modify (fun w => w.steady_setContext id _) w₁).bind fun _ w₂ _ h₂ => ?_
  refine ((tame_configureByProperties id).steady w₂).bind fun _ w₃ _ h₃ => ?_
  refine (steady_modify (fun w => (w.logs_notify _ none).steady) w₃).bind fun _ w₄ _ h₄ => ?_
  -- the charge has come through unchanged when the loader is made active once more
  have hsteady : w.Steady w₄ := h₁.trans (h₂.trans (h₃.trans h₄))
  have hcharge : w₄.standing.InCharge id := hsteady.standing ▸ h
  exact (steadyAt_resolve hcharge name).bind fun factory w₅ _ _ => (tame_call factory).steady w₅

end Launch

end Launcher
