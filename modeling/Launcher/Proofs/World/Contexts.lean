-- SUMMARY: Contexts of a world: how they are read, set and extended, and that logging leaves them alone.
import Launcher.World

/-!
# Contexts of a world

Logging adds to what has been put out and changes nothing else. A context that was set is
read back as it was set, also where its properties are the variables of the process. So an
extension of a context leaves the context changed as the extension says, whether the
extension ended well or early.
-/
namespace Launcher

namespace World

variable {w w' w'' : World} {id : Nat} {c : Context}

/-! ## Logging -/

/-- The second world is the first one with more logged. -/
def Logs (w w' : World) : Prop :=
  ∃ out records, w' = { w with output := { w.output with out, records } }

theorem Logs.refl (w : World) : w.Logs w := ⟨_, _, rfl⟩

theorem Logs.trans (h : w.Logs w') (h' : w'.Logs w'') : w.Logs w'' := by
  obtain ⟨_, _, rfl⟩ := h
  obtain ⟨out, records, rfl⟩ := h'
  exact ⟨out, records, rfl⟩

theorem recordCall_eq (w : World) (r : Record) :
    ∃ records, w.recordCall r = { w with output := { w.output with records } } := by
  unfold recordCall
  split <;> exact ⟨_, rfl⟩

theorem logs_recordCall (w : World) (r : Record) : w.Logs (w.recordCall r) := by
  obtain ⟨records, heq⟩ := w.recordCall_eq r
  exact ⟨_, records, heq⟩

theorem logs_handle (w : World) (r : Record) (h : Handler) : w.Logs (w.handle r h) := by
  unfold handle print
  split
  · exact ⟨_, _, rfl⟩
  · exact .refl w

theorem logs_foldl_handle (w : World) (r : Record) (hs : List Handler) :
    w.Logs (hs.foldl (handle r) w) := by
  induction hs generalizing w with
  | nil => exact .refl w
  | cons h hs ih => exact (logs_handle w r h).trans (ih (w.handle r h))

theorem logs_log (w : World) (r : Record) : w.Logs (w.log r) := by
  unfold log
  simp only
  split
  · exact (logs_recordCall w r).trans (logs_foldl_handle _ r _)
  · exact logs_recordCall w r

/-- A record that does not pass is not written. -/
theorem log_out_of_not_isEnabled {r : Record} (hr : w.logging.isEnabled r.logger r.rank = false) :
    (w.log r).output.out = w.output.out := by
  obtain ⟨records, heq⟩ := w.recordCall_eq r
  simp [log, heq, hr]

theorem logs_notify (w : World) (n : Notice) (fault : Option Fault) : w.Logs (w.notify n fault) :=
  logs_log w _

theorem logs_notifyAll (w : World) (ns : List Notice) : w.Logs (w.notifyAll ns) := by
  unfold notifyAll
  induction ns generalizing w with
  | nil => exact .refl w
  | cons n ns ih => exact (logs_notify w n none).trans (ih (w.notify n none))

theorem Logs.context? (h : w.Logs w') (id : Nat) : w'.context? id = w.context? id := by
  obtain ⟨_, _, rfl⟩ := h
  rfl

theorem Logs.occurrences (h : w.Logs w') : w'.output.occurrences = w.output.occurrences := by
  obtain ⟨_, _, rfl⟩ := h
  rfl

/-! ## Reading back -/

/-- Setting a context changes the contexts and the variables, and nothing else. -/
theorem setContext_eq (w : World) (id : Nat) (c : Context) :
    ∃ contexts vars, w.setContext id c = { w with contexts, vars } := by
  unfold setContext
  split
  · exact ⟨_, _, rfl⟩
  · exact ⟨_, _, rfl⟩

theorem context?_setContext (hc : w.context? id = some c) (new : Context) :
    (w.setContext id new).context? id = some new := by
  unfold World.context? at hc ⊢
  unfold setContext
  cases hheld : w.contexts[id]? with
  | none => simp [hheld] at hc
  | some held =>
    have hlt : id < w.contexts.length := (List.getElem?_eq_some_iff.mp hheld).1
    obtain ⟨context, shares⟩ := held
    cases shares <;> simp [hlt]

/-- A context that is set to what it is makes no difference to any context. -/
theorem context?_setContext_self (hc : w.context? id = some c) (other : Nat) :
    (w.setContext id c).context? other = w.context? other := by
  by_cases hother : other = id
  · subst hother
    rw [context?_setContext hc c, hc]
  · unfold World.context? at hc ⊢
    unfold setContext
    cases hheld : w.contexts[id]? with
    | none => rfl
    | some held =>
      obtain ⟨context, shares⟩ := held
      have hne : id ≠ other := fun heq => hother heq.symm
      cases shares with
      | false => simp [List.getElem?_set_ne hne]
      | true =>
        -- shared properties were read from the variables, so the variables stay
        have hvars : c.env.properties = w.vars := by
          rw [hheld] at hc
          cases hc
          rfl
        simp [List.getElem?_set_ne hne, hvars]

theorem context?_hold (w : World) (c : Context) (shares : Bool) :
    (w.hold c shares).2.context? (w.hold c shares).1 = some c := by
  cases shares <;> simp [hold, World.context?]

end World

/-! ## Extensions -/

/-- How an extension ends. -/
def Extension.ending (e : Extension) : Except Raised Unit :=
  match e.fault with
  | none => .ok ()
  | some f => .error (.fault f)

namespace Context

theorem addPath_refused (c : Context) (f : Fault) : c.addPath (.refused f) = c := by
  simp [addPath, addUrl, SearchPath.load, Extension.refused]

theorem addPath_of_fault_none {c : Context} {e : Extension} (h : e.fault = none) :
    c.addPath e = (c.addUrl e).publish e.segments := by
  simp [addPath, h]

end Context

namespace Launch

variable {w : World} {id : Nat} {c : Context}

theorem execute_context (hc : w.context? id = some c) : (context id).execute w = (.ok c, w) := by
  simp [context, execute_bind, hc]

/-- An extension sets the context to what it is changed into, and then says what it has to. -/
theorem execute_extend_eq (hc : w.context? id = some c) (e : Extension)
    (change : Context → Context) :
    (extend id e change).execute w =
      (e.ending, (w.setContext id (change c)).notifyAll e.notices) := by
  have hlift : (lift e.result).execute ((w.setContext id (change c)).notifyAll e.notices) =
      (e.ending, (w.setContext id (change c)).notifyAll e.notices) := by
    unfold Extension.result Extension.ending
    cases e.fault <;> rfl
  simp [extend, execute_bind, execute_context hc, hlift]

/-- An extension of a context ends as it says, and leaves the context changed in either case. -/
theorem execute_extend (hc : w.context? id = some c) (e : Extension) (change : Context → Context) :
    ∃ w', (extend id e change).execute w = (e.ending, w') ∧ w'.context? id = some (change c) := by
  refine ⟨_, execute_extend_eq hc e change, ?_⟩
  rw [(World.logs_notifyAll _ e.notices).context?]
  exact World.context?_setContext hc (change c)

/-- An extension that leaves its context as it is leaves every context as it is. -/
theorem context?_of_unchanged (hc : w.context? id = some c) {e : Extension}
    {change : Context → Context} (hchange : change c = c) (other : Nat) :
    ((extend id e change).execute w).2.context? other = w.context? other := by
  rw [execute_extend_eq hc, hchange, (World.logs_notifyAll _ e.notices).context?]
  exact World.context?_setContext_self hc other

theorem execute_addPath_eq (w : World) (id : Nat) (value : PathValue) :
    (addPath id value).execute w =
      (extend id (.ofPath w.host value) (·.addPath (.ofPath w.host value))).execute w := by
  simp [addPath, execute_bind]

theorem execute_addUrl_eq (w : World) (id : Nat) (target : Target) :
    (addUrl id target).execute w =
      (extend id (.ofTarget w.host target) (·.addUrl (.ofTarget w.host target))).execute w := by
  simp [addUrl, execute_bind]

theorem execute_addPath (hc : w.context? id = some c) (value : PathValue) :
    ∃ w', (addPath id value).execute w = ((Extension.ofPath w.host value).ending, w') ∧
      w'.context? id = some (c.addPath (Extension.ofPath w.host value)) := by
  rw [execute_addPath_eq]
  exact execute_extend hc _ _

theorem execute_addUrl (hc : w.context? id = some c) (target : Target) :
    ∃ w', (addUrl id target).execute w = ((Extension.ofTarget w.host target).ending, w') ∧
      w'.context? id = some (c.addUrl (Extension.ofTarget w.host target)) := by
  rw [execute_addUrl_eq]
  exact execute_extend hc _ _

end Launch

end Launcher
