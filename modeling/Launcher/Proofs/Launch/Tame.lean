-- SUMMARY: Tame computations: all that they do to a process is made of moves of a few kinds.
import Launcher.Proofs.World.Contexts
import Mathlib.Logic.Relation

/-!
# Tame computations

Most computations change a process by moves of a few kinds: something is logged, something other
than a start happens, logging or what has been imported changes, or a context is extended. A
computation is tame if it comes to a sequence of such moves, in every world and however it ends, and
if a request to abort is none of its ends. So whatever each kind of move leaves alone, a tame
computation does. How logging may change is a parameter: most computations keep to any rule about
that, since they do not change it. Tameness is put together from the parts of a computation.
-/
namespace Launcher

/-! ## Moves -/

/-- Is the event the start of an application? -/
def Event.isStart : Event → Bool
  | .started .. => true
  | _ => false

@[simp] theorem Event.isStart_started (label : String) (args : List String) :
    (Event.started label args).isStart = true := rfl

/-- The rule by which logging may change in any way. -/
def Logging.Free (_ _ : Logging) : Prop := True

namespace World

/-- What a tame computation does to a process at a time. Logging changes by the rule, and imports
    keep the finders and the current loader. -/
inductive Move (rule : Logging → Logging → Prop) (w : World) : World → Prop
  | logged {w' : World} (logs : w.Logs w') : Move rule w w'
  | happened {e : Event} (quiet : e.isStart = false) : Move rule w (w.happen e)
  | configured (logging : Logging) (allowed : rule w.logging logging) : Move rule w { w with logging }
  | imported (imports : Imports) (finders : imports.finders = w.imports.finders)
    (current : imports.current = w.imports.current) : Move rule w { w with imports }
  | loaded {id : Nat} {c : Context} (held : w.context? id = some c) (e : Extension) :
    Move rule w (w.setContext id (c.addUrl e))
  | published {id : Nat} {c : Context} (held : w.context? id = some c) (e : Extension) :
    Move rule w (w.setContext id (c.addPath e))

/-- Any number of moves, one after another. -/
def Moves (rule : Logging → Logging → Prop) : World → World → Prop :=
  Relation.ReflTransGen (Move rule)

variable {rule : Logging → Logging → Prop} {w w' w'' : World}

theorem Moves.refl (w : World) : Moves rule w w := Relation.ReflTransGen.refl

theorem Moves.trans (h : Moves rule w w') (h' : Moves rule w' w'') : Moves rule w w'' :=
  Relation.ReflTransGen.trans h h'

theorem Move.moves (h : Move rule w w') : Moves rule w w' := Relation.ReflTransGen.single h

/-- A relation between worlds that every move keeps to is kept to by all moves together. -/
theorem Moves.of_move {r : World → World → Prop} (hrefl : ∀ w, r w w)
    (htrans : ∀ {w w' w''}, r w w' → r w' w'' → r w w'')
    (hmove : ∀ {w w'}, Move rule w w' → r w w') (h : Moves rule w w') : r w w' := by
  induction h with
  | refl => exact hrefl w
  | tail _ hlast ih => exact htrans ih (hmove hlast)

end World

/-! ## Tame computations -/

namespace Launch

/-- Carried out in this world, the computation comes to moves. A request to abort is none of its
    ends. -/
def TameAt (rule : Logging → Logging → Prop) (w : World) (x : Launch α) : Prop :=
  World.Moves rule w (x.execute w).2 ∧ (x.execute w).1 ≠ .error .abort

/-- Carried out in any world, the computation is tame. -/
def Tame (rule : Logging → Logging → Prop) (x : Launch α) : Prop := ∀ w, TameAt rule w x

variable {rule : Logging → Logging → Prop} {w : World} {x : Launch α} {f : α → Launch β}
  {handle : Raised → Launch α} {e : Fault}

/-! ### Putting tame computations together -/

theorem TameAt.bind (hx : TameAt rule w x)
    (hf : ∀ a w', x.execute w = (.ok a, w') → World.Moves rule w w' → TameAt rule w' (f a)) :
    TameAt rule w (x >>= f) := by
  unfold TameAt at hx ⊢
  rw [execute_bind]
  match hrun : x.execute w with
  | (.ok a, w') =>
    rw [hrun] at hx
    obtain ⟨htame, habort⟩ := hf a w' hrun hx.1
    exact ⟨hx.1.trans htame, habort⟩
  | (.error r, w') =>
    rw [hrun] at hx
    refine ⟨hx.1, ?_⟩
    intro hr
    cases hr
    exact hx.2 rfl

theorem TameAt.tryCatch (hx : TameAt rule w x) (hhandle : ∀ r w', r ≠ .abort → TameAt rule w' (handle r)) :
    TameAt rule w (tryCatch x handle) := by
  unfold TameAt at hx ⊢
  rw [execute_tryCatch]
  match hrun : x.execute w with
  | (.ok a, w') =>
    rw [hrun] at hx
    exact ⟨hx.1, by simp⟩
  | (.error r, w') =>
    rw [hrun] at hx
    have hr : r ≠ .abort := by
      rintro rfl
      exact hx.2 rfl
    obtain ⟨htame, habort⟩ := hhandle r w' hr
    exact ⟨hx.1.trans htame, habort⟩

theorem Tame.bind (hx : Tame rule x) (hf : ∀ a, Tame rule (f a)) : Tame rule (x >>= f) := by
  intro w
  exact (hx w).bind fun a w' _ _ => hf a w'

theorem tame_tryCatch (hx : Tame rule x) (hhandle : ∀ r, r ≠ .abort → Tame rule (handle r)) :
    Tame rule (tryCatch x handle) := by
  intro w
  exact (hx w).tryCatch fun r w' hr => hhandle r hr w'

/-- What is done in the world as it is found has to be tame in that world only. -/
theorem Tame.get_bind {g : World → Launch β} (hg : ∀ w, TameAt rule w (g w)) :
    Tame rule (get >>= g) := by
  intro w
  exact hg w

theorem tame_pure (a : α) : Tame rule (pure a : Launch α) := by
  intro w
  exact ⟨.refl w, by simp⟩

theorem tame_throw {r : Raised} (hr : r ≠ .abort) : Tame rule (throw r : Launch α) := by
  intro w
  exact ⟨.refl w, by simpa using hr⟩

theorem tame_fail (e : Fault) : Tame rule (fail e : Launch α) := by
  intro w
  exact ⟨.refl w, by simp⟩

theorem tame_get : Tame rule (get : Launch World) := by
  intro w
  exact ⟨.refl w, by simp⟩

theorem tame_modify {change : World → World} (h : ∀ w : World, World.Move rule w (change w)) :
    Tame rule (modify change : Launch Unit) := by
  intro w
  exact ⟨(h w).moves, by simp⟩

/-- Where faults alone are dealt with, that has to be tame. -/
theorem tame_tryCatch_fault (hx : Tame rule x) (hexit : ∀ code, handle (.exit code) = throw (.exit code))
    (hinterrupt : handle .interrupt = throw .interrupt) (hfault : ∀ f, Tame rule (handle (.fault f))) :
    Tame rule (tryCatch x handle) := by
  refine tame_tryCatch hx fun r hr => ?_
  cases r with
  | fault f => exact hfault f
  | exit code => exact hexit code ▸ tame_throw hr
  | interrupt => exact hinterrupt ▸ tame_throw hr
  | abort => exact absurd rfl hr

/-- Where errors of a kind are dealt with, that has to be tame. -/
theorem Tame.rescue {kind : ErrorKind} {deal : Fault → Launch α} (hx : Tame rule x)
    (hdeal : ∀ f, Tame rule (deal f)) : Tame rule (rescue kind x deal) := by
  refine tame_tryCatch hx fun r hr => ?_
  cases r with
  | fault f =>
    simp only
    split
    · exact hdeal f
    · exact tame_fail f
  | _ => exact tame_throw hr

theorem Tame.foldlM {step : β → α → Launch β} (h : ∀ b a, Tame rule (step b a)) (as : List α)
    (b : β) : Tame rule (as.foldlM step b) := by
  induction as generalizing b with
  | nil => exact tame_pure b
  | cons a as ih => exact .bind (h b a) ih

theorem Tame.forM {step : α → Launch Unit} (h : ∀ a, Tame rule (step a)) (as : List α) :
    Tame rule (as.forM step) := by
  induction as with
  | nil => exact tame_pure ()
  | cons a as ih => exact .bind (h a) fun _ => ih

/-! ### Results, contexts and logging -/

theorem tame_lift (r : Except Fault α) : Tame rule (lift r) := by
  cases r with
  | ok a => exact tame_pure a
  | error f => exact tame_fail f

/-- What is done with a result has to be tame for the result that there is. -/
theorem TameAt.lift_bind {r : Except Fault α} (h : ∀ a, r = .ok a → TameAt rule w (f a)) :
    TameAt rule w (lift r >>= f) := by
  refine (tame_lift r w).bind fun a w' hrun _ => ?_
  cases r with
  | ok a =>
    cases hrun
    exact h _ rfl
  | error e => cases hrun

theorem tame_check (r : Except Error α) : Tame rule (check r) := by
  cases r with
  | ok a => exact tame_pure a
  | error e => exact tame_fail e

theorem tame_happen {e : Event} (he : e.isStart = false) : Tame rule (happen e) :=
  tame_modify fun _ => .happened he

theorem tame_changeLogging {change : Logging → Logging}
    (h : ∀ l, rule l (change l)) : Tame rule (changeLogging change) :=
  tame_modify fun w => .configured _ (h w.logging)

/-- A change of imports is a move in a world if it keeps the finders and the current loader. -/
theorem TameAt.changeImports {change : Imports → Imports}
    (hfinders : (change w.imports).finders = w.imports.finders)
    (hcurrent : (change w.imports).current = w.imports.current) :
    TameAt rule w (changeImports change) :=
  ⟨(World.Move.imported _ hfinders hcurrent).moves, by simp [Launch.changeImports]⟩

theorem tame_changeImports {change : Imports → Imports}
    (hfinders : ∀ i, (change i).finders = i.finders)
    (hcurrent : ∀ i, (change i).current = i.current) : Tame rule (changeImports change) := by
  intro w
  exact .changeImports (hfinders w.imports) (hcurrent w.imports)

theorem tame_context (id : Nat) : Tame rule (context id) := by
  refine .bind tame_get fun w => ?_
  split
  · exact tame_pure _
  · exact tame_fail _

theorem tame_registered : Tame rule registered := by
  refine .bind tame_get fun w => ?_
  split
  · exact tame_pure _
  · exact tame_fail _

/-- An extension is tame if what it makes of a context is a move. -/
theorem tame_extend (id : Nat) (e : Extension) {change : Context → Context}
    (hchange : ∀ {w : World} {c}, w.context? id = some c → World.Move rule w (w.setContext id (change c))) :
    Tame rule (extend id e change) := by
  intro w
  cases hc : w.context? id with
  | none =>
    have hnone : (extend id e change).execute w = (.error (.fault (Error.notHandedOff : Error)), w) := by
      simp [extend, context, execute_bind, hc]
    unfold TameAt
    rw [hnone]
    exact ⟨.refl w, by simp⟩
  | some c =>
    unfold TameAt
    rw [execute_extend_eq hc]
    have hlogs := World.logs_notifyAll (w.setContext id (change c)) e.notices
    refine ⟨(hchange hc).moves.trans (World.Move.logged hlogs).moves, ?_⟩
    unfold Extension.ending
    cases e.fault <;> simp

theorem tame_addPath (id : Nat) (value : PathValue) : Tame rule (addPath id value) :=
  .bind tame_get fun w => tame_extend id (.ofPath w.host value) (.published · _)

theorem tame_addUrl (id : Nat) (target : Target) : Tame rule (addUrl id target) :=
  .bind tame_get fun w => tame_extend id (.ofTarget w.host target) (.loaded · _)

end Launch

end Launcher
