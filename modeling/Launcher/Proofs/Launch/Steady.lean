-- SUMMARY: Computations that leave alone who is in charge of a process, and give no report.
import Launcher.Proofs.Launch.Tame

/-!
# Steady computations

A computation is steady if it leaves the registered context, the finders and the current
loader as they are, gives no report, and starts nothing; so whatever it makes application code
do happens under the same charge. Steadiness holds in every world and however the computation
ends. Every move of a tame computation is steady, so tame computations are, and so is setting a
context.
-/
namespace Launcher

/-! ## Steady changes -/

/-- From the first world to the second, nothing was done about who is in charge, no report was
    given, and what happened happened under that charge and started nothing. -/
structure World.Steady (w w' : World) : Prop where
  standing : w'.standing = w.standing
  occurrences : ∃ more, w'.output.occurrences = w.output.occurrences ++ more ∧
    ∀ o ∈ more, o.standing = w.standing ∧ o.event.isStart = false
  reports : w'.output.reports = w.output.reports
  err : w'.output.err = w.output.err

namespace World

variable {rule : Logging → Logging → Prop} {w w' w'' : World}

theorem Steady.refl (w : World) : w.Steady w where
  standing := rfl
  occurrences := ⟨[], by simp, by simp⟩
  reports := rfl
  err := rfl

theorem Steady.trans (h : w.Steady w') (h' : w'.Steady w'') : w.Steady w'' where
  standing := h'.standing.trans h.standing
  occurrences := by
    obtain ⟨more, hmore, hall⟩ := h.occurrences
    obtain ⟨more', hmore', hall'⟩ := h'.occurrences
    refine ⟨more ++ more', by rw [hmore', hmore, List.append_assoc], ?_⟩
    intro o ho
    rcases List.mem_append.mp ho with ho | ho
    · exact hall o ho
    · rw [← h.standing]
      exact hall' o ho
  reports := h'.reports.trans h.reports
  err := h'.err.trans h.err

/-- What keeps the charge and all output is steady. -/
theorem Steady.of_output (hstanding : w'.standing = w.standing) (houtput : w'.output = w.output) :
    w.Steady w' where
  standing := hstanding
  occurrences := ⟨[], by simp [houtput], by simp⟩
  reports := by rw [houtput]
  err := by rw [houtput]

theorem Logs.steady (h : w.Logs w') : w.Steady w' := by
  obtain ⟨_, _, rfl⟩ := h
  exact ⟨rfl, ⟨[], by simp, by simp⟩, rfl, rfl⟩

theorem steady_happen (w : World) {e : Event} (he : e.isStart = false) : w.Steady (w.happen e) where
  standing := rfl
  occurrences := ⟨[⟨e, w.standing⟩], rfl, by simp [he]⟩
  reports := rfl
  err := rfl

theorem steady_setContext (w : World) (id : Nat) (c : Context) : w.Steady (w.setContext id c) := by
  obtain ⟨_, _, heq⟩ := w.setContext_eq id c
  rw [heq]
  exact .of_output rfl rfl

theorem Move.steady (h : Move rule w w') : w.Steady w' := by
  cases h with
  | logged logs => exact logs.steady
  | happened quiet => exact steady_happen w quiet
  | configured logging allowed => exact .of_output rfl rfl
  | imported imports finders current =>
    refine .of_output ?_ rfl
    simp [standing, finders, current]
  | loaded held e => exact steady_setContext w _ _
  | published held e => exact steady_setContext w _ _

theorem Moves.steady (h : Moves rule w w') : w.Steady w' := h.of_move Steady.refl Steady.trans Move.steady

end World

/-! ## Steady computations -/

namespace Launch

/-- Carried out in this world, the computation is steady. A request to abort is none of its
    ends. -/
def SteadyAt (w : World) (x : Launch α) : Prop :=
  w.Steady (x.execute w).2 ∧ (x.execute w).1 ≠ .error .abort

/-- Carried out in any world, the computation is steady. -/
def Steady (x : Launch α) : Prop := ∀ w, SteadyAt w x

variable {w : World} {x : Launch α} {f : α → Launch β}

theorem Tame.steady (hx : Tame Logging.Free x) : Steady x := by
  intro w
  obtain ⟨hmoves, habort⟩ := hx w
  exact ⟨hmoves.steady, habort⟩

theorem SteadyAt.bind (hx : SteadyAt w x)
    (hf : ∀ a w', x.execute w = (.ok a, w') → w.Steady w' → SteadyAt w' (f a)) :
    SteadyAt w (x >>= f) := by
  unfold SteadyAt at hx ⊢
  rw [execute_bind]
  match hrun : x.execute w with
  | (.ok a, w') =>
    rw [hrun] at hx
    obtain ⟨hsteady, habort⟩ := hf a w' hrun hx.1
    exact ⟨hx.1.trans hsteady, habort⟩
  | (.error r, w') =>
    rw [hrun] at hx
    refine ⟨hx.1, ?_⟩
    intro hr
    cases hr
    exact hx.2 rfl

theorem steady_modify {change : World → World} (h : ∀ w : World, w.Steady (change w)) :
    Steady (modify change : Launch Unit) := by
  intro w
  exact ⟨h w, by simp⟩

theorem steady_addPath (id : Nat) (value : PathValue) : Steady (addPath id value) :=
  (tame_addPath id value).steady

end Launch

end Launcher
