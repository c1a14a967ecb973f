-- SUMMARY: What a context is when it has been prepared: that of an assembly, with a segment for each locator.
import Launcher.Proofs.World.Contexts

/-!
# Prepared contexts

Preparing a context ends well only with an assembly, and the context is held as that assembly makes
it. Each segment of an assembly is the source that the location of its locator was built from,
whatever the working directory and the home are.
-/
namespace Launcher

/-! ## Assemblies, entry by entry -/

section Induction

variable {motive : Assembly → Prop}

theorem Assembly.join_induction (hempty : motive {})
    (happend : ∀ a b, motive a → motive b → motive (a ++ b)) {as : List Assembly}
    (h : ∀ a ∈ as, motive a) : motive (join as) := by
  induction as with
  | nil => exact hempty
  | cons a as ih => exact happend _ _ (h a (by simp)) (ih fun b hb => h b (by simp [hb]))

/-- What holds of diagnostics alone and of each entry, and is kept when assemblies are added up,
    holds of an assembly. -/
theorem Host.assemble_induction {h : Host} {home : Option Path} {platform : Platform}
    {suffixes : List String} {a : Assembly}
    (hok : (h.assemble home platform suffixes).result = .ok a)
    (hdiagnostics : ∀ diagnostics, motive { diagnostics })
    (happend : ∀ a b, motive a → motive b → motive (a ++ b))
    (hentry : ∀ entry, motive (.ofEntry h.cwd platform.usesShares entry)) : motive a := by
  unfold assemble at hok
  cases home with
  | none =>
    cases hok
    exact hdiagnostics _
  | some home =>
    simp only at hok
    cases hscans : h.scanAll suffixes (libraryFolders home) with
    | error f => simp [hscans] at hok
    | ok scans =>
      rw [hscans] at hok
      cases hok
      refine Assembly.join_induction (hdiagnostics []) happend ?_
      intro a ha
      obtain ⟨s, -, rfl⟩ := List.mem_map.mp ha
      refine happend _ _ (hdiagnostics _) (Assembly.join_induction (hdiagnostics []) happend ?_)
      intro b hb
      obtain ⟨entry, -, rfl⟩ := List.mem_map.mp hb
      exact hentry entry

end Induction

/-- Each segment is the source of the location of its locator. -/
def Assembly.Aligned (share : Bool) (a : Assembly) : Prop :=
  a.segments = a.locators.map fun l => shareSource l.path share

theorem Assembly.aligned_ofEntry {share : Bool} {cwd : String} (entry : Path) :
    (ofEntry cwd share entry).Aligned share := by
  unfold ofEntry Aligned
  simp only
  cases hl : Locator.ofSource cwd entry.text (shareSource entry.text share) with
  | ok l => simp [Locator.ofSource_path hl]
  | error f => rfl

theorem Host.aligned_assemble {h : Host} {home : Option Path} {platform : Platform}
    {suffixes : List String} {a : Assembly}
    (hok : (h.assemble home platform suffixes).result = .ok a) : a.Aligned platform.usesShares := by
  refine assemble_induction hok (fun _ => rfl) ?_ Assembly.aligned_ofEntry
  intro a b ha hb
  unfold Assembly.Aligned at ha hb ⊢
  rw [Assembly.append_segments, Assembly.append_locators, List.map_append, ha, hb]

/-! ## Preparing -/

/-- A context that is prepared is that of an assembly. -/
theorem Host.prepare_eq_ok {h : Host} {env : Environment} {c : Context}
    (hok : (h.prepare env).result = .ok c) :
    ∃ home a, (h.assemble home env.platform archiveSuffixes).result = .ok a ∧
      c = .ofAssembly env home a := by
  unfold prepare at hok
  simp only [Noted.bind_result, Noted.say_result, Noted.pure_result] at hok
  cases hhome : (h.locateHome env).result with
  | error f => simp [hhome, Except.bind] at hok
  | ok home =>
    cases ha : (h.assemble home env.platform archiveSuffixes).result with
    | error f => simp [hhome, ha, Except.bind] at hok
    | ok a =>
      simp only [hhome, ha, Except.bind, Except.ok.injEq] at hok
      exact ⟨home, a, ha, hok.symm⟩

/-- A context that is prepared is held, after what there is to say about it. -/
theorem Launch.execute_prepare_eq {env : Environment} {w : World} {c : Context}
    (hc : (w.host.prepare env).result = .ok c) (shares : Bool) :
    (prepare env shares).execute w =
      (.ok ((w.notifyAll (w.host.prepare env).notices).hold c shares).1,
        ((w.notifyAll (w.host.prepare env).notices).hold c shares).2) := by
  simp [prepare, noted, execute_bind, lift, hc]

theorem Launch.execute_prepare {env : Environment} {shares : Bool} {w w' : World} {id : Nat}
    (hrun : (prepare env shares).execute w = (.ok id, w')) :
    ∃ c, (w.host.prepare env).result = .ok c ∧ w'.context? id = some c := by
  cases hc : (w.host.prepare env).result with
  | error f =>
    simp [prepare, noted, execute_bind, lift, hc] at hrun
  | ok c =>
    rw [execute_prepare_eq hc] at hrun
    cases hrun
    exact ⟨c, rfl, World.context?_hold _ c shares⟩

end Launcher
