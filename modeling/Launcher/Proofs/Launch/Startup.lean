-- SUMMARY: Start-up ends with a context, whatever the file system holds; only a launcher without a canonical path leaves its home unknown.
import Launcher.Proofs.Assembly.Partition
import Launcher.Proofs.Assembly.Preparation
import Launcher.Proofs.Home.Discovery

/-!
# Start-up

Discovery takes a launcher that has no canonical path for a launch from an unknown home. Every
home that it finds is free of NUL, and then so is every library folder, so that each scan ends
well or with a diagnostic. A context is therefore prepared in every case.
-/
namespace Launcher

/-! ## The assembly -/

/-- No segment of the assembly holds a NUL. -/
def Assembly.NulFree (a : Assembly) : Prop := ∀ s ∈ a.segments, Text.has '\x00' s = false

theorem Assembly.nulFree_ofEntry (cwd : String) (share : Bool) (entry : Path) :
    (ofEntry cwd share entry).NulFree := by
  unfold ofEntry NulFree
  simp only
  cases hl : Locator.ofSource cwd entry.text (shareSource entry.text share) with
  | ok l =>
    obtain ⟨-, -, hsource, -⟩ := Locator.ofSource_eq_ok_iff.mp hl
    simpa using hsource
  | error f => simp

theorem Host.nulFree_assemble {h : Host} {home : Option Path} {platform : Platform}
    {suffixes : List String} {a : Assembly}
    (hok : (h.assemble home platform suffixes).result = .ok a) : a.NulFree := by
  refine assemble_induction hok (by simp [Assembly.NulFree]) ?_ (Assembly.nulFree_ofEntry _ _)
  intro a b ha hb s hs
  rcases List.mem_append.mp hs with hs | hs
  · exact ha s hs
  · exact hb s hs

/-- A home without NUL is assembled, and without a home there is a diagnostic and nothing else. -/
theorem Host.assemble_result (h : Host) {home : Option Path} (platform : Platform)
    (suffixes : List String) (hhome : ∀ p, home = some p → p.NulFree) :
    ∃ a, (h.assemble home platform suffixes).result = .ok a ∧
      (home = none → a = { diagnostics := [Notice.unknownHome] }) := by
  unfold assemble
  cases home with
  | none => exact ⟨_, rfl, fun _ => rfl⟩
  | some p =>
    obtain ⟨scans, hscans, -⟩ :=
      h.scanAll_eq_ok suffixes fun d hd => has_text_libraryFolders (hhome p rfl) hd
    simp only [hscans]
    exact ⟨_, rfl, by simp⟩

/-! ## The context -/

theorem SearchPath.has_suffix {c : Char} {separator : String} {segments : List String}
    (hsep : Text.has c separator = false) (hsegments : ∀ s ∈ segments, Text.has c s = false) :
    Text.has c (suffix separator segments) = false := by
  simp only [Text.has_eq_false_iff] at *
  simp only [suffix, String.toList_join, List.mem_flatMap, List.mem_map]
  rintro ⟨_, ⟨s, hs, rfl⟩, hc⟩
  rw [String.toList_append] at hc
  exact (List.mem_append.mp hc).elim hsep (hsegments s hs)

namespace Launch

/-- Preparing a context carries out discovery and assembly, and holds what they come to. -/
theorem execute_prepare_of_ok {w : World} {env : Environment} {home : Option Path} {a : Assembly}
    (hhome : (w.host.locateHome env).result = .ok home)
    (ha : (w.host.assemble home env.platform archiveSuffixes).result = .ok a) (shares : Bool) :
    ∃ id w', (prepare env shares).execute w = (.ok id, w') ∧
      w'.context? id = some (.ofAssembly env home a) := by
  have hprepare : (w.host.prepare env).result = .ok (.ofAssembly env home a) := by
    simp [Host.prepare, hhome, ha, Except.bind]
  exact ⟨_, _, execute_prepare_eq hprepare shares, World.context?_hold _ _ shares⟩

/-- Start-up ends with a context, whatever the file system holds. The text of the search path is
    published, and no NUL is in it. The home is unknown only where the launcher of a packaged launch
    has no canonical path. Then one diagnostic says so, nothing was assembled, and the search path
    is as it was given. -/
theorem prepare_never_fails (w : World) (env : Environment) (shares : Bool)
    (hsep : env.separator ≠ "") (henv : env.NulFree) (hhost : w.host.NulFree) :
    ∃ id w' c, (prepare env shares).execute w = (.ok id, w') ∧ w'.context? id = some c ∧
      c.env.properties.get? searchPathVariable = some c.path.value ∧
      Text.has '\x00' c.path.value = false ∧
      (c.home = none ↔ w.host.LauncherIsLost env) ∧
      (c.home = none → c.path.locators = [] ∧ c.failures = [] ∧
        c.diagnostics = [Notice.unknownHome] ∧ c.path.value = env.searchPath) := by
  obtain ⟨home, hhome, hnul, hlost⟩ := Host.locateHome_result hhost henv hsep
  obtain ⟨a, ha, hunknown⟩ := w.host.assemble_result env.platform archiveSuffixes hnul
  obtain ⟨id, w', hrun, hheld⟩ := execute_prepare_of_ok hhome ha shares
  have hvalue : Text.has '\x00' (Context.ofAssembly env home a).path.value = false := by
    have hsuffix : Text.has '\x00' (SearchPath.suffix env.separator a.segments) = false :=
      SearchPath.has_suffix henv.separator (Host.nulFree_assemble ha)
    rw [Context.ofAssembly, Context.publish, SearchPath.publish, Text.has_append, henv.searchPath,
      hsuffix]
    rfl
  refine ⟨id, w', _, hrun, hheld, Properties.get?_set_self _ _ _, hvalue, hlost, ?_⟩
  intro hnone
  obtain rfl := hunknown hnone
  refine ⟨rfl, rfl, rfl, ?_⟩
  simp [Context.ofAssembly, Context.publish, SearchPath.publish, SearchPath.suffix]

/-- A process whose launcher is one of two links that lead to each other. -/
def loopWorld : World where
  host :=
    { cwd := "/work"
      files :=
        { entries :=
            [(["opt"], .plainDirectory), (["opt", "a"], { kind := .link "b" }),
              (["opt", "b"], { kind := .link "a" })]
          distinct := by decide
          named := by decide } }
  style := .ofVariables [] (.ofInt 0)

/-- The environment of a launch through one of the links. -/
def loopEnvironment : Environment := { searchPath := "/opt/a" }

theorem prepare_never_fails_loop :
    (loopEnvironment.separator ≠ "" ∧ loopEnvironment.NulFree ∧ loopWorld.host.NulFree) ∧
    ∃ id w' c, (prepare loopEnvironment true).execute loopWorld = (.ok id, w') ∧
      w'.context? id = some c ∧ c.home = none ∧ c.path.value = "/opt/a" := by
  have hsep : loopEnvironment.separator ≠ "" := by decide
  have henv : loopEnvironment.NulFree := ⟨by decide, by decide, by rintro _ ⟨⟩, by decide⟩
  have hhost : loopWorld.host.NulFree := ⟨by decide, by decide⟩
  obtain ⟨id, w', c, hrun, hheld, -, -, hlost, hunknown⟩ :=
    prepare_never_fails loopWorld loopEnvironment true hsep henv hhost
  have hnone : c.home = none :=
    hlost.mpr ⟨["/opt/a"], (Error.linkLoop "/opt/a" : Error), by decide, by decide, by decide +kernel⟩
  exact ⟨⟨hsep, henv, hhost⟩, id, w', c, hrun, hheld, hnone, (hunknown hnone).2.2.2⟩

end Launch

end Launcher
