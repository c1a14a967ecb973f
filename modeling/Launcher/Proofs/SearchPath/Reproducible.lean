-- SUMMARY: Contexts do not depend on the order in which directories list their children, whatever is asked of a process.
import Launcher.Proofs.Archive.Order
import Launcher.Proofs.SearchPath.History

/-!
# Reproducible runs

Two processes that differ only in the order in which their directories list children are asked the
same: to prepare contexts, and to extend them. What an extension or an assembly comes to is
computed from lookups, canonical paths and scans, and none of them shows the order. So each
request ends the same way in both processes, and leaves processes behind that differ in the order
only. By induction, so does every sequence of requests.
-/
namespace Launcher

/-! ## What is computed from the files -/

namespace Host.Relists

variable {h h' : Host}

/-! ### Preparing -/

theorem homeOfLauncher_eq (hr : h.Relists h') (launcher : String) :
    h'.homeOfLauncher launcher = h.homeOfLauncher launcher := by
  simp only [homeOfLauncher, hr.canonical_eq]

theorem locateHome_eq (hr : h.Relists h') (env : Environment) :
    h'.locateHome env = h.locateHome env := by
  simp only [locateHome, hr.homeOfLauncher_eq, hr.cwd]

theorem scanAll_eq (hr : h.Relists h') (suffixes : List String) (folders : List Path) :
    h'.scanAll suffixes folders = h.scanAll suffixes folders := by
  induction folders with
  | nil => rfl
  | cons folder folders ih => simp only [scanAll, hr.scan_eq, ih]

theorem assemble_eq (hr : h.Relists h') (home : Option Path) (platform : Platform)
    (suffixes : List String) :
    h'.assemble home platform suffixes = h.assemble home platform suffixes := by
  simp only [assemble, hr.scanAll_eq, hr.cwd]

theorem prepare_eq (hr : h.Relists h') (env : Environment) : h'.prepare env = h.prepare env := by
  simp only [prepare, hr.locateHome_eq, hr.assemble_eq]

/-! ### Extending -/

theorem childArchives_eq (hr : h.Relists h') (directory : Path) :
    h'.childArchives directory = h.childArchives directory := by
  simp only [childArchives, hr.isDirectory_eq, hr.scan_eq]

theorem convertAll_eq (hr : h.Relists h') (paths : List Path) :
    h'.convertAll paths = h.convertAll paths := by
  induction paths with
  | nil => rfl
  | cons p ps ih => simp only [convertAll, hr.cwd, ih]

theorem ofBase_eq (hr : h.Relists h') (base : Locator) (directory : Path)
    (close : List Path → List String × List Notice) :
    Extension.ofBase h' base directory close = Extension.ofBase h base directory close := by
  simp only [Extension.ofBase, hr.childArchives_eq, hr.convertAll_eq]

theorem ofPath_eq (hr : h.Relists h') (value : PathValue) :
    Extension.ofPath h' value = Extension.ofPath h value := by
  simp only [Extension.ofPath, hr.cwd, hr.isDirectory_eq, hr.ofBase_eq]

theorem ofTarget_eq (hr : h.Relists h') (target : Target) :
    Extension.ofTarget h' target = Extension.ofTarget h target := by
  cases target with
  | locator l => rfl
  | path value => simp only [Extension.ofTarget, Extension.ofUrl, hr.cwd, hr.ofBase_eq]

/-! ### Finding modules -/

theorem provider?_eq (hr : h.Relists h') (paths : List String) (name : String) :
    h'.provider? paths name = h.provider? paths name := by
  simp only [provider?, provides, hr.stat_eq]

end Host.Relists

/-! ## Processes that differ in the order -/

namespace World

variable {w w' : World}

/-- The second world is the first one with its files listed in another order. -/
def Relists (w w' : World) : Prop := ∃ h, w.host.Relists h ∧ w' = { w with host := h }

namespace Relists

theorem host (hr : w.Relists w') : w.host.Relists w'.host := by
  obtain ⟨h, hh, rfl⟩ := hr
  exact hh

theorem context? (hr : w.Relists w') (id : Nat) : w'.context? id = w.context? id := by
  obtain ⟨h, -, rfl⟩ := hr
  rfl

theorem output (hr : w.Relists w') : w'.output = w.output := by
  obtain ⟨h, -, rfl⟩ := hr
  rfl

theorem environment (hr : w.Relists w') : w'.environment = w.environment := by
  obtain ⟨h, hh, rfl⟩ := hr
  simp only [World.environment, hh.cwd]

/-! ### Logging -/

theorem recordCall (hr : w.Relists w') (r : Record) :
    (w.recordCall r).Relists (w'.recordCall r) := by
  obtain ⟨h, hh, rfl⟩ := hr
  unfold World.recordCall
  dsimp only
  cases w.recording && isOwnLogger r.logger with
  | false => exact ⟨h, hh, rfl⟩
  | true => exact ⟨h, hh, rfl⟩

theorem foldl_handle (hr : w.Relists w') (r : Record) (handlers : List Handler) :
    (handlers.foldl (handle r) w).Relists (handlers.foldl (handle r) w') := by
  induction handlers generalizing w w' with
  | nil => exact hr
  | cons handler handlers ih =>
    refine ih ?_
    obtain ⟨h, hh, rfl⟩ := hr
    unfold handle print
    cases handler.kind with
    | standard => exact ⟨h, hh, rfl⟩
    | silent => exact ⟨h, hh, rfl⟩

theorem log (hr : w.Relists w') (r : Record) : (w.log r).Relists (w'.log r) := by
  have hrecorded := hr.recordCall r
  -- whether the record passes is decided by what both worlds share
  have hlogging : (w'.recordCall r).logging = (w.recordCall r).logging := by
    obtain ⟨h, -, heq⟩ := hrecorded
    rw [heq]
  unfold World.log
  simp only [hlogging]
  split
  · exact hrecorded.foldl_handle r _
  · exact hrecorded

theorem notifyAll (hr : w.Relists w') (notices : List Notice) :
    (w.notifyAll notices).Relists (w'.notifyAll notices) := by
  unfold World.notifyAll
  induction notices generalizing w w' with
  | nil => exact hr
  | cons n notices ih => exact ih (hr.log _)

/-! ### Contexts -/

theorem setContext (hr : w.Relists w') (id : Nat) (c : Context) :
    (w.setContext id c).Relists (w'.setContext id c) := by
  obtain ⟨h, hh, rfl⟩ := hr
  unfold World.setContext
  cases w.contexts[id]? with
  | none => exact ⟨h, hh, rfl⟩
  | some held => exact ⟨h, hh, rfl⟩

end Relists

end World

/-! ## Reproducible computations -/

namespace Launch

variable {x : Launch α} {f : α → Launch β}

/-- Carried out in worlds that differ in the order only, the computation ends the same way and
    leaves such worlds behind. -/
def Reproducible (x : Launch α) : Prop :=
  ∀ w w', w.Relists w' → (x.execute w').1 = (x.execute w).1 ∧
    (x.execute w).2.Relists (x.execute w').2

theorem Reproducible.bind (hx : Reproducible x) (hf : ∀ a, Reproducible (f a)) :
    Reproducible (x >>= f) := by
  intro w w' hr
  obtain ⟨hending, hafter⟩ := hx w w' hr
  rw [execute_bind, execute_bind]
  match hrun : x.execute w, hrun' : x.execute w' with
  | (ending, after), (ending', after') =>
    rw [hrun, hrun'] at hending hafter
    dsimp only at hending hafter
    subst hending
    cases ending' with
    | ok a => exact hf a after after' hafter
    | error r => exact ⟨rfl, hafter⟩

/-- What is done with the world as it is found must not show the order. -/
theorem Reproducible.get_bind {g : World → Launch β} (hsame : ∀ w w', w.Relists w' → g w' = g w)
    (hg : ∀ w, Reproducible (g w)) : Reproducible (get >>= g) := by
  intro w w' hr
  rw [execute_bind, execute_bind, execute_get, execute_get]
  dsimp only
  rw [hsame w w' hr]
  exact hg w w w' hr

theorem reproducible_pure (a : α) : Reproducible (pure a : Launch α) := by
  intro w w' hr
  exact ⟨rfl, hr⟩

theorem reproducible_fail (e : Fault) : Reproducible (fail e : Launch α) := by
  intro w w' hr
  exact ⟨rfl, hr⟩

theorem reproducible_modify {change : World → World}
    (h : ∀ w w', w.Relists w' → (change w).Relists (change w')) :
    Reproducible (modify change : Launch Unit) := by
  intro w w' hr
  exact ⟨rfl, h w w' hr⟩

theorem reproducible_lift (r : Except Fault α) : Reproducible (lift r) := by
  cases r with
  | ok a => exact reproducible_pure a
  | error e => exact reproducible_fail e

theorem reproducible_noted (x : Noted α) : Reproducible (noted x) :=
  .bind (reproducible_modify fun _ _ hr => hr.notifyAll x.notices) fun _ => reproducible_lift x.result

theorem reproducible_context (id : Nat) : Reproducible (context id) := by
  refine .get_bind (fun w w' hr => by rw [hr.context? id]) fun w => ?_
  split
  · exact reproducible_pure _
  · exact reproducible_fail _

/-! ### Preparing and extending contexts -/

theorem reproducible_prepare (env : Environment) (shares : Bool) :
    Reproducible (prepare env shares) := by
  refine .get_bind (fun w w' hr => by rw [hr.host.prepare_eq]) fun w => ?_
  refine .bind (reproducible_noted _) fun c => ?_
  intro w w' hr
  obtain ⟨h, hh, rfl⟩ := hr
  exact ⟨rfl, h, hh, rfl⟩

theorem reproducible_extend (id : Nat) (e : Extension) (change : Context → Context) :
    Reproducible (extend id e change) := by
  refine .bind (reproducible_context id) fun c => ?_
  refine .bind (reproducible_modify fun _ _ hr => hr.setContext id (change c)) fun _ => ?_
  refine .bind (reproducible_modify fun _ _ hr => hr.notifyAll e.notices) fun _ => ?_
  exact reproducible_lift e.result

theorem reproducible_addPath (id : Nat) (value : PathValue) : Reproducible (addPath id value) :=
  .get_bind (fun w w' hr => by simp only [hr.host.ofPath_eq]) fun w => reproducible_extend id _ _

theorem reproducible_addUrl (id : Nat) (target : Target) : Reproducible (addUrl id target) :=
  .get_bind (fun w w' hr => by simp only [hr.host.ofTarget_eq]) fun w => reproducible_extend id _ _

theorem reproducible_findModule (id : Nat) (name : String) (below : Bool) :
    Reproducible (findModule id name below) := by
  refine .bind (reproducible_context id) fun c => ?_
  refine .get_bind ?_ fun w => reproducible_pure _
  intro w w' hr
  simp only [Context.findModule, hr.host.provider?_eq]

end Launch

theorem Call.reproducible (id : Nat) (call : Call) : (call.launch id).Reproducible := by
  cases call with
  | addPath value => exact Launch.reproducible_addPath id value
  | addUrl target => exact Launch.reproducible_addUrl id target
  | find name below =>
    exact .bind (Launch.reproducible_findModule id name below) fun _ => Launch.reproducible_pure ()
  | activate =>
    refine Launch.reproducible_modify ?_
    rintro w _ ⟨h, hh, rfl⟩
    exact ⟨h, hh, rfl⟩
  | deactivate =>
    refine Launch.reproducible_modify ?_
    rintro w _ ⟨h, hh, rfl⟩
    exact ⟨h, hh, rfl⟩

/-! ## Requests -/

/-- What a process is asked to do: to prepare a context, from what it finds about itself or in an
    environment that is given, or to call upon a context. -/
inductive Request where
  | prepare
  | prepareIn (env : Environment) (shares : Bool)
  | call (id : Nat) (call : Call)

namespace Request

/-- Carry out a request. A context is known by its number, which is that of the contexts before. -/
def launch : Request → Launch Unit
  | prepare => do
    let _ ← Launch.prepare (← get).environment true
  | prepareIn env shares => do
    let _ ← Launch.prepare env shares
  | .call id called => called.launch id

/-- Carry out requests one after another, whether they end well or early. The answer is how each
    of them ends, and the world then. -/
def runAll : List Request → World → List (Except Raised Unit) × World
  | [], w => ([], w)
  | request :: requests, w =>
    let (ending, w) := request.launch.execute w
    let (endings, w) := runAll requests w
    (ending :: endings, w)

theorem reproducible (request : Request) : request.launch.Reproducible := by
  cases request with
  | prepare =>
    refine .get_bind (fun w w' hr => by rw [hr.environment]) fun w => ?_
    exact .bind (Launch.reproducible_prepare _ true) fun _ => Launch.reproducible_pure ()
  | prepareIn env shares =>
    exact .bind (Launch.reproducible_prepare env shares) fun _ => Launch.reproducible_pure ()
  | call id called => exact called.reproducible id

/-- Requests end the same way in worlds that differ in the order only, and leave such worlds. -/
theorem relists_runAll {w w' : World} (hr : w.Relists w') (requests : List Request) :
    (runAll requests w').1 = (runAll requests w).1 ∧
      (runAll requests w).2.Relists (runAll requests w').2 := by
  induction requests generalizing w w' with
  | nil => exact ⟨rfl, hr⟩
  | cons request requests ih =>
    obtain ⟨hending, hafter⟩ := request.reproducible w w' hr
    obtain ⟨hendings, hlast⟩ := ih hafter
    refine ⟨?_, hlast⟩
    simp only [runAll, hending, hendings]

end Request

/-- Whatever a process is asked to do, it does the same when its directories list their children
    in another order: each request ends well in both processes or ends early in both for the same
    reason, all contexts have the same home, locators, published text, properties, failures and
    diagnostics, in the same order, and the same is put out. -/
theorem runAll_reproducible {w : World} {h' : Host} (hr : w.host.Relists h')
    (requests : List Request) :
    (Request.runAll requests { w with host := h' }).1 = (Request.runAll requests w).1 ∧
    (∀ id, (Request.runAll requests { w with host := h' }).2.context? id =
      (Request.runAll requests w).2.context? id) ∧
    (Request.runAll requests { w with host := h' }).2.output =
      (Request.runAll requests w).2.output := by
  have hworlds : w.Relists { w with host := h' } := ⟨h', hr, rfl⟩
  obtain ⟨hendings, hlast⟩ := Request.relists_runAll hworlds requests
  exact ⟨hendings, hlast.context?, hlast.output⟩

/-- A process with a directory that holds two archives and lists them in the order of their names. -/
def pairWorld : World where
  host :=
    { cwd := "/work"
      files :=
        { entries :=
            [(["srv"], .plainDirectory), (["srv", "a.zip"], { kind := .file .malformed }),
              (["srv", "b.zip"], { kind := .file .malformed })]
          distinct := by decide
          named := by decide } }
  style := .ofVariables [] (.ofInt 0)

/-- The same files, with the two archives listed the other way around. -/
def swappedHost : Host where
  cwd := "/work"
  files :=
    { entries :=
        [(["srv"], .plainDirectory), (["srv", "b.zip"], { kind := .file .malformed }),
          (["srv", "a.zip"], { kind := .file .malformed })]
      distinct := by decide
      named := by decide }

/-- The directory of the two archives. -/
def pairDirectory : Path := ⟨.root, ["srv"]⟩

theorem paths_ofPath_pairWorld :
    (Extension.ofPath pairWorld.host (.text "/srv")).locators.map Locator.path =
      ["/srv/", "/srv/a.zip", "/srv/b.zip"] := by
  have hdirectory : pairWorld.host.isDirectory pairDirectory = .ok true := by rfl
  have hlist : pairWorld.host.list pairDirectory.text =
      .ok [("a.zip", { kind := .file .malformed }), ("b.zip", { kind := .file .malformed })] := by
    rfl
  have hsorted : sortPaths [pairDirectory.child "a.zip", pairDirectory.child "b.zip"] =
      [pairDirectory.child "a.zip", pairDirectory.child "b.zip"] :=
    List.mergeSort_of_pairwise (by decide)
  have hscan : pairWorld.host.scan pairDirectory archiveSuffixes true =
      .ok ⟨pairDirectory, .ok [pairDirectory.child "a.zip", pairDirectory.child "b.zip"]⟩ := by
    rw [Host.scan, hlist, ← hsorted]
    rfl
  have hbase : Extension.ofPath pairWorld.host (.text "/srv") =
      Extension.ofBase pairWorld.host ⟨"/srv/", "file:///srv"⟩ pairDirectory
        (Extension.published "/srv") := by rfl
  rw [hbase]
  simp only [Extension.ofBase, Host.childArchives, hdirectory, hscan]
  rfl

theorem runAll_reproducible_pair :
    pairWorld.host.files.children ["srv"] = ["a.zip", "b.zip"] ∧
    swappedHost.files.children ["srv"] = ["b.zip", "a.zip"] ∧
    pairWorld.host.Relists swappedHost ∧
    ((Request.runAll [.prepare, .call 0 (.addPath (.text "/srv"))]
        { pairWorld with host := swappedHost }).2.context? 0).map (fun c => c.path.paths) =
      some ["/srv/", "/srv/a.zip", "/srv/b.zip"] := by
  have hrelists : pairWorld.host.Relists swappedHost :=
    ⟨fun _ => (List.Perm.cons _ (List.Perm.swap _ _ [])).mem_iff, rfl⟩
  refine ⟨by decide, by decide, hrelists, ?_⟩
  rw [(runAll_reproducible hrelists _).2.1 0]
  have hprepared : ∃ c, ((Request.launch .prepare).execute pairWorld).2.context? 0 = some c ∧
      c.path.locators = [] := ⟨_, rfl, rfl⟩
  obtain ⟨c, hc, hempty⟩ := hprepared
  obtain ⟨ending, w', hrun, hc'⟩ := (Call.addPath (.text "/srv")).execute_launch hc
  have hlast : (Request.runAll [.prepare, .call 0 (.addPath (.text "/srv"))] pairWorld).2 = w' :=
    congrArg Prod.snd hrun
  have hhost : ((Request.launch .prepare).execute pairWorld).2.host = pairWorld.host := by rfl
  rw [hlast, hc', hhost, Option.map_some, Call.effect, SearchPath.paths, Context.addPath_locators,
    hempty, List.nil_append, paths_ofPath_pairWorld]

end Launcher
