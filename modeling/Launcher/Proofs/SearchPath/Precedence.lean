-- SUMMARY: Extending a search path never changes what was already found, and a new name comes from the earliest addition that provides it.
import Launcher.Proofs.SearchPath.Agreement
import Launcher.Proofs.SearchPath.History

/-!
# Precedence among locators

The loader of a context looks for a module at its locators in order, and calls on the context put
locators behind them only. So the locator that a name was found at stays the one that it is found
at. A name that was not found comes from the earliest locator that has been added and provides it:
from a directory before its archives, and from an archive before those whose names come later.
-/
namespace Launcher

/-! ## The earliest provider -/

namespace Host

variable {h : Host} {name : String} {ls more : List Locator}

/-- A locator provides a module under a name. -/
def Offers (h : Host) (name : String) (l : Locator) : Prop := (h.provides l.path name).isSome = true

/-- The first of several locators that provides a module under a name. -/
def earliest? (h : Host) (name : String) (ls : List Locator) : Option Locator :=
  ls.find? fun l => (h.provides l.path name).isSome

/-- The provider among the paths of locators is the path of the earliest locator. -/
theorem provider?_map_path (h : Host) (name : String) (ls : List Locator) :
    h.provider? (ls.map Locator.path) name = (h.earliest? name ls).map Locator.path :=
  List.find?_map ..

theorem earliest?_append (h : Host) (name : String) (ls more : List Locator) :
    h.earliest? name (ls ++ more) = (h.earliest? name ls).or (h.earliest? name more) :=
  List.find?_append

theorem earliest?_append_of_some {l : Locator} (hl : h.earliest? name ls = some l) :
    h.earliest? name (ls ++ more) = some l := by
  rw [earliest?_append, hl, Option.some_or]

theorem earliest?_append_of_none (hnone : h.earliest? name ls = none) :
    h.earliest? name (ls ++ more) = h.earliest? name more := by
  rw [earliest?_append, hnone, Option.none_or]

theorem isSome_earliest?_iff : (h.earliest? name ls).isSome = true ↔ ∃ l ∈ ls, h.Offers name l :=
  List.find?_isSome

theorem earliest?_cons_of_offers {l : Locator} (hl : h.Offers name l) :
    h.earliest? name (l :: ls) = some l :=
  List.find?_cons_of_pos hl

theorem earliest?_cons_of_not_offers {l : Locator} (hl : ¬ h.Offers name l) :
    h.earliest? name (l :: ls) = h.earliest? name ls :=
  List.find?_cons_of_neg hl

/-- Among the archives in a directory, that of the least name which provides a module comes first. -/
theorem earliest?_childLocators {text archive : String} {names : List String}
    (hascending : names.Pairwise (· < ·)) (hmem : archive ∈ names)
    (hoffers : h.Offers name (h.childLocator ((Path.ofText text).child archive)))
    (hleast : ∀ other ∈ names, other < archive →
      ¬ h.Offers name (h.childLocator ((Path.ofText text).child other))) :
    h.earliest? name (h.childLocators text names) =
      some (h.childLocator ((Path.ofText text).child archive)) := by
  obtain ⟨before, after, rfl⟩ := List.append_of_mem hmem
  have hbefore : h.earliest? name (h.childLocators text before) = none := by
    rw [← Option.not_isSome_iff_eq_none, isSome_earliest?_iff]
    rintro ⟨l, hl, hoffered⟩
    obtain ⟨other, hother, rfl⟩ := List.mem_map.mp hl
    have hlt : other < archive := (List.pairwise_append.mp hascending).2.2 other hother archive (by simp)
    exact hleast other (by simp [hother]) hlt hoffered
  rw [childLocators, List.map_append, ← childLocators, earliest?_append_of_none hbefore]
  exact earliest?_cons_of_offers hoffers

/-- The archives that a directory offers are the archives of their names. -/
theorem offered_archiveNames {text : String} (hopen : ¬ h.RefusesInside (.ofText text)) :
    ∃ names, (h.offered (.ofText text)).map h.childLocator = h.childLocators text names ∧
      ArchiveNames h text names := by
  obtain ⟨names, hoffered, hascending, hmem⟩ := offered_exact hopen
  refine ⟨names, ?_, hmem, hascending, ?_⟩
  · rw [hoffered, List.map_map]
    rfl
  · simp only [childLocators, childLocator, List.pairwise_map, Path.child_text_lt]
    exact hascending

end Host

/-! ## What a call gains -/

/-- The archives in the directory at a path, where the file system lets it be looked into. -/
def Host.archivesIn (h : Host) (text : String) : List Locator :=
  (h.offered (.ofText text)).map h.childLocator

/-- The locators that a call brings a context: a locator itself, and a path that can be converted as
    its base with the archives in it. A path that is published is looked up before, and the locator
    of a directory ends with a separator then. -/
def Call.gains (h : Host) : Call → List Locator
  | addUrl (.locator l) => [l]
  | addUrl (.path value) =>
    match Locator.ofValue h.cwd value none with
    | .error _ => []
    | .ok base => base :: h.archivesIn base.path
  | addPath value =>
    match Locator.ofValue h.cwd value none with
    | .error _ => []
    | .ok base =>
      match h.isDirectory (.ofText base.path) with
      | .error _ => []
      | .ok _ => ⟨h.closedText base.path, base.uri⟩ :: h.archivesIn base.path
  | find .. | activate | deactivate => []

/-- A directory brings its locator, and behind it those of the archives of these names in it, in
    ascending order. They are all the archives in it, unless it refuses to be looked into. -/
structure Host.DirectoryGains (h : Host) (base : Locator) (names : List String)
    (ls : List Locator) : Prop where
  locators : ls = ⟨h.closedText base.path, base.uri⟩ :: h.childLocators base.path names
  ascending : names.Pairwise (· < ·)
  archives : ¬ h.RefusesInside (.ofText base.path) → ArchiveNames h base.path names
  refused : h.RefusesInside (.ofText base.path) → names = []

theorem Host.offered_of_refusesInside {h : Host} {directory : Path}
    (hrefuses : h.RefusesInside directory) : h.offered directory = [] := by
  obtain ⟨-, f, hchildren⟩ | ⟨hopen, -⟩ := h.childArchives_cases directory
  · rw [offered, hchildren]
  · exact absurd hrefuses hopen

theorem Call.directoryGains_addPath {h : Host} {value : PathValue} {base : Locator}
    (hbase : Locator.ofValue h.cwd value none = .ok base)
    (hdir : h.isDirectory (.ofText base.path) = .ok true) :
    ∃ names, h.DirectoryGains base names ((addPath value).gains h) := by
  simp only [gains, hbase, hdir, Host.archivesIn]
  by_cases hrefuses : h.RefusesInside (.ofText base.path)
  · refine ⟨[], ?_, .nil, absurd hrefuses, fun _ => rfl⟩
    rw [Host.offered_of_refusesInside hrefuses]
    rfl
  · obtain ⟨names, hoffered, hnames⟩ := Host.offered_archiveNames hrefuses
    exact ⟨names, by rw [hoffered], hnames.ascending, fun _ => hnames, fun h => absurd h hrefuses⟩

/-! ## Looking for modules -/

/-- The locator that the loader of a context finds a module at. -/
def World.finds? (w : World) (id : Nat) (name : String) : Option Locator :=
  w.host.earliest? name (w.locatorsOf id)

/-- The loader of a context answers with the path of the locator that the module is found at. It
    leaves submodules alone. -/
theorem Launch.execute_findModule {w : World} {id : Nat} {c : Context}
    (hc : w.context? id = some c) (name : String) (below : Bool) :
    (findModule id name below).execute w =
      (.ok (if below then none else (w.finds? id name).map Locator.path), w) := by
  rw [World.finds?, World.locatorsOf_eq hc, ← Host.provider?_map_path]
  simp only [findModule, execute_bind, execute_context hc, execute_get, execute_pure,
    Context.findModule, SearchPath.paths]

/-! ## Calls -/

namespace World

variable {w w' : World}

theorem Logs.host (h : w.Logs w') : w'.host = w.host := by
  obtain ⟨_, _, rfl⟩ := h
  rfl

theorem setContext_host (w : World) (id : Nat) (c : Context) : (w.setContext id c).host = w.host := by
  obtain ⟨_, _, heq⟩ := w.setContext_eq id c
  rw [heq]

end World

namespace Call

variable {w : World} {id : Nat} {c : Context}

theorem locators_ofBase (h : Host) {text : String} {l : Locator}
    (htext : Locator.ofText h.cwd text = .ok l) (base : Locator)
    (close : List Path → List String × List Notice) :
    (Extension.ofBase h base (.ofText text) close).locators = base :: h.archivesIn text := by
  obtain ⟨hrefuses, -, hlocators⟩ | ⟨-, -, hlocators, -⟩ := Extension.ofBase_cases htext base close
  · rw [hlocators, Host.archivesIn, Host.offered_of_refusesInside hrefuses]
    rfl
  · exact hlocators

theorem gains_addUrl (h : Host) (target : Target) :
    (addUrl target).gains h = (Extension.ofTarget h target).locators := by
  cases target with
  | locator l => rfl
  | path value =>
    simp only [gains, Extension.ofTarget, Extension.ofUrl]
    cases hbase : Locator.ofValue h.cwd value none with
    | error f => rfl
    | ok base => exact (locators_ofBase h (Locator.ofValue_eq_ok_iff.mp hbase).2 _ _).symm

theorem gains_addPath (h : Host) (value : PathValue) :
    (addPath value).gains h = (Extension.ofPath h value).locators := by
  cases hbase : Locator.ofValue h.cwd value none with
  | error f => simp only [gains, Extension.ofPath, hbase, Extension.refused]
  | ok base =>
    cases hdir : h.isDirectory (.ofText base.path) with
    | error f => simp only [gains, Extension.ofPath, hbase, hdir, Extension.refused]
    | ok b =>
      rw [Extension.ofPath_eq_ofBase hbase hdir,
        locators_ofBase h (Locator.ofValue_eq_ok_iff.mp hbase).2]
      simp only [gains, hbase, hdir]

/-- A call puts what it gains behind the locators of a context. -/
theorem effect_locators (h : Host) (c : Context) (call : Call) :
    (call.effect h c).path.locators = c.path.locators ++ call.gains h := by
  cases call with
  | addPath value => exact (Context.addPath_locators c _).trans (by rw [gains_addPath])
  | addUrl target => exact congrArg (c.path.locators ++ ·) (gains_addUrl h target).symm
  | find | activate | deactivate => exact (List.append_nil _).symm

theorem execute_host (hc : w.context? id = some c) (call : Call) :
    ((call.launch id).execute w).2.host = w.host := by
  have hextend (e : Extension) (change : Context → Context) :
      ((Launch.extend id e change).execute w).2.host = w.host := by
    rw [Launch.execute_extend_eq hc]
    exact (World.logs_notifyAll _ e.notices).host.trans (World.setContext_host w id _)
  cases call with
  | addPath value =>
    rw [launch, Launch.execute_addPath_eq]
    exact hextend _ _
  | addUrl target =>
    rw [launch, Launch.execute_addUrl_eq]
    exact hextend _ _
  | find name below =>
    simp only [launch, Launch.execute_bind, Launch.execute_findModule hc, Launch.execute_pure]
  | activate => rfl
  | deactivate => rfl

end Call

/-- The world after calls on a context, made one after another whether they end well or early. -/
def World.afterCalls (w : World) (id : Nat) (calls : List Call) : World :=
  calls.foldl (fun w call => ((call.launch id).execute w).2) w

/-- Calls on a context leave the host as it is, and put what they gain behind its locators. -/
theorem World.afterCalls_gains {w : World} {id : Nat} {c : Context} (hc : w.context? id = some c)
    (calls : List Call) :
    (w.afterCalls id calls).host = w.host ∧
    ∃ c', (w.afterCalls id calls).context? id = some c' ∧
      c'.path.locators = c.path.locators ++ calls.flatMap (Call.gains w.host) := by
  induction calls generalizing w c with
  | nil => exact ⟨rfl, c, hc, (List.append_nil _).symm⟩
  | cons call calls ih =>
    obtain ⟨ending, w₁, hrun, hc₁⟩ := call.execute_launch hc
    have hhost : w₁.host = w.host := by
      have hkept := call.execute_host hc
      rwa [hrun] at hkept
    have hafter : w.afterCalls id (call :: calls) = w₁.afterCalls id calls := by
      simp only [afterCalls, List.foldl_cons, hrun]
    obtain ⟨hlast, c', hc', hlocators⟩ := ih hc₁
    rw [hafter]
    refine ⟨hlast.trans hhost, c', hc', ?_⟩
    rw [hlocators, Call.effect_locators, hhost, List.flatMap_cons, List.append_assoc]

theorem World.finds?_afterCalls {w : World} {id : Nat} {c : Context} (hc : w.context? id = some c)
    (calls : List Call) (name : String) :
    (w.afterCalls id calls).finds? id name =
      w.host.earliest? name (w.locatorsOf id ++ calls.flatMap (Call.gains w.host)) := by
  obtain ⟨hhost, c', hc', hlocators⟩ := World.afterCalls_gains hc calls
  rw [finds?, World.locatorsOf_eq hc', World.locatorsOf_eq hc, hhost, hlocators]

/-- Whatever is added to a context, a name that its loader finds stays found at the same locator. A
    name that it does not find is found afterwards exactly when a locator that has been added
    provides it, and then at the earliest one. When a directory is added first, that is its own
    locator if it provides the name, and otherwise the archive of the least name that does. A name
    for which a path is given is left alone throughout. -/
theorem additions_keep_found {w : World} {id : Nat} {c : Context} (hc : w.context? id = some c)
    (calls : List Call) :
    (∀ name below, (Launch.findModule id name below).execute (w.afterCalls id calls) =
      (.ok (if below then none else ((w.afterCalls id calls).finds? id name).map Locator.path),
        w.afterCalls id calls)) ∧
    (∀ name l, w.finds? id name = some l → (w.afterCalls id calls).finds? id name = some l) ∧
    (∀ name, w.finds? id name = none →
      (w.afterCalls id calls).finds? id name =
        w.host.earliest? name (calls.flatMap (Call.gains w.host)) ∧
      (((w.afterCalls id calls).finds? id name).isSome = true ↔
        ∃ l ∈ calls.flatMap (Call.gains w.host), w.host.Offers name l)) ∧
    ∀ value base, Locator.ofValue w.host.cwd value none = .ok base →
      w.host.isDirectory (.ofText base.path) = .ok true →
      ∃ names, w.host.DirectoryGains base names ((Call.addPath value).gains w.host) ∧
        ∀ name, w.finds? id name = none →
          (w.host.Offers name ⟨w.host.closedText base.path, base.uri⟩ →
            (w.afterCalls id (.addPath value :: calls)).finds? id name =
              some ⟨w.host.closedText base.path, base.uri⟩) ∧
          (¬ w.host.Offers name ⟨w.host.closedText base.path, base.uri⟩ →
            ∀ archive ∈ names,
              w.host.Offers name (w.host.childLocator ((Path.ofText base.path).child archive)) →
              (∀ other ∈ names, other < archive →
                ¬ w.host.Offers name (w.host.childLocator ((Path.ofText base.path).child other))) →
              (w.afterCalls id (.addPath value :: calls)).finds? id name =
                some (w.host.childLocator ((Path.ofText base.path).child archive))) := by
  obtain ⟨-, c', hc', -⟩ := World.afterCalls_gains hc calls
  refine ⟨Launch.execute_findModule hc', fun name l hfound => ?_, fun name hmissed => ?_,
    fun value base hbase hdir => ?_⟩
  · rw [World.finds?_afterCalls hc]
    exact Host.earliest?_append_of_some hfound
  · have hfinds : (w.afterCalls id calls).finds? id name =
        w.host.earliest? name (calls.flatMap (Call.gains w.host)) := by
      rw [World.finds?_afterCalls hc]
      exact Host.earliest?_append_of_none hmissed
    rw [hfinds]
    exact ⟨rfl, Host.isSome_earliest?_iff⟩
  · obtain ⟨names, hgains⟩ := Call.directoryGains_addPath hbase hdir
    refine ⟨names, hgains, fun name hmissed => ?_⟩
    have hfinds : (w.afterCalls id (.addPath value :: calls)).finds? id name =
        w.host.earliest? name (⟨w.host.closedText base.path, base.uri⟩ ::
          w.host.childLocators base.path names ++ calls.flatMap (Call.gains w.host)) := by
      rw [World.finds?_afterCalls hc, List.flatMap_cons, hgains.locators]
      exact Host.earliest?_append_of_none hmissed
    rw [hfinds]
    refine ⟨Host.earliest?_cons_of_offers, fun hnot archive hmem hoffers hleast => ?_⟩
    refine Host.earliest?_append_of_some ?_
    rw [Host.earliest?_cons_of_not_offers hnot]
    exact Host.earliest?_childLocators hgains.ascending hmem hoffers hleast

/-- A process with a context whose only archive provides `old`, a second archive that provides
    `extra`, and a directory that provides `old` and `new`, with an archive in it that provides `new`
    and `spare`. -/
def stackedWorld : World where
  host :=
    { cwd := "/"
      files :=
        { entries :=
            [(["first.zip"], { kind := .file .malformed, modules := [("old", {})] }),
              (["second.zip"], { kind := .file .malformed, modules := [("extra", {})] }),
              (["lib"], { kind := .directory true, modules := [("old", {}), ("new", {})] }),
              (["lib", "a.zip"],
                { kind := .file .malformed, modules := [("new", {}), ("spare", {})] })]
          distinct := by decide
          named := by decide } }
  style := .ofVariables [] (.ofInt 0)
  contexts :=
    [⟨{ emptyContext with path := { locators := [⟨"/first.zip", "file:///first.zip"⟩] } }, false⟩]

/-- The directory is added as a path, and the second archive as a locator behind it. -/
def stackedCalls : List Call :=
  [.addPath (.text "/lib"), .addUrl (.locator ⟨"/second.zip", "file:///second.zip"⟩)]

theorem additions_keep_found_stacked :
    ∃ c, stackedWorld.context? 0 = some c ∧
      stackedWorld.finds? 0 "new" = none ∧ stackedWorld.finds? 0 "spare" = none ∧
      stackedWorld.finds? 0 "extra" = none ∧
      (stackedWorld.afterCalls 0 stackedCalls).finds? 0 "old" =
        some ⟨"/first.zip", "file:///first.zip"⟩ ∧
      (stackedWorld.afterCalls 0 stackedCalls).finds? 0 "new" = some ⟨"/lib/", "file:///lib"⟩ ∧
      (stackedWorld.afterCalls 0 stackedCalls).finds? 0 "spare" =
        some ⟨"/lib/a.zip", "file:///lib/a.zip"⟩ ∧
      (stackedWorld.afterCalls 0 stackedCalls).finds? 0 "extra" =
        some ⟨"/second.zip", "file:///second.zip"⟩ := by
  have hold : stackedWorld.finds? 0 "old" = some ⟨"/first.zip", "file:///first.zip"⟩ := by rfl
  have hnew : stackedWorld.finds? 0 "new" = none := by rfl
  have hspare : stackedWorld.finds? 0 "spare" = none := by rfl
  have hextra : stackedWorld.finds? 0 "extra" = none := by rfl
  have hbase : Locator.ofValue stackedWorld.host.cwd (.text "/lib") none =
      .ok ⟨"/lib", "file:///lib"⟩ := by rfl
  have hdir : stackedWorld.host.isDirectory (.ofText "/lib") = .ok true := by rfl
  have hoffers : stackedWorld.host.Offers "new" ⟨"/lib/", "file:///lib"⟩ := by rfl
  have hc : stackedWorld.context? 0 = some { emptyContext with
      path := { locators := [⟨"/first.zip", "file:///first.zip"⟩] } } := rfl
  have hgains : stackedCalls.flatMap (Call.gains stackedWorld.host) =
      [⟨"/lib/", "file:///lib"⟩, ⟨"/lib/a.zip", "file:///lib/a.zip"⟩,
        ⟨"/second.zip", "file:///second.zip"⟩] := by decide +kernel
  obtain ⟨-, hkept, hgained, -⟩ := additions_keep_found hc stackedCalls
  obtain ⟨-, -, -, hfirst⟩ := additions_keep_found hc
    [.addUrl (.locator ⟨"/second.zip", "file:///second.zip"⟩)]
  obtain ⟨_, -, hfirst⟩ := hfirst _ _ hbase hdir
  exact ⟨_, hc, hnew, hspare, hextra, hkept _ _ hold, (hfirst "new" hnew).1 hoffers,
    (hgained "spare" hspare).1.trans (by rw [hgains]; rfl),
    (hgained "extra" hextra).1.trans (by rw [hgains]; rfl)⟩

end Launcher
