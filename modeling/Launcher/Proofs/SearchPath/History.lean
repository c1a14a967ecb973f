-- SUMMARY: The published search path mirrors the loader in every state that calls on a context can reach.
import Launcher.EntryPoint
import Launcher.Proofs.Assembly.Preparation
import Launcher.Proofs.SearchPath.Extension

/-!
# Histories of a context

A context is prepared and then called upon, in any order: paths and targets are added,
modules looked for, the loader made active and taken out. Between calls the rest of the world
may change. A ledger keeps apart how the locators came. The published text has one segment for
each locator that was assembled or added as a path, and none for the others, whatever calls
ended in an error.
-/
namespace Launcher

/-! ## Interleavings -/

/-- The elements of two lists in one list, those of either list in their order. -/
inductive Interleaves {α : Type} : List α → List α → List α → Prop
  | nil : Interleaves [] [] []
  | left {a : α} {xs ys zs : List α} : Interleaves xs ys zs → Interleaves (a :: xs) ys (a :: zs)
  | right {a : α} {xs ys zs : List α} : Interleaves xs ys zs → Interleaves xs (a :: ys) (a :: zs)

namespace Interleaves

variable {α : Type} {xs ys zs : List α}

theorem of_left (xs : List α) : Interleaves xs [] xs := by
  induction xs with
  | nil => exact .nil
  | cons a xs ih => exact .left ih

theorem of_right (ys : List α) : Interleaves [] ys ys := by
  induction ys with
  | nil => exact .nil
  | cons a ys ih => exact .right ih

theorem append_left (h : Interleaves xs ys zs) (more : List α) :
    Interleaves (xs ++ more) ys (zs ++ more) := by
  induction h with
  | nil => exact of_left more
  | left _ ih => exact .left ih
  | right _ ih => exact .right ih

theorem append_right (h : Interleaves xs ys zs) (more : List α) :
    Interleaves xs (ys ++ more) (zs ++ more) := by
  induction h with
  | nil => exact of_right more
  | left _ ih => exact .left ih
  | right _ ih => exact .right ih

end Interleaves

/-! ## Calls -/

/-- What a context can be called upon to do. -/
inductive Call where
  | addPath (value : PathValue)
  | addUrl (target : Target)
  | find (name : String) (below : Bool)
  | activate
  | deactivate

namespace Call

/-- Carry out a call on a context. -/
def launch (id : Nat) : Call → Launch Unit
  | addPath value => Launch.addPath id value
  | addUrl target => Launch.addUrl id target
  | find name below => do
    let _ ← Launch.findModule id name below
  | activate => Launch.activate id
  | deactivate => Launch.deactivate id

/-- What a call makes of a context. -/
def effect (h : Host) (c : Context) : Call → Context
  | addPath value => c.addPath (.ofPath h value)
  | addUrl target => c.addUrl (.ofTarget h target)
  | find .. => c
  | activate => c
  | deactivate => c

/-- A call on a context leaves what the call makes of it, whether it ends well or early. -/
theorem execute_launch {w : World} {id : Nat} {c : Context} (hc : w.context? id = some c)
    (call : Call) :
    ∃ ending w', (call.launch id).execute w = (ending, w') ∧
      w'.context? id = some (call.effect w.host c) := by
  cases call with
  | addPath value =>
    obtain ⟨w', hrun, hc'⟩ := Launch.execute_addPath hc value
    exact ⟨_, w', hrun, hc'⟩
  | addUrl target =>
    obtain ⟨w', hrun, hc'⟩ := Launch.execute_addUrl hc target
    exact ⟨_, w', hrun, hc'⟩
  | find name below =>
    refine ⟨.ok (), w, ?_, hc⟩
    simp only [launch, Launch.findModule, Launch.execute_bind, Launch.execute_context hc,
      Launch.execute_get, Launch.execute_pure]
  | activate => exact ⟨_, _, rfl, hc⟩
  | deactivate => exact ⟨_, _, rfl, hc⟩

end Call

/-! ## Ledgers -/

/-- The locators of a context, by the way they came: from the assembly, added as paths, or
    added to the loader alone. -/
structure Ledger where
  assembled : List Locator := []
  published : List Locator := []
  unpublished : List Locator := []

namespace Ledger

/-- The locators that have a segment. -/
def mirrored (l : Ledger) : List Locator := l.assembled ++ l.published

/-- Enter what a call has gained. -/
def enter (l : Ledger) (gained : List Locator) : Call → Ledger
  | .addPath _ => { l with published := l.published ++ gained }
  | .addUrl _ => { l with unpublished := l.unpublished ++ gained }
  | _ => l

/-- The segments that are published for a ledger: for what was assembled the source of its
    location, for what was added as a path its path, but for the separator that the locator of a
    directory ends with. -/
def Publishes (share : Bool) (l : Ledger) (segments : List String) : Prop :=
  ∃ rest, segments = l.assembled.map (fun l => shareSource l.path share) ++ rest ∧
    List.Forall₂ Extension.Mirrors l.published rest

theorem Publishes.length_eq {share : Bool} {l : Ledger} {segments : List String}
    (h : l.Publishes share segments) : segments.length = l.mirrored.length := by
  obtain ⟨rest, rfl, hrest⟩ := h
  simp [mirrored, hrest.length_eq]

end Ledger

/-! ## Histories -/

/-- The locators of a context. -/
def World.locatorsOf (w : World) (id : Nat) : List Locator :=
  ((w.context? id).map fun c => c.path.locators).getD []

/-- From the first world to the second, the search path of a context and the variable that
    publishes it have not been touched. Anything else may have changed, and the context have been
    given other properties. -/
def World.Spares (id : Nat) (w w' : World) : Prop :=
  ∃ c c', w.context? id = some c ∧ w'.context? id = some c' ∧ c'.path = c.path ∧
    c'.env.properties.get? searchPathVariable = c.env.properties.get? searchPathVariable

/-- The worlds that a context can come to after it was prepared in an environment, with a ledger
    of its locators. Calls are made where no name of an entry holds a NUL, and may end in an
    error. -/
inductive History (env : Environment) (shares : Bool) (id : Nat) : Ledger → World → Prop
  | prepared {w w' : World} :
    (Launch.prepare env shares).execute w = (.ok id, w') →
      History env shares id { assembled := w'.locatorsOf id } w'
  | called {ledger : Ledger} {w w' : World} {ending : Except Raised Unit} (call : Call) :
    History env shares id ledger w → w.host.files.Avoids '\x00' →
      (call.launch id).execute w = (ending, w') →
        History env shares id
          (ledger.enter ((w'.locatorsOf id).drop (w.locatorsOf id).length) call) w'
  | elsewhere {ledger : Ledger} {w w' : World} :
    History env shares id ledger w → w.Spares id w' → History env shares id ledger w'

/-! ## The invariant -/

/-- The locators and the published text of a context are those of a ledger. -/
structure Mirrored (env : Environment) (ledger : Ledger) (c : Context) : Prop where
  interleaves : Interleaves ledger.mirrored ledger.unpublished c.path.locators
  publishes : ∃ segments, ledger.Publishes env.platform.usesShares segments ∧
    c.path.value = env.searchPath ++ SearchPath.suffix env.separator segments
  separator : c.path.separator = env.separator
  property : c.env.properties.get? searchPathVariable = some c.path.value

theorem SearchPath.suffix_append (separator : String) (xs ys : List String) :
    suffix separator (xs ++ ys) = suffix separator xs ++ suffix separator ys := by
  simp [suffix]

theorem Ledger.Publishes.publish {share : Bool} {l : Ledger} {segments more : List String}
    {gained : List Locator} (h : l.Publishes share segments)
    (hmore : List.Forall₂ Extension.Mirrors gained more) :
    Ledger.Publishes share { l with published := l.published ++ gained } (segments ++ more) := by
  obtain ⟨rest, rfl, hrest⟩ := h
  exact ⟨rest ++ more, List.append_assoc .., List.rel_append hrest hmore⟩

namespace Mirrored

variable {env : Environment} {ledger : Ledger} {c c' : Context}

theorem of_spared (hc : Mirrored env ledger c) (hpath : c'.path = c.path)
    (hproperty : c'.env.properties.get? searchPathVariable =
      c.env.properties.get? searchPathVariable) : Mirrored env ledger c' where
  interleaves := by rw [hpath]; exact hc.interleaves
  publishes := by rw [hpath]; exact hc.publishes
  separator := by rw [hpath]; exact hc.separator
  property := by rw [hproperty, hpath]; exact hc.property

theorem ofAssembly {home : Option Path} {a : Assembly} (ha : a.Aligned env.platform.usesShares) :
    Mirrored env { assembled := a.locators } (Context.ofAssembly env home a) where
  interleaves := by
    have hall : Interleaves (a.locators ++ []) [] a.locators := by
      rw [List.append_nil]
      exact .of_left a.locators
    exact hall
  publishes := ⟨a.segments, ⟨[], by rw [List.append_nil]; exact ha, .nil⟩, rfl⟩
  separator := rfl
  property := Properties.get?_set_self ..

theorem addUrl (hc : Mirrored env ledger c) (e : Extension) :
    Mirrored env { ledger with unpublished := ledger.unpublished ++ e.locators } (c.addUrl e) where
  interleaves := hc.interleaves.append_right e.locators
  publishes := hc.publishes
  separator := hc.separator
  property := hc.property

/-- Locators and their segments are published together. -/
theorem publish (hc : Mirrored env ledger c) {e : Extension}
    (hmirrors : List.Forall₂ Extension.Mirrors e.locators e.segments) :
    Mirrored env { ledger with published := ledger.published ++ e.locators }
      ((c.addUrl e).publish e.segments) where
  interleaves := by
    have hmore := hc.interleaves.append_left e.locators
    rw [Ledger.mirrored, List.append_assoc] at hmore
    exact hmore
  publishes := by
    obtain ⟨segments, hsegments, hvalue⟩ := hc.publishes
    refine ⟨segments ++ e.segments, hsegments.publish hmirrors, ?_⟩
    have hpublished : ((c.addUrl e).publish e.segments).path.value =
        c.path.value ++ SearchPath.suffix c.path.separator e.segments := rfl
    rw [hpublished, hvalue, hc.separator, SearchPath.suffix_append, String.append_assoc]
  separator := hc.separator
  property := Properties.get?_set_self ..

theorem addPath {h : Host} (hc : Mirrored env ledger c) (havoids : h.files.Avoids '\x00')
    (value : PathValue) :
    Mirrored env
      { ledger with published := ledger.published ++ (Extension.ofPath h value).locators }
      (c.addPath (.ofPath h value)) := by
  obtain ⟨f, -, hrefused⟩ | ⟨base, -, hfault, hmirrors⟩ := Extension.ofPath_cases havoids value
  · have hnothing : ledger.published ++ (Extension.refused f).locators = ledger.published :=
      List.append_nil _
    rw [hrefused, hnothing, Context.addPath_refused]
    exact hc
  · rw [Context.addPath_of_fault_none hfault]
    exact hc.publish hmirrors

end Mirrored

/-! ## Calls extend -/

/-- Nothing is taken out: the locators and the published text of the first context start those
    of the second. -/
structure Extends (c c' : Context) : Prop where
  locators : ∃ gained, c'.path.locators = c.path.locators ++ gained
  value : ∃ segments, c'.path.value = c.path.value ++ SearchPath.suffix c.path.separator segments

theorem Extends.refl (c : Context) : Extends c c where
  locators := ⟨[], by simp⟩
  value := ⟨[], by simp [SearchPath.suffix]⟩

theorem Extends.addUrl (c : Context) (e : Extension) : Extends c (c.addUrl e) where
  locators := ⟨e.locators, rfl⟩
  value := ⟨[], by simp [Context.addUrl, SearchPath.load, SearchPath.suffix]⟩

theorem Extends.addPath (c : Context) (e : Extension) : Extends c (c.addPath e) := by
  unfold Context.addPath
  cases e.fault with
  | none => exact ⟨⟨e.locators, rfl⟩, ⟨e.segments, rfl⟩⟩
  | some f => exact .addUrl c e

theorem Call.extends_effect (h : Host) (c : Context) (call : Call) :
    Extends c (call.effect h c) := by
  cases call with
  | addPath value => exact .addPath c _
  | addUrl target => exact .addUrl c _
  | find name below => exact .refl c
  | activate => exact .refl c
  | deactivate => exact .refl c

/-! ## The invariant along histories -/

theorem Context.addPath_locators (c : Context) (e : Extension) :
    (c.addPath e).path.locators = c.path.locators ++ e.locators := by
  unfold Context.addPath
  cases e.fault <;> rfl

/-- A call keeps the invariant, with what it gained entered into the ledger. -/
theorem Mirrored.call {env : Environment} {ledger : Ledger} {c : Context} {h : Host}
    (hc : Mirrored env ledger c) (havoids : h.files.Avoids '\x00') (call : Call) :
    Mirrored env
      (ledger.enter ((call.effect h c).path.locators.drop c.path.locators.length) call)
      (call.effect h c) := by
  cases call with
  | addPath value =>
    have hgained : (c.addPath (.ofPath h value)).path.locators.drop c.path.locators.length =
        (Extension.ofPath h value).locators := by
      rw [Context.addPath_locators, List.drop_left]
    rw [Call.effect, hgained]
    exact hc.addPath havoids value
  | addUrl target =>
    have hgained : (c.addUrl (.ofTarget h target)).path.locators.drop c.path.locators.length =
        (Extension.ofTarget h target).locators := List.drop_left ..
    rw [Call.effect, hgained]
    exact hc.addUrl (.ofTarget h target)
  | find name below => exact hc
  | activate => exact hc
  | deactivate => exact hc

theorem World.locatorsOf_eq {w : World} {id : Nat} {c : Context} (hc : w.context? id = some c) :
    w.locatorsOf id = c.path.locators := by
  simp [locatorsOf, hc]

/-- In every world of a history, the context is there and mirrors the ledger. -/
theorem History.mirrored {env : Environment} {shares : Bool} {id : Nat} {ledger : Ledger}
    {w : World} (hist : History env shares id ledger w) :
    ∃ c, w.context? id = some c ∧ Mirrored env ledger c := by
  induction hist with
  | prepared hrun =>
    obtain ⟨c, hprepare, hc⟩ := Launch.execute_prepare hrun
    obtain ⟨home, a, ha, rfl⟩ := Host.prepare_eq_ok hprepare
    refine ⟨_, hc, ?_⟩
    rw [World.locatorsOf_eq hc]
    exact Mirrored.ofAssembly (Host.aligned_assemble ha)
  | called call _ havoids hrun ih =>
    obtain ⟨c, hc, hmirrored⟩ := ih
    obtain ⟨ending, w', hrun', hc'⟩ := call.execute_launch hc
    rw [hrun] at hrun'
    cases hrun'
    refine ⟨_, hc', ?_⟩
    rw [World.locatorsOf_eq hc, World.locatorsOf_eq hc']
    exact hmirrored.call havoids call
  | elsewhere _ hspares ih =>
    obtain ⟨c, hc, hmirrored⟩ := ih
    obtain ⟨c₀, c', hc₀, hc', hpath, hproperty⟩ := hspares
    rw [hc] at hc₀
    cases hc₀
    exact ⟨c', hc', hmirrored.of_spared hpath hproperty⟩

/-- After a context was prepared in an environment, and whatever it was called upon to do since,
    its locators are those that were assembled or added as paths, in their order, interleaved with
    those that were added to the loader alone, in theirs. The published text is the search path
    of the environment followed by one segment for each of the former, and it is what the properties
    publish. Every further call puts more behind the locators and behind the text, or nothing. -/
theorem published_mirrors_locators {env : Environment} {shares : Bool} {id : Nat} {ledger : Ledger}
    {w : World} (hist : History env shares id ledger w) :
    ∃ c segments, w.context? id = some c ∧
      Interleaves ledger.mirrored ledger.unpublished c.path.locators ∧
      segments.length = ledger.mirrored.length ∧
      ledger.Publishes env.platform.usesShares segments ∧
      c.path.value = env.searchPath ++ SearchPath.suffix env.separator segments ∧
      c.env.properties.get? searchPathVariable = some c.path.value ∧
      ∀ call : Call, ∃ ending w' c', (call.launch id).execute w = (ending, w') ∧
        w'.context? id = some c' ∧ (∃ gained, c'.path.locators = c.path.locators ++ gained) ∧
        ∃ more, c'.path.value = c.path.value ++ SearchPath.suffix env.separator more := by
  obtain ⟨c, hc, hmirrored⟩ := hist.mirrored
  obtain ⟨segments, hsegments, hvalue⟩ := hmirrored.publishes
  refine ⟨c, segments, hc, hmirrored.interleaves, hsegments.length_eq, hsegments, hvalue,
    hmirrored.property, ?_⟩
  intro call
  obtain ⟨ending, w', hrun, hc'⟩ := call.execute_launch hc
  have hextends := call.extends_effect w.host c
  refine ⟨ending, w', _, hrun, hc', hextends.locators, ?_⟩
  rw [← hmirrored.separator]
  exact hextends.value

/-- A process with a directory that holds an archive. -/
def shelfWorld : World where
  host :=
    { cwd := "/work"
      files :=
        { entries :=
            [(["srv"], .plainDirectory), (["srv", "a.zip"], { kind := .file .malformed })]
          distinct := by decide
          named := by decide } }
  style := .ofVariables [] (.ofInt 0)

/-- An archive elsewhere. -/
def looseArchive : Locator := ⟨"/opt/b.zip", "file:///opt/b.zip"⟩

/-- The directory and its archive. -/
def shelf : List Locator := [⟨"/srv/", "file:///srv"⟩, ⟨"/srv/a.zip", "file:///srv/a.zip"⟩]

/-- The world after a context was prepared in it. -/
def shelfPrepared : World := ((Launch.prepare {} false).execute shelfWorld).2

/-- The world after a locator was added to the loader alone. -/
def shelfLoaded : World :=
  (((Call.addUrl (.locator looseArchive)).launch 0).execute shelfPrepared).2

/-- The world after the directory was added as a path. -/
def shelfPublished : World := (((Call.addPath (.text "/srv")).launch 0).execute shelfLoaded).2

theorem ofPath_shelfWorld :
    ∃ notices, Extension.ofPath shelfWorld.host (.text "/srv") =
      { locators := shelf, segments := ["/srv", "/srv/a.zip"], notices } := by
  have hdirectory : shelfWorld.host.isDirectory ⟨.root, ["srv"]⟩ = .ok true := by rfl
  have hlist : shelfWorld.host.list (⟨.root, ["srv"]⟩ : Path).text =
      .ok [("a.zip", { kind := .file .malformed })] := by rfl
  have hselect : shelfWorld.host.selectNames ⟨.root, ["srv"]⟩ archiveSuffixes true
      [("a.zip", { kind := .file .malformed })] = .ok ["a.zip"] := by rfl
  have hscan : shelfWorld.host.scan ⟨.root, ["srv"]⟩ archiveSuffixes true =
      .ok ⟨⟨.root, ["srv"]⟩, .ok [⟨.root, ["srv", "a.zip"]⟩]⟩ := by
    simp [Host.scan, hlist, hselect, sortPaths, Path.child]
  have hbase : Extension.ofPath shelfWorld.host (.text "/srv") =
      Extension.ofBase shelfWorld.host ⟨"/srv/", "file:///srv"⟩ ⟨.root, ["srv"]⟩
        (Extension.published "/srv") := by rfl
  rw [hbase]
  simp only [Extension.ofBase, Host.childArchives, hdirectory, hscan]
  exact ⟨_, rfl⟩

/-- The archive elsewhere is looked in and not published; the directory and its archive are both. -/
theorem published_mirrors_locators_shelf :
    History {} false 0 { published := shelf, unpublished := [looseArchive] } shelfPublished ∧
      ∃ c, shelfPublished.context? 0 = some c ∧
        c.path.locators = looseArchive :: shelf ∧
        c.path.value = ":/srv:/srv/a.zip" ∧
        c.env.properties.get? searchPathVariable = some ":/srv:/srv/a.zip" := by
  have havoids : shelfWorld.host.files.Avoids '\x00' := by
    unfold FileSystem.Avoids
    decide
  have hid : ((Launch.prepare {} false).execute shelfWorld).1 = .ok 0 := by rfl
  have hprepared : History {} false 0 {} shelfPrepared := .prepared (Prod.ext hid rfl)
  obtain ⟨c, hc, hnone, hvalue, hseparator⟩ : ∃ c, shelfLoaded.context? 0 = some c ∧
      c.path.locators = [looseArchive] ∧ c.path.value = "" ∧ c.path.separator = ":" :=
    ⟨_, rfl, rfl, rfl, rfl⟩
  have hloaded : History {} false 0 { unpublished := [looseArchive] } shelfLoaded :=
    .called (.addUrl (.locator looseArchive)) hprepared havoids (Prod.eta _).symm
  obtain ⟨_, hpath⟩ := ofPath_shelfWorld
  obtain ⟨ending, w', hrun, hc'⟩ := (Call.addPath (.text "/srv")).execute_launch hc
  obtain rfl : w' = shelfPublished := (congrArg Prod.snd hrun).symm
  have hhost : shelfLoaded.host = shelfWorld.host := by rfl
  rw [Call.effect, hhost, hpath] at hc'
  have hpublished : History {} false 0 { published := shelf, unpublished := [looseArchive] }
      shelfPublished := by
    have hcalled := History.called (.addPath (.text "/srv")) hloaded (hhost ▸ havoids) hrun
    rw [World.locatorsOf_eq hc, World.locatorsOf_eq hc', Context.addPath_locators, hnone] at hcalled
    exact hcalled
  obtain ⟨c', segments, hheld, -, -, -, -, hproperty, -⟩ := published_mirrors_locators hpublished
  obtain rfl := Option.some.inj (hc'.symm.trans hheld)
  have hpublishes {notices : List Notice} :
      (c.addPath { locators := shelf, segments := ["/srv", "/srv/a.zip"], notices }).path.value =
        ":/srv:/srv/a.zip" := by
    rw [Context.addPath_of_fault_none rfl]
    change c.path.value ++ SearchPath.suffix c.path.separator _ = _
    rw [hvalue, hseparator]
    rfl
  refine ⟨hpublished, _, hc', ?_, hpublishes, hproperty.trans (congrArg some hpublishes)⟩
  rw [Context.addPath_locators, hnone]
  rfl

end Launcher
