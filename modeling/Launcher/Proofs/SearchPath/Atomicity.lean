-- SUMMARY: Which additions that end in an error leave a context as it was, and which leave a locator behind.
import Launcher.Proofs.SearchPath.Extension
import Launcher.Proofs.World.Contexts

/-!
# Additions that end in an error

An addition to the loader alone appends the locator of its target before it looks into the
directory. An error from there on leaves that locator behind; an error in the conversion
leaves nothing. The published text and the properties never change.

An addition that is published looks the directory up first. Where no name holds a NUL, nothing
can go wrong after that, so an addition that ends in an error leaves everything as it was.
-/
namespace Launcher

namespace Extension

variable {h : Host} {target : Target} {base : Locator}

theorem Converts.unique {base' : Locator} (hbase : Converts h target base)
    (hbase' : Converts h target base') : base' = base := by
  obtain ⟨value, rfl, hok⟩ := hbase
  obtain ⟨_, ⟨⟩, hok'⟩ := hbase'
  rw [hok] at hok'
  exact (Except.ok.inj hok').symm

/-- An addition to the loader alone that ends in an error adds nothing, or the base of a
    directory that refuses to be looked into. -/
theorem locators_ofTarget_of_fault (hfault : ∃ f, (ofTarget h target).fault = some f) :
    ((ofTarget h target).locators = [] ∧ ∀ base, ¬ Converts h target base) ∨
    ∃ base, Converts h target base ∧ h.RefusesInside (.ofText base.path) ∧
      (ofTarget h target).locators = [base] := by
  obtain ⟨f, hfault⟩ := hfault
  obtain ⟨l, -, heq⟩ | ⟨f', hnone, heq⟩ | ⟨base, hbase, hcases⟩ := ofTarget_cases h target
  · rw [heq] at hfault
    cases hfault
  · exact .inl ⟨by rw [heq]; rfl, hnone⟩
  · obtain ⟨hrefuses, -, hlocators⟩ | ⟨-, hnone⟩ := hcases
    · exact .inr ⟨base, hbase, hrefuses, hlocators⟩
    · rw [hnone] at hfault
      cases hfault

theorem fault_ofTarget_of_refusesInside (hbase : Converts h target base)
    (hrefuses : h.RefusesInside (.ofText base.path)) :
    (∃ f, (ofTarget h target).fault = some f) ∧ (ofTarget h target).locators = [base] := by
  obtain ⟨l, rfl, -⟩ | ⟨f, hnone, -⟩ | ⟨base', hbase', hcases⟩ := ofTarget_cases h target
  · obtain ⟨_, ⟨⟩, -⟩ := hbase
  · exact absurd hbase (hnone base)
  · obtain rfl := hbase.unique hbase'
    obtain ⟨-, hfault, hlocators⟩ | ⟨hopen, -⟩ := hcases
    · exact ⟨hfault, hlocators⟩
    · exact absurd hrefuses hopen

theorem ending_eq_error_iff {e : Extension} :
    (∃ r, e.ending = .error r) ↔ ∃ f, e.fault = some f := by
  unfold ending
  cases e.fault <;> simp

end Extension

/-! ## Additions to the loader alone -/

open Extension in
/-- An addition to the loader alone never touches the published text and the properties. Where
    it ends in an error, the locators stay as they were exactly if the target is not one that is
    converted into a directory that refuses to be looked into; if it is, the addition does end in
    an error, and the converted target stays behind the locators. -/
theorem addUrl_atomic_iff {w : World} {id : Nat} {c : Context} (hc : w.context? id = some c)
    (target : Target) :
    ∃ ending w' c', (Launch.addUrl id target).execute w = (ending, w') ∧
      w'.context? id = some c' ∧
      c'.path.value = c.path.value ∧ c'.env.properties = c.env.properties ∧
      (((∃ r, ending = .error r) → c'.path.locators = c.path.locators) ↔
        ∀ base, Converts w.host target base → ¬ w.host.RefusesInside (.ofText base.path)) ∧
      ∀ base, Converts w.host target base → w.host.RefusesInside (.ofText base.path) →
        (∃ r, ending = .error r) ∧ c'.path.locators = c.path.locators ++ [base] := by
  obtain ⟨w', hrun, hc'⟩ := Launch.execute_addUrl hc target
  have hleft : ∀ base, Converts w.host target base → w.host.RefusesInside (.ofText base.path) →
      (∃ r, (ofTarget w.host target).ending = .error r) ∧
        (c.addUrl (ofTarget w.host target)).path.locators = c.path.locators ++ [base] := by
    intro base hbase hrefuses
    obtain ⟨hfault, hlocators⟩ := fault_ofTarget_of_refusesInside hbase hrefuses
    refine ⟨ending_eq_error_iff.mpr hfault, ?_⟩
    simp [Context.addUrl, SearchPath.load, hlocators]
  refine ⟨_, w', _, hrun, hc', rfl, rfl, ⟨?_, ?_⟩, hleft⟩
  · intro hatomic base hbase hrefuses
    obtain ⟨herror, hlocators⟩ := hleft base hbase hrefuses
    rw [hatomic herror] at hlocators
    simp at hlocators
  · intro hopen herror
    obtain ⟨hlocators, -⟩ | ⟨base, hbase, hrefuses, -⟩ :=
      locators_ofTarget_of_fault (ending_eq_error_iff.mp herror)
    · simp [Context.addUrl, SearchPath.load, hlocators]
    · exact absurd hrefuses (hopen base hbase)

/-- A context with nothing in it. -/
def emptyContext : Context := { env := {}, home := none, path := {} }

/-- A process with an empty context, and a directory that must not be searched. -/
def guardedWorld : World where
  host :=
    { cwd := "/work"
      files :=
        { entries := [(["secret"], { kind := .directory false })]
          distinct := by decide
          named := by decide } }
  style := .ofVariables [] (.ofInt 0)
  contexts := [⟨emptyContext, false⟩]

/-- A path below the directory that must not be searched. -/
def guardedPath : Target := .path (.text "/secret/x")

/-- The locator of that path. -/
def guardedLocator : Locator := ⟨"/secret/x", "file:///secret/x"⟩

theorem addUrl_atomic_iff_guarded :
    guardedWorld.context? 0 = some emptyContext ∧
    ∃ ending w' c', (Launch.addUrl 0 guardedPath).execute guardedWorld = (ending, w') ∧
      w'.context? 0 = some c' ∧ c'.path.value = "" ∧ c'.env.properties = [] ∧
      (∃ r, ending = .error r) ∧ c'.path.locators = [guardedLocator] := by
  have hc : guardedWorld.context? 0 = some emptyContext := rfl
  have hbase : Extension.Converts guardedWorld.host guardedPath guardedLocator := ⟨_, rfl, rfl⟩
  have hrefuses : guardedWorld.host.RefusesInside (.ofText guardedLocator.path) :=
    .inl (.inl (by rfl))
  obtain ⟨ending, w', c', hrun, hc', hvalue, hproperties, -, hleft⟩ :=
    addUrl_atomic_iff hc guardedPath
  obtain ⟨herror, hlocators⟩ := hleft guardedLocator hbase hrefuses
  exact ⟨hc, ending, w', c', hrun, hc', hvalue, hproperties, herror, hlocators⟩

/-- An addition that ends in an error can change the locators. -/
theorem addUrl_not_atomic :
    ∃ r w' c', (Launch.addUrl 0 guardedPath).execute guardedWorld = (.error r, w') ∧
      w'.context? 0 = some c' ∧ c'.path.locators = [guardedLocator] ∧
      (guardedWorld.context? 0).map (·.path.locators) = some [] := by
  refine ⟨.fault (Error.system .denied "/secret/x" : Error), _,
    { emptyContext with path := { locators := [guardedLocator] } }, Prod.ext ?_ rfl, ?_, ?_, ?_⟩
  · rfl
  · rfl
  · rfl
  · rfl

/-! ## Additions that are published -/

open Extension in
/-- Once the base was converted and its directory looked up, the archives in the directory are
    found, and each of them is converted. -/
theorem Extension.Admits.converts {h : Host} {value : PathValue} {base : Locator}
    (hbase : Admits h value base) (havoids : h.files.Avoids '\x00') :
    ∃ found, h.childArchives (.ofText base.path) = .ok found ∧
      ∀ s, found = some s → ∀ p ∈ s.entries, Locator.ofText h.cwd p.text = .ok (h.childLocator p) := by
  obtain ⟨hok, b, hdir⟩ := hbase
  have htext := (Locator.ofValue_eq_ok_iff.mp hok).2
  have hnul : Text.has '\x00' (Path.ofText base.path).text = false :=
    Path.has_text_ofText (by decide) (by decide) (Locator.ofText_eq_ok_iff.mp htext).2.1
  obtain ⟨hrefuses, -⟩ | ⟨-, found, hfound⟩ := h.childArchives_cases (.ofText base.path)
  · exact absurd hrefuses (not_refusesInside havoids hdir hnul)
  · refine ⟨found, hfound, ?_⟩
    rintro s rfl p hp
    refine Host.ofText_offered htext ?_
    unfold Host.offered
    rw [hfound]
    exact hp

open Extension in
/-- Where no name holds a NUL, an addition that is published ends well exactly if its value is
    converted and the directory may be looked up: from there on, the archives in the directory are
    found and all of them are converted. If it ends in an error, no context has changed. -/
theorem addPath_atomic {w : World} {id : Nat} {c : Context} (hc : w.context? id = some c)
    (havoids : w.host.files.Avoids '\x00') (value : PathValue) :
    ∃ ending w', (Launch.addPath id value).execute w = (ending, w') ∧
      (ending = .ok () ↔ ∃ base, Admits w.host value base) ∧
      (∀ base, Admits w.host value base →
        ∃ found, w.host.childArchives (.ofText base.path) = .ok found ∧
          ∀ s, found = some s → ∀ p ∈ s.entries, ∃ l, Locator.ofText w.host.cwd p.text = .ok l) ∧
      ((∃ r, ending = .error r) → ∀ other, w'.context? other = w.context? other) := by
  have hchildren : ∀ base, Admits w.host value base →
      ∃ found, w.host.childArchives (.ofText base.path) = .ok found ∧
        ∀ s, found = some s → ∀ p ∈ s.entries, ∃ l, Locator.ofText w.host.cwd p.text = .ok l := by
    intro base hbase
    obtain ⟨found, hfound, hall⟩ := hbase.converts havoids
    exact ⟨found, hfound, fun s hs p hp => ⟨_, hall s hs p hp⟩⟩
  have hending : ((Launch.addPath id value).execute w).1 = (ofPath w.host value).ending := by
    rw [Launch.execute_addPath_eq, Launch.execute_extend_eq hc]
  refine ⟨_, _, Prod.ext hending rfl, ?_, hchildren, ?_⟩
  · obtain ⟨f, hnone, hrefused⟩ | ⟨base, hbase, hfault, -⟩ := ofPath_cases havoids value
    · rw [hrefused]
      constructor
      · intro hok
        cases hok
      · rintro ⟨base, hbase⟩
        exact absurd hbase (hnone base)
    · have hok : (ofPath w.host value).ending = .ok () := by
        unfold Extension.ending
        rw [hfault]
      exact ⟨fun _ => ⟨base, hbase⟩, fun _ => hok⟩
  · intro herror other
    obtain ⟨f, -, hrefused⟩ | ⟨base, -, hfault, -⟩ := ofPath_cases havoids value
    · rw [Launch.execute_addPath_eq]
      refine Launch.context?_of_unchanged hc ?_ other
      simp only [hrefused]
      exact c.addPath_refused f
    · obtain ⟨f, hsome⟩ := ending_eq_error_iff.mp herror
      rw [hfault] at hsome
      cases hsome

/-- A process without a working directory, and a directory with an archive among links that lead
    nowhere, to themselves, and into a directory that must not be searched. -/
def tangledWorld : World where
  host :=
    { cwd := ""
      files :=
        { entries :=
            [(["srv"], .plainDirectory), (["srv", "loop.zip"], { kind := .link "loop.zip" }),
              (["srv", "gone.zip"], { kind := .link "nowhere" }),
              (["secret"], { kind := .directory false }),
              (["srv", "shut.zip"], { kind := .link "/secret/x" }),
              (["srv", "a.zip"], { kind := .file .malformed })]
          distinct := by decide
          named := by decide } }
  style := .ofVariables [] (.ofInt 0)
  contexts := [⟨emptyContext, false⟩]

theorem addPath_atomic_tangled :
    (tangledWorld.context? 0 = some emptyContext ∧ tangledWorld.host.files.Avoids '\x00') ∧
    (∃ w', (Launch.addPath 0 (.text "/srv")).execute tangledWorld = (.ok (), w')) ∧
    ∃ r w', (Launch.addPath 0 (.text "srv")).execute tangledWorld = (.error r, w') ∧
      w'.context? 0 = some emptyContext := by
  have hc : tangledWorld.context? 0 = some emptyContext := rfl
  have havoids : tangledWorld.host.files.Avoids '\x00' := by
    unfold FileSystem.Avoids
    decide
  refine ⟨⟨hc, havoids⟩, ?_, ?_⟩
  · obtain ⟨ending, w', hrun, hok, -, -⟩ := addPath_atomic hc havoids (.text "/srv")
    have hadmits : Extension.Admits tangledWorld.host (.text "/srv") ⟨"/srv", "file:///srv"⟩ :=
      ⟨rfl, true, rfl⟩
    obtain rfl := hok.mpr ⟨_, hadmits⟩
    exact ⟨w', hrun⟩
  · obtain ⟨ending, w', hrun, hok, -, hsame⟩ := addPath_atomic hc havoids (.text "srv")
    cases ending with
    | error r => exact ⟨r, w', hrun, (hsame ⟨r, rfl⟩ 0).trans hc⟩
    | ok u =>
      obtain ⟨base, hbase, -⟩ := hok.mp rfl
      cases hbase

end Launcher
