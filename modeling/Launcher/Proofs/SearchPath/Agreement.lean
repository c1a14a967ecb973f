-- SUMMARY: Adding a path to the loader alone and adding it to the search path too fail alike and put in the same locators.
import Launcher.Proofs.Archive.Exact
import Launcher.Proofs.SearchPath.Atomicity

/-!
# Both ways to add a path

A path can be added to the loader alone, or to the loader and to the published text. Both ways
convert the path, look whether it leads to a directory, and convert the archives in that directory.
They do so in different orders, and the second one puts a separator behind the text of a directory.
Still they fail alike, and the locators that they add differ in that separator only.
-/
namespace Launcher

namespace Host

variable {h : Host} {text : String} {directory : Path}

/-! ## The archives that are added -/

/-- What a directory offers was not looked for, or a scan has found it. -/
theorem childArchives_eq_ok {found : Option Scan} (hfound : h.childArchives directory = .ok found) :
    (found = none ∧ h.isDirectory directory = .ok false) ∨
    ∃ s, found = some s ∧ h.isDirectory directory = .ok true ∧
      h.scan directory archiveSuffixes true = .ok s := by
  unfold childArchives at hfound
  cases hdir : h.isDirectory directory with
  | error f => simp [hdir] at hfound
  | ok b =>
    cases b with
    | false => exact .inl ⟨by simpa [hdir, eq_comm] using hfound, rfl⟩
    | true =>
      cases hscan : h.scan directory archiveSuffixes true with
      | error f => simp [hdir, hscan] at hfound
      | ok s => exact .inr ⟨s, by simpa [hdir, hscan, eq_comm] using hfound, rfl, rfl⟩

/-- A directory that does not refuse to be looked into offers the archives in it that can be read,
    each once, in ascending order. One that cannot be listed offers none. -/
theorem offered_exact (hopen : ¬ h.RefusesInside (.ofText text)) :
    ∃ names : List String, h.offered (.ofText text) = names.map (Path.ofText text).child ∧
      names.Pairwise (· < ·) ∧
      ∀ name, name ∈ names ↔ ∃ at_, h.Lists (Path.ofText text).text at_ ∧
        h.Wanted (.ofText text) at_ archiveSuffixes true name := by
  obtain ⟨hrefuses, -⟩ | ⟨-, found, hfound⟩ := h.childArchives_cases (.ofText text)
  · exact absurd hrefuses hopen
  unfold offered
  rw [hfound]
  obtain ⟨rfl, hdir⟩ | ⟨s, rfl, -, hscan⟩ := childArchives_eq_ok hfound
  · refine ⟨[], rfl, .nil, fun name => ?_⟩
    simp only [List.not_mem_nil, false_iff]
    rintro ⟨at_, hlists, -⟩
    obtain ⟨listing, hlist, -⟩ := hlists.list
    rw [isDirectory_of_list hlist] at hdir
    cases hdir
  · have hmeets : ¬ h.MeetsNul text archiveSuffixes true := by
      intro hmeets
      rw [scan_of_meetsNul hmeets] at hscan
      cases hscan
    obtain ⟨_, hscan', hfinds, hmisses⟩ := scan_of_not_meetsNul hmeets
    obtain rfl := Except.ok.inj (hscan.symm.trans hscan')
    by_cases hlists : ∃ at_, h.Lists (Path.ofText text).text at_
    · obtain ⟨at_, hlists⟩ := hlists
      obtain ⟨names, hentries, hstrict, hmem⟩ := (hfinds at_ hlists).names
      refine ⟨names, hentries, hstrict, fun name => (hmem name).trans ⟨fun hw => ⟨at_, hlists, hw⟩, ?_⟩⟩
      rintro ⟨at_', hlists', hwanted⟩
      rwa [hlists.unique hlists'] at hwanted
    · have hnone := not_exists.mp hlists
      refine ⟨[], (hmisses hnone).entries, .nil, fun name => ?_⟩
      simp only [List.not_mem_nil, false_iff]
      rintro ⟨at_, hlists, -⟩
      exact hnone at_ hlists

end Host

namespace Extension

variable {h : Host} {value : PathValue} {base : Locator}

/-! ## The same faults -/

theorem fault_ofBase (h : Host) (base base' : Locator) (directory : Path)
    (close close' : List Path → List String × List Notice) :
    (ofBase h base directory close).fault = (ofBase h base' directory close').fault := by
  unfold ofBase
  cases h.childArchives directory with
  | error f => rfl
  | ok found =>
    cases found with
    | none => rfl
    | some s =>
      simp only
      rcases h.convertAll s.entries with ⟨ls, _ | f⟩ <;> rfl

/-- An addition that is published ends in the same fault as one to the loader alone. -/
theorem fault_ofPath (h : Host) (value : PathValue) :
    (ofPath h value).fault = (ofUrl h value).fault := by
  cases hbase : Locator.ofValue h.cwd value none with
  | error f => simp [ofPath, ofUrl, hbase]
  | ok base =>
    cases hdir : h.isDirectory (.ofText base.path) with
    | error f => simp [ofPath, ofUrl, hbase, refused, ofBase, Host.childArchives, hdir]
    | ok b =>
      rw [ofPath_eq_ofBase hbase hdir, ofUrl, hbase]
      exact fault_ofBase ..

/-! ## The same locators -/

/-- What an addition without a fault adds to the loader alone. -/
theorem ofUrl_of_fault_none (hbase : Locator.ofValue h.cwd value none = .ok base)
    (hfault : (ofUrl h value).fault = none) :
    ¬ h.RefusesInside (.ofText base.path) ∧
      (ofUrl h value).locators = base :: (h.offered (.ofText base.path)).map h.childLocator := by
  have htext := (Locator.ofValue_eq_ok_iff.mp hbase).2
  have hurl : ofUrl h value = ofBase h base (.ofText base.path) fun _ => ([], []) := by
    simp [ofUrl, hbase]
  rw [hurl] at hfault ⊢
  obtain ⟨-, ⟨f, hsome⟩, -⟩ | ⟨hopen, -, hlocators, -⟩ := ofBase_cases htext base fun _ => ([], [])
  · rw [hsome] at hfault
    cases hfault
  · exact ⟨hopen, hlocators⟩

/-- What a published addition without a fault adds, and what it publishes. -/
theorem ofPath_of_fault_none (hbase : Locator.ofValue h.cwd value none = .ok base)
    (hfault : (ofPath h value).fault = none) :
    (ofPath h value).locators =
        ⟨h.closedText base.path, base.uri⟩ ::
          (h.offered (.ofText base.path)).map h.childLocator ∧
      (ofPath h value).segments =
        base.path :: (h.offered (.ofText base.path)).map Path.text := by
  have htext := (Locator.ofValue_eq_ok_iff.mp hbase).2
  cases hdir : h.isDirectory (.ofText base.path) with
  | error f =>
    rw [ofPath, hbase] at hfault
    simp [hdir, refused] at hfault
  | ok b =>
    rw [ofPath_eq_ofBase hbase hdir] at hfault ⊢
    obtain ⟨-, ⟨f, hsome⟩, -⟩ | ⟨-, -, hlocators, hsegments⟩ :=
      ofBase_cases htext ⟨h.closedText base.path, base.uri⟩ (published base.path)
    · rw [hsome] at hfault
      cases hfault
    · exact ⟨hlocators, hsegments⟩

end Extension

/-! ## Both additions to a context -/

/-- The locators of the archives of these names in the directory that the text leads to. -/
def Host.childLocators (h : Host) (text : String) (names : List String) : List Locator :=
  names.map fun name => h.childLocator ((Path.ofText text).child name)

/-- What two additions of the same base make of a context: one to the loader alone, and one that is
    published. Each adds the base and then the archives of these names. The base that is published
    may get a separator, and it and the archives add a segment each. -/
structure AddAlike (h : Host) (base : Locator) (names : List String) (c loaded published : Context) :
    Prop where
  loaded_locators : loaded.path.locators =
    c.path.locators ++ base :: h.childLocators base.path names
  published_locators : published.path.locators =
    c.path.locators ++ ⟨h.closedText base.path, base.uri⟩ :: h.childLocators base.path names
  published_value : published.path.value = c.path.value ++ SearchPath.suffix c.path.separator
    (base.path :: (h.childLocators base.path names).map Locator.path)
  published_properties : published.env.properties =
    c.env.properties.set searchPathVariable published.path.value

/-- The names of the archives in the directory that the text leads to: those of its children, where
    it can be listed, that can be read as archives, in ascending order of names and paths. -/
structure ArchiveNames (h : Host) (text : String) (names : List String) : Prop where
  mem_iff : ∀ name, name ∈ names ↔ ∃ at_, h.Lists (Path.ofText text).text at_ ∧
    h.Wanted (.ofText text) at_ archiveSuffixes true name
  ascending : names.Pairwise (· < ·)
  paths_ascending : ((h.childLocators text names).map Locator.path).Pairwise (· < ·)

open Extension in
/-- Adding a value to the loader alone and adding it to the published text too end alike. The first
    never touches the published text and the properties. Where they succeed, both add the converted
    value, and behind it the archives in the directory that it leads to, if that can be listed. -/
theorem addPath_agrees_addUrl {w : World} {id : Nat} {c : Context} (hc : w.context? id = some c)
    (value : PathValue) :
    ∃ ending wu cu wp cp,
      (Launch.addUrl id (.path value)).execute w = (ending, wu) ∧ wu.context? id = some cu ∧
      (Launch.addPath id value).execute w = (ending, wp) ∧ wp.context? id = some cp ∧
      cu.path.value = c.path.value ∧ cu.env.properties = c.env.properties ∧
      (ending = .ok () → ∃ base names, Locator.ofValue w.host.cwd value none = .ok base ∧
        ArchiveNames w.host base.path names ∧ AddAlike w.host base names c cu cp) := by
  obtain ⟨wu, hurl, hcu⟩ := Launch.execute_addUrl hc (.path value)
  obtain ⟨wp, hpath, hcp⟩ := Launch.execute_addPath hc value
  have hending : (ofPath w.host value).ending = (ofTarget w.host (.path value)).ending := by
    rw [ofTarget, ending, ending, fault_ofPath]
  rw [hending] at hpath
  refine ⟨_, wu, _, wp, _, hurl, hcu, hpath, hcp, rfl, rfl, fun hok => ?_⟩
  have hfault : (ofUrl w.host value).fault = none := by
    cases hsome : (ofUrl w.host value).fault with
    | none => rfl
    | some f => simp [ofTarget, ending, hsome] at hok
  have hfault' : (ofPath w.host value).fault = none := (fault_ofPath w.host value).trans hfault
  cases hbase : Locator.ofValue w.host.cwd value none with
  | error f =>
    rw [ofUrl, hbase] at hfault
    cases hfault
  | ok base =>
    obtain ⟨hopen, hlocators⟩ := ofUrl_of_fault_none hbase hfault
    obtain ⟨hlocators', hsegments⟩ := ofPath_of_fault_none hbase hfault'
    obtain ⟨names, hoffered, hstrict, hmem⟩ := Host.offered_exact hopen
    have harchives : (w.host.offered (.ofText base.path)).map w.host.childLocator =
        w.host.childLocators base.path names := by
      rw [hoffered, List.map_map]
      rfl
    have htexts : (w.host.offered (.ofText base.path)).map Path.text =
        (w.host.childLocators base.path names).map Locator.path := by
      rw [← harchives, List.map_map]
      rfl
    refine ⟨base, names, rfl, ⟨hmem, hstrict, ?_⟩, ?_⟩
    · simp only [Host.childLocators, Host.childLocator, List.pairwise_map, Path.child_text_lt]
      exact hstrict
    · rw [harchives] at hlocators hlocators'
      rw [htexts] at hsegments
      rw [Context.addPath_of_fault_none hfault']
      refine ⟨?_, ?_, ?_, rfl⟩
      · simp [Context.addUrl, SearchPath.load, ofTarget, hlocators]
      · simp [Context.addUrl, Context.publish, SearchPath.publish, SearchPath.load, hlocators']
      · simp [Context.addUrl, Context.publish, SearchPath.publish, SearchPath.load, hsegments]

/-- A process with an empty context, a directory with an archive among links, and a directory with
    an archive that cannot be listed. -/
def vaultWorld : World where
  host :=
    { cwd := "/"
      files :=
        { entries :=
            [(["shelf"], .plainDirectory), (["shelf", "b.zip"], { kind := .file .malformed }),
              (["shelf", "a.whl"], { kind := .link "b.zip" }),
              (["shelf", "gone.zip"], { kind := .link "nowhere" }),
              (["vault"], { kind := .directory true, readable := false }),
              (["vault", "a.zip"], { kind := .file .malformed })]
          distinct := by decide
          named := by decide } }
  style := .ofVariables [] (.ofInt 0)
  contexts := [⟨emptyContext, false⟩]

open Extension in
theorem addPath_agrees_addUrl_shelf :
    vaultWorld.context? 0 = some emptyContext ∧
    ∃ wu cu wp cp names,
      (Launch.addUrl 0 (.path (.text "/shelf"))).execute vaultWorld = (.ok (), wu) ∧
      wu.context? 0 = some cu ∧
      (Launch.addPath 0 (.text "/shelf")).execute vaultWorld = (.ok (), wp) ∧
      wp.context? 0 = some cp ∧
      "a.whl" ∈ names ∧ "gone.zip" ∉ names ∧
      AddAlike vaultWorld.host ⟨"/shelf", "file:///shelf"⟩ names emptyContext cu cp := by
  have hc : vaultWorld.context? 0 = some emptyContext := rfl
  have havoids : vaultWorld.host.files.Avoids '\x00' := by
    unfold FileSystem.Avoids
    decide
  have hopen : ¬ vaultWorld.host.RefusesInside (.ofText "/shelf") :=
    not_refusesInside havoids (b := true) rfl rfl
  have htext : Locator.ofText vaultWorld.host.cwd "/shelf" = .ok ⟨"/shelf", "file:///shelf"⟩ := rfl
  have hfault : (ofTarget vaultWorld.host (.path (.text "/shelf"))).fault = none := by
    obtain ⟨hrefuses, -⟩ | ⟨-, hfault, -⟩ :=
      ofBase_cases htext ⟨"/shelf", "file:///shelf"⟩ fun _ => ([], [])
    · exact absurd hrefuses hopen
    · exact hfault
  obtain ⟨ending, wu, cu, wp, cp, hurl, hcu, hpath, hcp, -, -, hsuccess⟩ :=
    addPath_agrees_addUrl hc (.text "/shelf")
  have hok : ending = .ok () := by
    have hfirst := congrArg Prod.fst hurl
    rw [Launch.execute_addUrl_eq, Launch.execute_extend_eq hc, Extension.ending, hfault] at hfirst
    exact hfirst.symm
  obtain ⟨base, names, hbase, hnames, halike⟩ := hsuccess hok
  obtain rfl : (⟨"/shelf", "file:///shelf"⟩ : Locator) = base := Except.ok.inj hbase
  subst hok
  have hlists : vaultWorld.host.Lists (Path.ofText "/shelf").text ["shelf"] :=
    ⟨by decide, .plainDirectory, rfl, rfl, rfl⟩
  refine ⟨hc, wu, cu, wp, cp, names, hurl, hcu, hpath, hcp, ?_, ?_, halike⟩
  · refine (hnames.mem_iff _).mpr ⟨_, hlists, ⟨_, rfl⟩, ⟨".whl", by decide, by decide⟩, fun _ => ?_⟩
    exact ⟨{ kind := .file .malformed }, rfl, rfl, rfl⟩
  · intro hgone
    obtain ⟨_, -, -, -, husable⟩ := (hnames.mem_iff _).mp hgone
    obtain ⟨_, hstat, -⟩ := husable rfl
    cases hstat

/-- An archive that can be read is not added with its directory when that cannot be listed. -/
theorem additions_pass_over_unlisted :
    vaultWorld.host.isDirectory (.ofText "/vault") = .ok true ∧
    hasSuffix archiveSuffixes "a.zip" = true ∧ vaultWorld.host.ReadableFile "/vault/a.zip" ∧
    (∃ w' c', (Launch.addUrl 0 (.path (.text "/vault"))).execute vaultWorld = (.ok (), w') ∧
      w'.context? 0 = some c' ∧ c'.path.locators = [⟨"/vault", "file:///vault"⟩]) ∧
    ∃ w' c', (Launch.addPath 0 (.text "/vault")).execute vaultWorld = (.ok (), w') ∧
      w'.context? 0 = some c' ∧ c'.path.locators = [⟨"/vault/", "file:///vault"⟩] := by
  refine ⟨rfl, rfl, ⟨_, rfl, rfl, rfl⟩, ?_, ?_⟩
  · exact ⟨_, _, Prod.ext rfl rfl, rfl, rfl⟩
  · exact ⟨_, _, Prod.ext rfl rfl, rfl, rfl⟩

end Launcher
