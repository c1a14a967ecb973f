-- SUMMARY: What additions come to: which of them are refused, and what the others add, locator by locator.
import Launcher.Proofs.Archive.Scan
import Launcher.Proofs.Locator.Conversion
import Launcher.SearchPath

/-!
# Additions

An addition is refused as a whole when its path cannot be converted. After that, only the
file system can refuse: by denying the look-up of the path, or by holding a file among its
archives that cannot even be asked for. The archives in a directory that was converted are
always converted.
-/
namespace Launcher

namespace Host

variable {h : Host} {text : String} {base : Locator}

/-- The file system refuses to look a directory up: a directory on the way may not be searched, or a
    name is too long for one. -/
def RefusesLookup (h : Host) (directory : Path) : Prop :=
  h.stat directory.text = .error (.errno .denied) ∨
    h.stat directory.text = .error (.errno .tooLong)

/-- The file system refuses to look a directory up, or to test an archive in it. -/
def RefusesInside (h : Host) (directory : Path) : Prop :=
  h.RefusesLookup directory ∨
    ∃ listing, h.list directory.text = .ok listing ∧
      ∃ e ∈ listing, h.Unspeakable directory archiveSuffixes e

/-- The archives that a directory offers. -/
def offered (h : Host) (directory : Path) : List Path :=
  match h.childArchives directory with
  | .ok (some s) => s.entries
  | _ => []

/-- The locator of an archive that a directory offers. -/
def childLocator (h : Host) (archive : Path) : Locator :=
  ⟨archive.text, Locator.locationOf h.cwd archive.text⟩

/-- The text of a locator that is published: that of a directory ends with a separator. -/
def closedText (h : Host) (text : String) : String :=
  match h.isDirectory (.ofText text), Text.endsWith text "/" with
  | .ok true, false => text ++ "/"
  | _, _ => text

/-! ## The archives in a directory -/

theorem empty_not_mem_archiveSuffixes : "" ∉ archiveSuffixes := by decide

theorem isDirectory_cases (h : Host) (directory : Path) :
    (h.RefusesLookup directory ∧ ∃ f, h.isDirectory directory = .error f) ∨
    (¬ h.RefusesLookup directory ∧ ∃ b, h.isDirectory directory = .ok b) := by
  unfold RefusesLookup isDirectory test
  match h.stat directory.text with
  | .ok n => exact .inr ⟨by simp, _, rfl⟩
  | .error .nul => exact .inr ⟨by simp, false, rfl⟩
  | .error (.errno e) =>
    cases e with
    | denied => exact .inl ⟨.inl rfl, _, rfl⟩
    | tooLong => exact .inl ⟨.inr rfl, _, rfl⟩
    | notFound | notDirectory | loop => exact .inr ⟨by simp, false, rfl⟩

/-- A name that is too long for its directory is refused, and one that is just not there is not. -/
example :
    let h : Host :=
      { cwd := "/"
        files :=
          { entries := [(["srv"], { kind := .directory true, longest := some 4 })]
            distinct := by decide
            named := by decide } }
    h.isDirectory (.ofText "/srv/cafe") = .ok false ∧
      h.isDirectory (.ofText "/srv/café") = .error (Error.system .tooLong "/srv/café" : Error) :=
  ⟨by rfl, by rfl⟩

/-- What can be listed is a directory. -/
theorem isDirectory_of_list {directory : Path} {listing : List (String × Node)}
    (hlist : h.list directory.text = .ok listing) : h.isDirectory directory = .ok true := by
  obtain ⟨_, dir, hstat, hdir, -⟩ := list_eq_ok hlist
  simp [isDirectory, test, hstat, hdir]

theorem has_of_isDirectory {directory : Path} (hdir : h.isDirectory directory = .ok true) :
    Text.has '\x00' directory.text = false := by
  cases hnul : Text.has '\x00' directory.text with
  | false => rfl
  | true => simp [isDirectory, test, stat_eq_nul_iff.mpr hnul] at hdir

theorem childArchives_cases (h : Host) (directory : Path) :
    (h.RefusesInside directory ∧ ∃ f, h.childArchives directory = .error f) ∨
    (¬ h.RefusesInside directory ∧ ∃ found, h.childArchives directory = .ok found) := by
  unfold childArchives
  obtain ⟨hrefused, f, hdir⟩ | ⟨hrefused, b, hdir⟩ := h.isDirectory_cases directory
  · exact .inl ⟨.inl hrefused, f, by rw [hdir]⟩
  rw [hdir]
  cases b with
  | false =>
    refine .inr ⟨?_, none, rfl⟩
    rintro (hd | ⟨listing, hlist, -⟩)
    · exact hrefused hd
    · rw [isDirectory_of_list hlist] at hdir
      cases hdir
  | true =>
    obtain ⟨hscan, hnul | ⟨-, hu⟩⟩ | ⟨e, hlist, hscan⟩ | ⟨listing, hlist, hu, hscan⟩ :=
      h.scan_cases directory archiveSuffixes true
    · rw [has_of_isDirectory hdir] at hnul
      cases hnul
    · exact .inl ⟨.inr hu, _, by rw [hscan]⟩
    · refine .inr ⟨?_, _, by rw [hscan]⟩
      rintro (hd | ⟨listing, hok, -⟩)
      · exact hrefused hd
      · rw [hlist] at hok
        cases hok
    · refine .inr ⟨?_, _, by rw [hscan]⟩
      rintro (hd | ⟨listing', hok, hbad⟩)
      · exact hrefused hd
      · rw [hlist] at hok
        cases hok
        exact hu ⟨rfl, hbad⟩

theorem mem_offered {directory p : Path} (hp : p ∈ h.offered directory) :
    ∃ name, p = directory.child name ∧ name ≠ "" ∧ Text.has '\x00' name = false := by
  unfold offered childArchives at hp
  obtain ⟨-, f, hdir⟩ | ⟨-, b, hdir⟩ := h.isDirectory_cases directory
  · simp [hdir] at hp
  cases b with
  | false => simp [hdir] at hp
  | true =>
    obtain ⟨hscan, -⟩ | ⟨e, -, hscan⟩ | ⟨listing, -, -, hscan⟩ :=
      h.scan_cases directory archiveSuffixes true
    · simp [hdir, hscan] at hp
    · simp [hdir, hscan, Scan.entries] at hp
    · simp only [hdir, hscan, Scan.entries] at hp
      obtain ⟨name, rfl, -, hsuffix, hnul⟩ := has_of_mem_found_usable hp
      exact ⟨name, rfl, ne_empty_of_hasSuffix empty_not_mem_archiveSuffixes hsuffix, hnul⟩

/-- An archive in a directory that was converted is converted. -/
theorem ofText_offered (hbase : Locator.ofText h.cwd text = .ok base) {p : Path}
    (hp : p ∈ h.offered (.ofText text)) : Locator.ofText h.cwd p.text = .ok (h.childLocator p) := by
  obtain ⟨name, rfl, hne, hnul⟩ := mem_offered hp
  exact Locator.ofText_child hbase hne hnul

theorem convertAll_offered (hbase : Locator.ofText h.cwd text = .ok base) {archives : List Path}
    (hoffered : ∀ p ∈ archives, p ∈ h.offered (.ofText text)) :
    h.convertAll archives = (archives.map h.childLocator, none) := by
  induction archives with
  | nil => rfl
  | cons p ps ih =>
    have hp := ofText_offered hbase (hoffered p (by simp))
    have hrest := ih fun q hq => hoffered q (by simp [hq])
    simp [convertAll, hp, hrest]

end Host

/-! ## What additions come to -/

namespace Extension

variable {h : Host} {text : String} {l : Locator}

/-- A directory that was converted either refuses to be looked into, with nothing but the base
    added, or adds the archives it offers behind the base. -/
theorem ofBase_cases (htext : Locator.ofText h.cwd text = .ok l) (base : Locator)
    (close : List Path → List String × List Notice) :
    let directory := Path.ofText text
    let e := ofBase h base directory close
    (h.RefusesInside directory ∧ (∃ f, e.fault = some f) ∧ e.locators = [base]) ∨
    (¬ h.RefusesInside directory ∧ e.fault = none ∧
      e.locators = base :: (h.offered directory).map h.childLocator ∧
      e.segments = (close (h.offered directory)).1) := by
  intro directory e
  obtain ⟨hrefuses, f, hchildren⟩ | ⟨hrefuses, found, hchildren⟩ := h.childArchives_cases directory
  · refine .inl ⟨hrefuses, ⟨f, ?_⟩, ?_⟩ <;> simp [e, ofBase, hchildren]
  · refine .inr ⟨hrefuses, ?_⟩
    cases found with
    | none => refine ⟨?_, ?_, ?_⟩ <;> simp [e, ofBase, Host.offered, hchildren]
    | some s =>
      have hoffered : h.offered directory = s.entries := by simp [Host.offered, hchildren]
      have hall : h.convertAll s.entries = (s.entries.map h.childLocator, none) :=
        Host.convertAll_offered htext fun p hp => hoffered ▸ hp
      refine ⟨?_, ?_, ?_⟩ <;> simp [e, ofBase, hchildren, hall, hoffered]

/-! ## Additions to the loader alone -/

/-- A target that is converted before it is added, and what it is converted into. -/
def Converts (h : Host) (target : Target) (base : Locator) : Prop :=
  ∃ value, target = .path value ∧ Locator.ofValue h.cwd value none = .ok base

/-- An addition to the loader alone is refused as a whole when the target cannot be converted.
    Of a target that was converted, the base alone stays when the directory refuses to be looked
    into. -/
theorem ofTarget_cases (h : Host) (target : Target) :
    (∃ l, target = .locator l ∧ ofTarget h target = ofLocator l) ∨
    (∃ f, (∀ base, ¬ Converts h target base) ∧ ofTarget h target = refused f) ∨
    ∃ base, Converts h target base ∧
      ((h.RefusesInside (.ofText base.path) ∧ (∃ f, (ofTarget h target).fault = some f) ∧
          (ofTarget h target).locators = [base]) ∨
        (¬ h.RefusesInside (.ofText base.path) ∧ (ofTarget h target).fault = none)) := by
  cases target with
  | locator l => exact .inl ⟨l, rfl, rfl⟩
  | path value =>
    cases hbase : Locator.ofValue h.cwd value none with
    | error f =>
      refine .inr (.inl ⟨f, ?_, by simp [ofTarget, ofUrl, hbase]⟩)
      rintro base ⟨_, ⟨⟩, hok⟩
      rw [hbase] at hok
      cases hok
    | ok base =>
      refine .inr (.inr ⟨base, ⟨value, rfl, hbase⟩, ?_⟩)
      have htarget : ofTarget h (.path value) = ofBase h base (.ofText base.path) fun _ => ([], []) := by
        simp [ofTarget, ofUrl, hbase]
      rw [htarget]
      obtain ⟨hrefuses, hfault, hlocators⟩ | ⟨hrefuses, hfault, -⟩ :=
        ofBase_cases (Locator.ofValue_eq_ok_iff.mp hbase).2 base fun _ => ([], [])
      · exact .inl ⟨hrefuses, hfault, hlocators⟩
      · exact .inr ⟨hrefuses, hfault⟩

/-! ## Additions that are published -/

/-- The segment that is published for a locator: its path, but for the separator that the
    locator of a directory ends with. -/
def Mirrors (l : Locator) (segment : String) : Prop :=
  l.path = segment ∨ l.path = segment ++ "/"

theorem forall₂_mirrors_childLocator (archives : List Path) :
    List.Forall₂ Mirrors (archives.map h.childLocator) (archives.map Path.text) := by
  rw [List.forall₂_map_left_iff, List.forall₂_map_right_iff, List.forall₂_same]
  exact fun _ _ => .inl rfl

theorem mirrors_closedText (h : Host) (text uri : String) :
    Mirrors ⟨h.closedText text, uri⟩ text := by
  unfold Host.closedText
  split
  · exact .inr rfl
  · exact .inl rfl

/-- Once its path is looked up, a published addition adds the closed path and what is in it. -/
theorem ofPath_eq_ofBase {value : PathValue} {base : Locator} {b : Bool}
    (hbase : Locator.ofValue h.cwd value none = .ok base)
    (hdir : h.isDirectory (.ofText base.path) = .ok b) :
    ofPath h value =
      ofBase h ⟨h.closedText base.path, base.uri⟩ (.ofText base.path) (published base.path) := by
  have htext := (Locator.ofValue_eq_ok_iff.mp hbase).2
  obtain ⟨hne, -, -, hlocator⟩ := Locator.ofText_eq_ok_iff.mp htext
  have huri : base.uri = Locator.locationOf h.cwd base.path := congrArg Locator.uri hlocator
  unfold ofPath Host.closedText
  rw [hbase]
  simp only [hdir]
  cases b with
  | false => simp [ofBase, Host.childArchives, hdir]
  | true =>
    cases hend : Text.endsWith base.path "/" with
    | true => rfl
    | false =>
      simp only [Bool.false_eq_true, if_false]
      rw [Locator.ofText_append_separator htext, Locator.locationOf_append_separator hne hend, huri]

/-- A directory whose names avoid NUL refuses nothing once its text has been looked up. -/
theorem not_refusesInside (havoids : h.files.Avoids '\x00') {directory : Path} {b : Bool}
    (hdir : h.isDirectory directory = .ok b) (hnul : Text.has '\x00' directory.text = false) :
    ¬ h.RefusesInside directory := by
  rintro (hrefused | ⟨listing, hlist, e, he, -, -, htext⟩)
  · obtain ⟨-, f, hrefuses⟩ | ⟨hlooked, -⟩ := h.isDirectory_cases directory
    · rw [hrefuses] at hdir
      cases hdir
    · exact hlooked hrefused
  · have hname := Host.avoids_list havoids hlist (List.mem_map_of_mem he)
    rw [Path.has_entryText (by decide), hnul, hname] at htext
    cases htext

/-- A value that is converted, and whose directory may be looked up. -/
def Admits (h : Host) (value : PathValue) (base : Locator) : Prop :=
  Locator.ofValue h.cwd value none = .ok base ∧ ∃ b, h.isDirectory (.ofText base.path) = .ok b

/-- Where no name holds a NUL, a published addition is refused as a whole when its value is not
    admitted. The addition of an admitted value adds one locator for each segment. -/
theorem ofPath_cases (havoids : h.files.Avoids '\x00') (value : PathValue) :
    (∃ f, (∀ base, ¬ Admits h value base) ∧ ofPath h value = refused f) ∨
    ∃ base, Admits h value base ∧ (ofPath h value).fault = none ∧
      List.Forall₂ Mirrors (ofPath h value).locators (ofPath h value).segments := by
  cases hbase : Locator.ofValue h.cwd value none with
  | error f =>
    refine .inl ⟨f, ?_, by simp [ofPath, hbase]⟩
    rintro base ⟨hok, -⟩
    rw [hbase] at hok
    cases hok
  | ok base =>
    have htext := (Locator.ofValue_eq_ok_iff.mp hbase).2
    have hnul := (Locator.ofText_eq_ok_iff.mp htext).2.1
    cases hdir : h.isDirectory (.ofText base.path) with
    | error f =>
      refine .inl ⟨f, ?_, by simp [ofPath, hbase, hdir]⟩
      rintro other ⟨hok, b, hb⟩
      rw [hbase] at hok
      cases hok
      rw [hdir] at hb
      cases hb
    | ok b =>
      have hopen := not_refusesInside havoids hdir
        (Path.has_text_ofText (by decide) (by decide) hnul)
      refine .inr ⟨base, ⟨hbase, b, hdir⟩, ?_⟩
      rw [ofPath_eq_ofBase hbase hdir]
      obtain ⟨hrefuses, -⟩ | ⟨-, hfault, hlocators, hsegments⟩ :=
        ofBase_cases htext ⟨h.closedText base.path, base.uri⟩ (published base.path)
      · exact absurd hrefuses hopen
      · rw [hlocators, hsegments]
        exact ⟨hfault, .cons (mirrors_closedText ..) (forall₂_mirrors_childLocator _)⟩

end Extension

end Launcher
