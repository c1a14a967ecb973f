-- SUMMARY: What a scan finds, and the only error it can end in: an archive to be opened whose text holds a NUL.
import Launcher.Archive
import Launcher.Proofs.FileSystem.Listing
import Launcher.Proofs.Path.Spelling

/-!
# Scans

A scan keeps the children that are selected, each once, or gives the reason why the
directory cannot be listed. It ends in an error only where a text with a NUL is handed to
the system: that of the directory, or that of a file that is about to be tested.
-/
namespace Launcher

theorem perm_sortPaths (paths : List Path) : (sortPaths paths).Perm paths :=
  List.mergeSort_perm _ _

theorem ne_empty_of_hasSuffix {suffixes : List String} {name : String} (hnonempty : "" ∉ suffixes)
    (h : hasSuffix suffixes name = true) : name ≠ "" := by
  rintro rfl
  obtain ⟨suffix, hmem, hends⟩ := List.any_eq_true.mp h
  have hsuffix : suffix.toList = [] := by simpa [Text.endsWith] using hends
  rw [String.toList_eq_nil_iff.mp hsuffix] at hmem
  exact hnonempty hmem

theorem Path.has_entryText {directory : Path} {c : Char} (hslash : c ≠ '/') (name : String) :
    Text.has c (directory.entryText name) = (Text.has c directory.text || Text.has c name) := by
  have hsep : Text.has c "/" = false := by simpa [Text.has] using hslash
  unfold entryText
  split <;> simp [Text.has_append, hsep]

namespace Host

variable {h : Host} {directory : Path} {suffixes : List String} {usableOnly : Bool}
  {listing : List (String × Node)} {f : Fault}

/-! ## Selecting children -/

/-- A child is tested by handing its text to the system, and that text holds a NUL. -/
def Unspeakable (h : Host) (directory : Path) (suffixes : List String) (e : String × Node) : Prop :=
  hasSuffix suffixes e.1 = true ∧ h.entryIsFile (directory.entryText e.1) e.2 = true ∧
    Text.has '\x00' (directory.entryText e.1) = true

/-- Is a child selected by a scan? -/
def selects (h : Host) (directory : Path) (suffixes : List String) (usableOnly : Bool)
    (e : String × Node) : Bool :=
  (h.admits directory suffixes usableOnly e.1 e.2).toOption.getD false

theorem usable_eq_ok_of_speakable (h : Host) (directory : Path) (name : String) (n : Node)
    (hnul : h.entryIsFile (directory.entryText name) n = true →
      Text.has '\x00' (directory.entryText name) = false) :
    ∃ b, h.usable directory name n = .ok b := by
  unfold usable
  cases hfile : h.entryIsFile (directory.entryText name) n with
  | false => exact ⟨false, by simp [hfile]⟩
  | true =>
    have hstat : h.stat (directory.entryText name) ≠ .error .nul := by
      rw [ne_eq, stat_eq_nul_iff, hnul hfile]
      decide
    unfold mayRead
    match hs : h.stat (directory.entryText name) with
    | .ok node => exact ⟨node.readable, by simp [hs, hfile]⟩
    | .error .nul => exact absurd hs hstat
    | .error (.errno e) => exact ⟨false, by simp [hs]⟩

/-- Testing a child ends in an error exactly when a NUL would be handed to the system. -/
theorem admits_cases (h : Host) (directory : Path) (suffixes : List String) (usableOnly : Bool)
    (e : String × Node) :
    (usableOnly = true ∧ h.Unspeakable directory suffixes e ∧
      h.admits directory suffixes usableOnly e.1 e.2 = .error (Error.embeddedNul : Error)) ∨
    (¬ (usableOnly = true ∧ h.Unspeakable directory suffixes e) ∧
      h.admits directory suffixes usableOnly e.1 e.2 =
        .ok (h.selects directory suffixes usableOnly e)) := by
  obtain ⟨name, n⟩ := e
  unfold selects admits Unspeakable
  cases hsuffix : hasSuffix suffixes name with
  | false => exact .inr ⟨by simp, by simp [Except.toOption]⟩
  | true =>
    cases usableOnly with
    | false => exact .inr ⟨by simp, by simp [Except.toOption]⟩
    | true =>
      by_cases hu : h.entryIsFile (directory.entryText name) n = true ∧
          Text.has '\x00' (directory.entryText name) = true
      · obtain ⟨hfile, hnul⟩ := hu
        have hstat := (stat_eq_nul_iff (h := h)).mpr hnul
        exact .inl ⟨rfl, ⟨rfl, hfile, hnul⟩, by simp [usable, mayRead, hfile, hstat]⟩
      · obtain ⟨b, hb⟩ := h.usable_eq_ok_of_speakable directory name n
          fun hfile => by simpa [hfile] using hu
        exact .inr ⟨by simpa using hu, by simp [hb, Except.toOption]⟩

/-- Selecting ends in an error exactly when a NUL would be handed to the system; otherwise it
    keeps what is selected. -/
theorem selectNames_cases (h : Host) (directory : Path) (suffixes : List String)
    (usableOnly : Bool) (listing : List (String × Node)) :
    (usableOnly = true ∧ (∃ e ∈ listing, h.Unspeakable directory suffixes e) ∧
      h.selectNames directory suffixes usableOnly listing = .error (Error.embeddedNul : Error)) ∨
    (¬ (usableOnly = true ∧ ∃ e ∈ listing, h.Unspeakable directory suffixes e) ∧
      h.selectNames directory suffixes usableOnly listing =
        .ok ((listing.filter (h.selects directory suffixes usableOnly)).map Prod.fst)) := by
  induction listing with
  | nil => exact .inr ⟨by simp, rfl⟩
  | cons e rest ih =>
    obtain ⟨husable, hu, hadmits⟩ | ⟨hu, hadmits⟩ := h.admits_cases directory suffixes usableOnly e
    · exact .inl ⟨husable, ⟨e, by simp, hu⟩, by simp [selectNames, hadmits]⟩
    · obtain ⟨husable, ⟨e', he', hu'⟩, hrest⟩ | ⟨hrest', hrest⟩ := ih
      · exact .inl ⟨husable, ⟨e', by simp [he'], hu'⟩, by simp [selectNames, hadmits, hrest]⟩
      · refine .inr ⟨?_, ?_⟩
        · rintro ⟨husable, e', he', hu'⟩
          rcases List.mem_cons.mp he' with rfl | he'
          · exact hu ⟨husable, hu'⟩
          · exact hrest' ⟨husable, e', he', hu'⟩
        · cases hselects : h.selects directory suffixes usableOnly e <;>
            simp [selectNames, hadmits, hrest, hselects]

/-! ## Scanning -/

/-- The archives that a scan finds in a listing. -/
def found (h : Host) (directory : Path) (suffixes : List String) (usableOnly : Bool)
    (listing : List (String × Node)) : List Path :=
  sortPaths (((listing.filter (h.selects directory suffixes usableOnly)).map Prod.fst).map
    directory.child)

/-- A scan ends in an error, or finds that the directory cannot be listed, or finds archives. -/
theorem scan_cases (h : Host) (directory : Path) (suffixes : List String) (usableOnly : Bool) :
    (h.scan directory suffixes usableOnly = .error (Error.embeddedNul : Error) ∧
      (Text.has '\x00' directory.text = true ∨
        usableOnly = true ∧ ∃ listing, h.list directory.text = .ok listing ∧
          ∃ e ∈ listing, h.Unspeakable directory suffixes e)) ∨
    (∃ e, h.list directory.text = .error (.errno e) ∧
      h.scan directory suffixes usableOnly = .ok ⟨directory, .error e⟩) ∨
    (∃ listing, h.list directory.text = .ok listing ∧
      ¬ (usableOnly = true ∧ ∃ e ∈ listing, h.Unspeakable directory suffixes e) ∧
      h.scan directory suffixes usableOnly =
        .ok ⟨directory, .ok (h.found directory suffixes usableOnly listing)⟩) := by
  unfold scan
  cases hlist : h.list directory.text with
  | error r =>
    cases r with
    | nul => exact .inl ⟨rfl, .inl (list_eq_nul_iff.mp hlist)⟩
    | errno e => exact .inr (.inl ⟨e, rfl, rfl⟩)
  | ok listing =>
    obtain ⟨husable, hu, hnames⟩ | ⟨hu, hnames⟩ :=
      h.selectNames_cases directory suffixes usableOnly listing
    · exact .inl ⟨by simp [hnames], .inr ⟨husable, listing, rfl, hu⟩⟩
    · exact .inr (.inr ⟨listing, rfl, hu, by simp [hnames, found]⟩)

theorem nodup_found {text : String} (hlist : h.list text = .ok listing) :
    (h.found directory suffixes usableOnly listing).Nodup := by
  refine (perm_sortPaths _).nodup_iff.mpr ?_
  have hkept : (listing.filter (h.selects directory suffixes usableOnly)).Sublist listing :=
    List.filter_sublist
  have hnames := (hkept.map Prod.fst).nodup (nodup_list hlist)
  refine hnames.map ?_
  intro a b hab
  exact Path.child_text_inj.mp (congrArg Path.text hab)

/-- What is found is a child that the directory lists under a name with one of the suffixes. -/
theorem mem_found {p : Path} (hp : p ∈ h.found directory suffixes usableOnly listing) :
    ∃ name, p = directory.child name ∧ name ∈ listing.map Prod.fst ∧
      hasSuffix suffixes name = true := by
  rw [found, (perm_sortPaths _).mem_iff] at hp
  simp only [List.mem_map, List.mem_filter] at hp
  obtain ⟨name, ⟨e, ⟨hmem, hselects⟩, rfl⟩, rfl⟩ := hp
  refine ⟨e.1, rfl, List.mem_map_of_mem hmem, ?_⟩
  cases hsuffix : hasSuffix suffixes e.1 with
  | true => rfl
  | false => simp [selects, admits, hsuffix, Except.toOption] at hselects

/-- What a scan for usable archives finds has no NUL in its name. -/
theorem has_of_mem_found_usable {p : Path}
    (hp : p ∈ h.found directory suffixes true listing) :
    ∃ name, p = directory.child name ∧ name ∈ listing.map Prod.fst ∧
      hasSuffix suffixes name = true ∧ Text.has '\x00' name = false := by
  rw [found, (perm_sortPaths _).mem_iff] at hp
  simp only [List.mem_map, List.mem_filter] at hp
  obtain ⟨name, ⟨e, ⟨hmem, hselects⟩, rfl⟩, rfl⟩ := hp
  obtain ⟨-, -, hadmits⟩ | ⟨hspeak, hadmits⟩ := h.admits_cases directory suffixes true e
  · simp [selects, hadmits, Except.toOption] at hselects
  · rw [hselects] at hadmits
    unfold admits at hadmits
    cases hsuffix : hasSuffix suffixes e.1 with
    | false => simp [hsuffix] at hadmits
    | true =>
      refine ⟨e.1, rfl, List.mem_map_of_mem hmem, hsuffix, ?_⟩
      cases hfile : h.entryIsFile (directory.entryText e.1) e.2 with
      | false => simp [hsuffix, usable, hfile] at hadmits
      | true =>
        have hnul : Text.has '\x00' (directory.entryText e.1) = false := by
          cases hn : Text.has '\x00' (directory.entryText e.1) with
          | false => rfl
          | true => exact absurd ⟨rfl, hsuffix, hfile, hn⟩ hspeak
        rw [Path.has_entryText (by decide)] at hnul
        exact (Bool.or_eq_false_iff.mp hnul).2

end Host

end Launcher
