-- SUMMARY: What a location denotes: the absolute path of the source that it was built from, and nothing else.
import Launcher.Proofs.Locator.Conversion
import Launcher.Proofs.Text.Percent

/-!
# Locations as encodings

A location is read by taking `file://` off and decoding the rest. What comes out is the text
of the absolute path of the source. So a location tells apart whatever the absolute paths of
two sources tell apart, and nothing more.
-/
namespace Launcher

namespace Locator

/-! ## Reading a location -/

/-- The location reads as the text: behind `file://`, it is the text percent-encoded. -/
def Denotes (uri text : String) : Prop :=
  ∃ rest, uri = "file://" ++ rest ∧ Text.Percent.decode rest = some text

theorem Denotes.unique {uri a b : String} (ha : Denotes uri a) (hb : Denotes uri b) : a = b := by
  obtain ⟨rest, rfl, hrest⟩ := ha
  obtain ⟨rest', heq, hrest'⟩ := hb
  have hsame : rest = rest' := by
    rw [← String.toList_inj, String.toList_append, String.toList_append] at heq
    exact String.toList_inj.mp (List.append_cancel_left heq)
  rw [hsame, hrest'] at hrest
  exact (Option.some.inj hrest).symm

theorem denotes_locationOf (cwd source : String) :
    Denotes (locationOf cwd source) ((Path.ofText source).absolute cwd).text :=
  ⟨_, rfl, Text.Percent.decode_encode _⟩

theorem isAscii_of_mem_locationOf {cwd source : String} {c : Char}
    (hc : c ∈ (locationOf cwd source).toList) : c.toNat < 0x80 := by
  rw [locationOf, String.toList_append, List.mem_append] at hc
  rcases hc with hc | hc
  · have hscheme : "file://".toList.all (fun c => decide (c.toNat < 0x80)) = true := by rfl
    exact of_decide_eq_true (List.all_eq_true.mp hscheme c hc)
  · exact Text.Percent.isAscii_of_mem_encode hc

/-- Two locations are the same just when they were built from the same absolute path. -/
theorem locationOf_inj {cwd cwd' source source' : String} :
    locationOf cwd source = locationOf cwd' source' ↔
      ((Path.ofText source).absolute cwd).text = ((Path.ofText source').absolute cwd').text := by
  constructor
  · intro h
    have hdenotes := denotes_locationOf cwd source
    rw [h] at hdenotes
    exact hdenotes.unique (denotes_locationOf cwd' source')
  · intro h
    rw [locationOf, locationOf, h]

/-! ## What is converted -/

/-- No locator is made of an empty path, or where the path or the source holds a NUL. -/
def Malformed (path : String) (source : Option String) : Prop :=
  path = "" ∨ Text.has '\x00' path = true ∨ ∃ s, source = some s ∧ Text.has '\x00' s = true

theorem kind_of_ofSource_eq_error {cwd path source : String} {f : Fault}
    (h : ofSource cwd path source = .error f) : f.error.kind = .malformedLocator := by
  unfold ofSource at h
  split at h
  · cases h
    rfl
  split at h
  · cases h
    rfl
  split at h
  · cases h
    rfl
  split at h
  · cases h
  · cases h
    rfl

/-- From an absolute working directory, everything is converted but what is malformed. -/
theorem ofValue_eq_ok_of_not_malformed {cwd path : String} {source : Option String}
    (hcwd : (Path.ofText cwd).isAbsolute = true) (h : ¬ Malformed path source) :
    ofValue cwd (.text path) source = .ok ⟨path, locationOf cwd (source.getD path)⟩ := by
  simp only [Malformed, not_or, not_exists, not_and, Bool.not_eq_true] at h
  obtain ⟨hne, hpath, hsource⟩ := h
  refine ofSource_eq_ok_iff.mpr ⟨hne, hpath, ?_, ?_, rfl⟩
  · cases source with
    | none => exact hpath
    | some s => exact hsource s rfl
  · exact Path.isAbsolute_absolute.mpr (.inr hcwd)

theorem ofValue_eq_error_of_malformed {path : String} {source : Option String} (cwd : String)
    (h : Malformed path source) :
    ∃ f, ofValue cwd (.text path) source = .error f ∧ f.error.kind = .malformedLocator := by
  cases hl : ofValue cwd (.text path) source with
  | error f => exact ⟨f, rfl, kind_of_ofSource_eq_error hl⟩
  | ok l =>
    obtain ⟨hne, hpath, hsource, -⟩ := ofSource_eq_ok_iff.mp hl
    rcases h with hempty | hnul | ⟨s, rfl, hnul⟩
    · exact absurd hempty hne
    · rw [hpath] at hnul
      cases hnul
    · rw [Option.getD_some, hnul] at hsource
      cases hsource

/-! ## Faithfulness -/

/-- From an absolute working directory, a text is converted unless it is empty, or it or the source
    given for its location holds a NUL; then it is malformed, and nothing else goes wrong. The
    locator keeps the text as its path. Its location is ASCII and reads as the absolute path of the
    source, which is the text itself where no other is given. Two locations are equal just when
    these absolute paths are. -/
theorem location_faithful {cwd : String} (hcwd : (Path.ofText cwd).isAbsolute = true)
    (path : String) (source : Option String) :
    (Malformed path source →
      ∃ f, ofValue cwd (.text path) source = .error f ∧ f.error.kind = .malformedLocator) ∧
    (¬ Malformed path source → ∃ l, ofValue cwd (.text path) source = .ok l ∧ l.path = path ∧
      (∀ c ∈ l.uri.toList, c.toNat < 0x80) ∧
      Denotes l.uri ((Path.ofText (source.getD path)).absolute cwd).text) ∧
    ∀ (cwd' path' : String) (source' : Option String) (l l' : Locator),
      ofValue cwd (.text path) source = .ok l → ofValue cwd' (.text path') source' = .ok l' →
        (l.uri = l'.uri ↔ ((Path.ofText (source.getD path)).absolute cwd).text =
          ((Path.ofText (source'.getD path')).absolute cwd').text) := by
  refine ⟨ofValue_eq_error_of_malformed cwd, ?_, ?_⟩
  · intro h
    refine ⟨_, ofValue_eq_ok_of_not_malformed hcwd h, rfl, ?_, denotes_locationOf _ _⟩
    intro c hc
    exact isAscii_of_mem_locationOf hc
  · intro cwd' path' source' l l' hl hl'
    obtain ⟨-, -, -, -, rfl⟩ := ofSource_eq_ok_iff.mp hl
    obtain ⟨-, -, -, -, rfl⟩ := ofSource_eq_ok_iff.mp hl'
    exact locationOf_inj

theorem location_faithful_escaped :
    (Path.ofText "//srv/./app").isAbsolute = true ∧
    ∃ l, ofValue "//srv/./app" (.text "à b/../%.zip") none = .ok l ∧ l.path = "à b/../%.zip" ∧
      Denotes l.uri "//srv/app/à b/../%.zip" := by
  have hcwd : (Path.ofText "//srv/./app").isAbsolute = true := by decide
  have hsound : ¬ Malformed "à b/../%.zip" none := by
    unfold Malformed
    simp [Text.has]
  obtain ⟨l, hl, hpath, -, hdenotes⟩ := (location_faithful hcwd "à b/../%.zip" none).2.1 hsound
  exact ⟨hcwd, l, hl, hpath, hdenotes⟩

end Locator

end Launcher
