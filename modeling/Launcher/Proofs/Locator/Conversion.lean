-- SUMMARY: When a text becomes a locator, and which texts still become one after a name or a separator is added.
import Launcher.Proofs.Path.Spelling

/-!
# Conversion into locators

A text becomes a locator when it is not empty, neither it nor the source of its location
holds a NUL, and the source is absolute or is joined to an absolute working directory. What
became a locator still does with a separator or with the name of a child behind it.
-/
namespace Launcher

/-- Doubling the separators of a share brings in no character that was not there. -/
theorem mem_doubleShare {c : Char} {text : List Char} : c ∈ doubleShare text ↔ c ∈ text := by
  unfold doubleShare
  split <;> simp

theorem has_shareSource (c : Char) (text : String) (share : Bool) :
    Text.has c (shareSource text share) = Text.has c text := by
  rw [Bool.eq_iff_iff, Text.has_eq_true_iff, Text.has_eq_true_iff]
  unfold shareSource
  split <;> simp [mem_doubleShare]

namespace Locator

/-- The location that is built from a text. -/
def locationOf (cwd source : String) : String :=
  "file://" ++ Text.Percent.encode ((Path.ofText source).absolute cwd).text

theorem ofSource_eq_ok_iff {cwd path source : String} {l : Locator} :
    ofSource cwd path source = .ok l ↔
      path ≠ "" ∧ Text.has '\x00' path = false ∧ Text.has '\x00' source = false ∧
        ((Path.ofText source).absolute cwd).isAbsolute = true ∧ l = ⟨path, locationOf cwd source⟩ := by
  unfold ofSource Path.uri? locationOf
  by_cases hempty : path = ""
  · simp [hempty]
  cases hnul : Text.has '\x00' path
  · cases hsource : Text.has '\x00' source
    · cases habs : ((Path.ofText source).absolute cwd).isAbsolute <;> simp [hempty, eq_comm]
    · simp [hempty]
  · simp [hempty]

theorem ofSource_of_nul {cwd path source : String} (h : Text.has '\x00' path = true) :
    ofSource cwd path source = .error (Error.nulInPath path : Error) := by
  have hempty : path ≠ "" := by
    rintro rfl
    simp [Text.has] at h
  simp [ofSource, hempty, h]

theorem ofText_eq_ok_iff {cwd path : String} {l : Locator} :
    ofText cwd path = .ok l ↔
      path ≠ "" ∧ Text.has '\x00' path = false ∧
        ((Path.ofText path).absolute cwd).isAbsolute = true ∧ l = ⟨path, locationOf cwd path⟩ := by
  rw [ofText, ofSource_eq_ok_iff]
  exact ⟨fun ⟨hne, hnul, _, h⟩ => ⟨hne, hnul, h⟩, fun ⟨hne, hnul, h⟩ => ⟨hne, hnul, hnul, h⟩⟩

theorem ofValue_eq_ok_iff {cwd : String} {value : PathValue} {l : Locator} :
    ofValue cwd value none = .ok l ↔ value = .text l.path ∧ ofText cwd l.path = .ok l := by
  unfold ofValue textOf
  split
  · rename_i s
    constructor
    · intro h
      have hl : l.path = s := ofSource_path h
      subst hl
      exact ⟨rfl, h⟩
    · rintro ⟨h, hl⟩
      cases h
      exact hl
  all_goals simp [bind, Except.bind]

/-- A separator behind a text that ends with none makes no difference to its location. -/
theorem locationOf_append_separator {cwd text : String} (hne : text ≠ "")
    (hend : Text.endsWith text "/" = false) :
    locationOf cwd (text ++ "/") = locationOf cwd text := by
  rw [locationOf, locationOf, Path.ofText_append_separator hne hend]

/-! ## What still becomes a locator -/

variable {cwd path : String} {l : Locator}

/-- The text of a directory that was converted, with a separator behind it. -/
theorem ofText_append_separator (h : ofText cwd path = .ok l) :
    ofText cwd (path ++ "/") = .ok ⟨path ++ "/", locationOf cwd (path ++ "/")⟩ := by
  obtain ⟨-, hnul, habs, -⟩ := ofText_eq_ok_iff.mp h
  refine ofText_eq_ok_iff.mpr ⟨by simp, ?_, ?_, rfl⟩
  · rw [Text.has_append, hnul]
    rfl
  · rw [Path.isAbsolute_absolute, Path.isAbsolute_ofText] at habs ⊢
    refine habs.imp_left ?_
    rintro ⟨r, hr⟩
    exact ⟨r ++ ['/'], by simp [hr]⟩

/-- The text of a child of a directory that was converted. -/
theorem ofText_child (h : ofText cwd path = .ok l) {name : String} (hname : name ≠ "")
    (hnul : Text.has '\x00' name = false) :
    let child := (Path.ofText path).child name
    ofText cwd child.text = .ok ⟨child.text, locationOf cwd child.text⟩ := by
  obtain ⟨-, hpath, habs, -⟩ := ofText_eq_ok_iff.mp h
  refine ofText_eq_ok_iff.mpr ⟨?_, ?_, ?_, rfl⟩
  · rw [Path.child_text]
    simp [hname]
  · rw [Path.has_text_child (by decide) (by decide), hnul,
      Path.has_text_ofText (by decide) (by decide) hpath]
    rfl
  · rw [Path.isAbsolute_absolute] at habs ⊢
    exact habs.imp_left fun h => Path.isAbsolute_ofText_child h name

end Locator

end Launcher
