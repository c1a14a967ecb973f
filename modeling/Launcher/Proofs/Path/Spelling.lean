-- SUMMARY: How paths are spelled: the text of a child, the characters in a text, and when a path stays absolute.
import Launcher.Locator
import Launcher.Proofs.Text.Split

/-!
# The spelling of paths

The text of a child is the lead of its directory and then its name, so a directory tells
its children apart by their names. Separators and dots aside, a text holds the characters
of the names in it and no others. A separator at the end of a text changes nothing.
-/
namespace Launcher

namespace Path

/-! ## The lead of a directory -/

/-- What the text of every child of a path starts with. -/
def lead (p : Path) : List Char :=
  p.anchor.text ++ p.parts.flatMap fun part => part.toList ++ ['/']

theorem intercalate_append (sep : List Char) (xs : List (List Char)) (y : List Char)
    (ys : List (List Char)) :
    sep.intercalate (xs ++ y :: ys) = xs.flatMap (· ++ sep) ++ sep.intercalate (y :: ys) := by
  induction xs with
  | nil => simp
  | cons x xs ih =>
    rw [List.cons_append, List.intercalate_cons_of_ne_nil (by simp), ih]
    simp [List.append_assoc]

@[simp] theorem descend_nil (p : Path) : p.descend [] = p := by simp [descend]

theorem descend_cons (p : Path) (name : String) (names : List String) :
    p.descend (name :: names) = (p.child name).descend names := by
  simp [descend, child]

theorem descend_text (p : Path) (name : String) (names : List String) :
    (p.descend (name :: names)).text =
      String.ofList (p.lead ++ ['/'].intercalate ((name :: names).map String.toList)) := by
  have hchars : (p.descend (name :: names)).toChars =
      p.lead ++ ['/'].intercalate ((name :: names).map String.toList) := by
    unfold toChars lead descend
    cases p.anchor <;> simp [intercalate_append, List.flatMap_map]
  rw [text, hchars]

theorem child_text (p : Path) (name : String) :
    (p.child name).text = String.ofList (p.lead ++ name.toList) := by
  have htext := p.descend_text name []
  rw [descend_cons, descend_nil] at htext
  simpa using htext

theorem child_text_inj {p : Path} {a b : String} :
    (p.child a).text = (p.child b).text ↔ a = b := by
  rw [child_text, child_text, String.ofList_inj, List.append_cancel_left_eq, String.toList_inj]

/-- The lead of a path with parts is its text and a separator. -/
theorem lead_of_parts_ne {p : Path} (hne : p.parts ≠ []) : p.lead = p.text.toList ++ ['/'] := by
  obtain ⟨anchor, parts⟩ := p
  obtain hnil | ⟨above, last, hlast⟩ := List.eq_nil_or_concat parts
  · exact absurd hnil hne
  · have htext := child_text ⟨anchor, above⟩ last
    rw [child] at htext
    simp only [hlast, List.concat_eq_append]
    rw [htext]
    simp [lead]

/-- The texts of the children of a directory come in the order of their names. -/
theorem child_text_lt {p : Path} {a b : String} : (p.child a).text < (p.child b).text ↔ a < b := by
  simp only [child_text, String.lt_iff, String.toList_ofList]
  induction p.lead with
  | nil => rfl
  | cons c chars ih => simp [ih]

/-! ## The characters of a text -/

theorem mem_text_iff {p : Path} {c : Char} (hslash : c ≠ '/') (hdot : c ≠ '.') :
    c ∈ p.text.toList ↔ ∃ part ∈ p.parts, c ∈ part.toList := by
  have hanchor (a : Anchor) : c ∉ a.text := by cases a <;> simp [hslash]
  rcases List.eq_nil_or_concat p.parts with h | ⟨parts, last, h⟩
  · cases ha : p.anchor <;> simp [text, toChars, h, ha, hslash, hdot]
  · have hp : p = ({ p with parts } : Path).child last := by
      cases p; simp_all [child]
    rw [hp, child_text]
    simp [lead, child, hanchor, hslash, or_and_right, exists_or]

theorem has_text_child {p : Path} {c : Char} (hslash : c ≠ '/') (hdot : c ≠ '.') (name : String) :
    Text.has c (p.child name).text = (Text.has c p.text || Text.has c name) := by
  rw [Bool.eq_iff_iff, Bool.or_eq_true]
  simp only [Text.has_eq_true_iff, mem_text_iff hslash hdot]
  simp [child, or_and_right, exists_or]

/-- Reading a text into a path brings in no character. -/
theorem has_text_ofText {t : String} {c : Char} (hslash : c ≠ '/') (hdot : c ≠ '.')
    (h : Text.has c t = false) : Text.has c (ofText t).text = false := by
  rw [Text.has_eq_false_iff, mem_text_iff hslash hdot]
  rintro ⟨part, hpart, hc⟩
  simp only [ofText, ofChars, List.mem_map, List.mem_filter] at hpart
  obtain ⟨piece, ⟨hpiece, -⟩, rfl⟩ := hpart
  exact Text.has_eq_false_iff.mp h (Text.mem_of_mem_split hpiece (by simpa using hc))

/-- The text of a path holds the same characters as the text that it was made of, separators and
    dots aside. -/
theorem has_text_ofText_eq (t : String) {c : Char} (hslash : c ≠ '/') (hdot : c ≠ '.') :
    Text.has c (ofText t).text = Text.has c t := by
  cases h : Text.has c t with
  | false => exact has_text_ofText hslash hdot h
  | true =>
    obtain ⟨piece, hpiece, hc⟩ := Text.exists_mem_split (Text.has_eq_true_iff.mp h) hslash
    rw [Text.has_eq_true_iff, mem_text_iff hslash hdot]
    refine ⟨String.ofList piece, ?_, by simpa using hc⟩
    have hpart : isPart piece = true := by
      have hnil : piece ≠ [] := List.ne_nil_of_mem hc
      have hsingle : piece ≠ ['.'] := fun heq => hdot (by simpa [heq] using hc)
      simp [isPart, hnil, hsingle]
    exact List.mem_map_of_mem (List.mem_filter.mpr ⟨hpiece, hpart⟩)

/-! ## The names between separators -/

theorem names_cons_separator (text : List Char) : names ('/' :: text) = names text := by
  simp [names, Text.split_cons_self]

theorem names_append_separator (a b : List Char) : names (a ++ '/' :: b) = names a ++ names b := by
  simp only [names, Text.split_singleton, List.splitOn_append_cons_self, List.filter_append]

/-- Names that could stand between separators are read back from the text that joins them. -/
theorem names_intercalate {ns : List (List Char)} (h : ∀ n ∈ ns, n ≠ [] ∧ '/' ∉ n) :
    names (['/'].intercalate ns) = ns := by
  by_cases hnil : ns = []
  · subst hnil
    rfl
  · rw [names, Text.split_singleton, List.splitOn_intercalate '/' (fun n hn => (h n hn).2) hnil]
    exact List.filter_eq_self.mpr fun n hn => by simpa using (h n hn).1

/-- A text that joins such names does not start with a separator. -/
theorem head?_intercalate {ns : List (List Char)} (h : ∀ n ∈ ns, n ≠ [] ∧ '/' ∉ n)
    (more : List Char) (hmore : ns = [] → more.head? ≠ some '/') :
    (['/'].intercalate ns ++ more).head? ≠ some '/' := by
  cases ns with
  | nil => simpa using hmore rfl
  | cons n ns =>
    obtain ⟨hne, hslash⟩ := h n (by simp)
    obtain ⟨c, r, rfl⟩ := List.exists_cons_of_ne_nil hne
    have hc : c ≠ '/' := fun heq => hslash (by simp [heq])
    by_cases hnil : ns = []
    · simpa [hnil] using hc
    · simpa [List.intercalate_cons_of_ne_nil hnil] using hc

/-! ## A separator at the end -/

theorem endsWith_separator_iff {text : String} :
    Text.endsWith text "/" = true ↔ ∃ above, text.toList = above ++ ['/'] := by
  rw [Text.endsWith, List.isSuffixOf_iff_suffix]
  exact ⟨fun ⟨above, h⟩ => ⟨above, h.symm⟩, fun ⟨above, h⟩ => ⟨above, h.symm⟩⟩

theorem ofChars_anchor_append_separator {c : Char} (hc : c ≠ '/') (front : List Char) :
    Anchor.ofChars (front ++ [c] ++ ['/']) = Anchor.ofChars (front ++ [c]) := by
  match front with
  | [] => simp [Anchor.ofChars, hc]
  | [a] => by_cases ha : a = '/' <;> simp [Anchor.ofChars, ha, hc]
  | [a, b] =>
    by_cases ha : a = '/' <;> by_cases hb : b = '/' <;> simp [Anchor.ofChars, ha, hb, hc]
  | a :: b :: d :: rest =>
    by_cases ha : a = '/' <;> by_cases hb : b = '/' <;> by_cases hd : d = '/' <;>
      simp [Anchor.ofChars, ha, hb, hd]

/-- A separator behind a text that ends with none makes no difference to its path. -/
theorem ofText_append_separator {t : String} (hne : t ≠ "") (hend : Text.endsWith t "/" = false) :
    ofText (t ++ "/") = ofText t := by
  obtain ⟨front, c, htext⟩ :=
    (List.eq_nil_or_concat t.toList).resolve_left (mt String.toList_eq_nil_iff.mp hne)
  rw [List.concat_eq_append] at htext
  have hc : c ≠ '/' := by
    rintro rfl
    rw [endsWith_separator_iff.mpr ⟨front, htext⟩] at hend
    cases hend
  have hparts : (Text.split ['/'] (t.toList ++ ['/'])).filter isPart =
      (Text.split ['/'] t.toList).filter isPart := by
    simp [Text.split_singleton, List.splitOn_append_cons_self, isPart]
  have hchars : (t ++ "/").toList = t.toList ++ ['/'] := by simp
  rw [ofText, ofText, hchars, ofChars, ofChars, hparts, htext, ofChars_anchor_append_separator hc]

/-! ## Absolute paths -/

theorem isAbsolute_iff {p : Path} : p.isAbsolute = true ↔ p.anchor ≠ .relative := by
  simp only [isAbsolute, decide_eq_true_eq]

theorem isAbsolute_ofText {t : String} :
    (ofText t).isAbsolute = true ↔ ∃ r, t.toList = '/' :: r := by
  rw [isAbsolute_iff]
  unfold ofText ofChars Anchor.ofChars
  split <;> simp_all

theorem isAbsolute_absolute {cwd : String} {p : Path} :
    (p.absolute cwd).isAbsolute = true ↔ p.isAbsolute = true ∨ (ofText cwd).isAbsolute = true := by
  unfold absolute under
  cases h : p.isAbsolute <;> simp [h, isAbsolute_iff]

theorem isAbsolute_ofText_child {p : Path} (h : p.isAbsolute = true) (name : String) :
    (ofText (p.child name).text).isAbsolute = true := by
  rw [isAbsolute_ofText, child_text]
  rw [isAbsolute_iff] at h
  cases ha : p.anchor <;> simp_all [lead]

end Path

end Launcher
