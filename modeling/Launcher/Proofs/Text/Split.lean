-- SUMMARY: Cutting text at one character agrees with the library's splitting of lists; the characters of the pieces.
import Launcher.Text.Pieces

/-!
# Pieces and characters

Cutting at a separator of one character is the library's `List.splitOn`. The pieces hold
the characters of the text and no others. A cut at the first separator leaves none before it,
and a cut at the last one none behind it.
-/
namespace Launcher.Text

theorem has_eq_true_iff {c : Char} {t : String} : has c t = true ↔ c ∈ t.toList := by
  simp [has]

theorem has_eq_false_iff {c : Char} {t : String} : has c t = false ↔ c ∉ t.toList := by
  simp [has]

theorem has_append (c : Char) (a b : String) : has c (a ++ b) = (has c a || has c b) := by
  simp [has]

theorem split_singleton (sep : Char) (text : List Char) : split [sep] text = text.splitOn sep := by
  unfold split
  induction text with
  | nil => rfl
  | cons c r ih =>
    rw [List.splitOn_cons_eq_if_modifyHead]
    by_cases h : c = sep
    · subst h
      simpa [splitFrom] using ih
    · have hne : sep ≠ c := fun heq => h heq.symm
      have hhead : ∀ ps : List (List Char), ps ≠ [] → consHead c ps = ps.modifyHead (List.cons c) := by
        intro ps hps
        cases ps with
        | nil => exact absurd rfl hps
        | cons p ps => rfl
      simp [splitFrom, h, hne, ih, hhead]

/-- A character that is no separator goes to the first piece. -/
theorem split_cons_of_ne {sep c : Char} (hne : c ≠ sep) (text : List Char) :
    ∃ piece pieces, split [sep] text = piece :: pieces ∧
      split [sep] (c :: text) = (c :: piece) :: pieces := by
  have hsep : sep ≠ c := fun heq => hne heq.symm
  have hcons : split [sep] (c :: text) = consHead c (split [sep] text) := by
    simp [split, splitFrom, hsep]
  cases hsplit : split [sep] text with
  | nil =>
    rw [split_singleton] at hsplit
    exact absurd hsplit (List.splitOn_ne_nil sep text)
  | cons piece pieces => exact ⟨piece, pieces, rfl, by rw [hcons, hsplit, consHead_cons]⟩

theorem split_cons_self (sep : Char) (text : List Char) :
    split [sep] (sep :: text) = [] :: split [sep] text := by
  simp [split, splitFrom]

theorem mem_of_mem_splitFrom {sep text piece : List Char} {skip : Nat} {c : Char}
    (hpiece : piece ∈ splitFrom sep text skip) (hc : c ∈ piece) : c ∈ text := by
  fun_induction splitFrom sep text skip generalizing piece with
  | case1 => simp_all
  | case2 _ r n ih => exact List.mem_cons_of_mem _ (ih hpiece hc)
  | case3 d r hsep ih =>
    rcases List.mem_cons.mp hpiece with rfl | hpiece
    · cases hc
    · exact List.mem_cons_of_mem _ (ih hpiece hc)
  | case4 d r hsep ih =>
    cases hsplit : splitFrom sep r 0 with
    | nil =>
      obtain rfl : piece = [d] := by simpa [hsplit] using hpiece
      simp_all
    | cons p ps =>
      rw [hsplit] at ih hpiece
      rcases List.mem_cons.mp hpiece with rfl | hpiece
      · rcases List.mem_cons.mp hc with rfl | hc
        · exact List.mem_cons_self
        · exact List.mem_cons_of_mem _ (ih List.mem_cons_self hc)
      · exact List.mem_cons_of_mem _ (ih (List.mem_cons_of_mem _ hpiece) hc)

/-- A piece holds only characters of the text. -/
theorem mem_of_mem_split {sep text piece : List Char} {c : Char} (hpiece : piece ∈ split sep text)
    (hc : c ∈ piece) : c ∈ text :=
  mem_of_mem_splitFrom hpiece hc

theorem has_of_mem_pieces {c : Char} {sep text piece : String} (h : has c text = false)
    (hpiece : piece ∈ pieces sep text) : has c piece = false := by
  obtain ⟨chars, hchars, rfl⟩ := List.mem_map.mp hpiece
  rw [has_eq_false_iff] at h ⊢
  exact fun hc => h (mem_of_mem_split hchars (by simpa using hc))

/-- No piece holds the separator. -/
theorem not_mem_of_mem_split {sep : Char} {text piece : List Char}
    (hpiece : piece ∈ split [sep] text) : sep ∉ piece := by
  induction text generalizing piece with
  | nil =>
    obtain rfl : piece = [] := by simpa [split, splitFrom] using hpiece
    simp
  | cons c r ih =>
    by_cases hc : c = sep
    · subst hc
      rw [split_cons_self] at hpiece
      rcases List.mem_cons.mp hpiece with rfl | hpiece
      · simp
      · exact ih hpiece
    · obtain ⟨first, pieces, hsplit, hcons⟩ := split_cons_of_ne hc r
      rw [hsplit] at ih
      rw [hcons] at hpiece
      rcases List.mem_cons.mp hpiece with rfl | hpiece
      · have hne : sep ≠ c := fun heq => hc heq.symm
        simpa [hne] using ih List.mem_cons_self
      · exact ih (List.mem_cons_of_mem _ hpiece)

/-- Joining texts brings in no character. -/
theorem has_intercalate {c : Char} {sep : String} {parts : List String} (hsep : has c sep = false)
    (hparts : ∀ part ∈ parts, has c part = false) : has c (sep.intercalate parts) = false := by
  induction parts with
  | nil => simp [has]
  | cons part parts ih =>
    have hpart : has c part = false := hparts part (by simp)
    have hrest : has c (sep.intercalate parts) = false := ih fun p hp => hparts p (by simp [hp])
    by_cases hnil : parts = []
    · simp [hnil, hpart]
    · rw [String.intercalate_cons_of_ne_nil hnil, has_append, has_append, hpart, hsep, hrest]
      rfl

/-! ## Cutting at one separator -/

section Cutting

variable {sep : Char} {text a b : List Char}

theorem cutFirst_eq_none_iff : cutFirst sep text = none ↔ sep ∉ text := by
  induction text with
  | nil => simp [cutFirst]
  | cons c r ih =>
    by_cases hc : c = sep
    · simp [cutFirst, hc]
    · have hne : sep ≠ c := fun heq => hc heq.symm
      simp [cutFirst, hc, hne, ih]

theorem cutFirst_eq_some_iff : cutFirst sep text = some (a, b) ↔ text = a ++ sep :: b ∧ sep ∉ a := by
  induction text generalizing a with
  | nil => simp [cutFirst]
  | cons c r ih =>
    by_cases hc : c = sep
    · subst hc
      cases a with
      | nil => simp [cutFirst, eq_comm]
      | cons d a =>
        simp only [cutFirst, if_true, Option.some.injEq, Prod.mk.injEq, List.nil_eq,
          reduceCtorEq, false_and, List.cons_append, List.cons.injEq, false_iff]
        rintro ⟨⟨rfl, -⟩, hd⟩
        exact hd List.mem_cons_self
    · cases a with
      | nil => simp [cutFirst, hc]
      | cons d a =>
        have hne : sep ≠ c := fun heq => hc heq.symm
        simp only [cutFirst, hc, if_false, Option.map_eq_some_iff, Prod.exists, Prod.mk.injEq,
          List.cons.injEq, List.cons_append, List.mem_cons, not_or]
        constructor
        · rintro ⟨a', b', hcut, ⟨rfl, rfl⟩, rfl⟩
          obtain ⟨hr, ha⟩ := ih.mp hcut
          exact ⟨⟨rfl, hr⟩, hne, ha⟩
        · rintro ⟨⟨rfl, hr⟩, -, ha⟩
          exact ⟨a, b, ih.mpr ⟨hr, ha⟩, ⟨rfl, rfl⟩, rfl⟩

theorem cutLast_eq_none_iff : cutLast sep text = none ↔ sep ∉ text := by
  induction text with
  | nil => simp [cutLast]
  | cons c r ih =>
    cases hcut : cutLast sep r with
    | some ab =>
      have hmem : sep ∈ r := by
        apply Decidable.of_not_not
        intro hnot
        rw [ih.mpr hnot] at hcut
        cases hcut
      simp [cutLast, hcut, hmem]
    | none =>
      have hnot : sep ∉ r := ih.mp hcut
      simp [cutLast, hcut, hnot, eq_comm]

theorem cutLast_eq_some_iff : cutLast sep text = some (a, b) ↔ text = a ++ sep :: b ∧ sep ∉ b := by
  induction text generalizing a with
  | nil => simp [cutLast]
  | cons c r ih =>
    rw [cutLast]
    constructor
    · intro hcut
      split at hcut
      case h_1 a' b' hr =>
        cases hcut
        obtain ⟨rfl, hb⟩ := ih.mp hr
        exact ⟨rfl, hb⟩
      case h_2 hr =>
        split at hcut
        case isTrue hc =>
          cases hcut
          exact ⟨by rw [hc, List.nil_append], cutLast_eq_none_iff.mp hr⟩
        case isFalse => cases hcut
    · rintro ⟨htext, hb⟩
      cases a with
      | nil =>
        obtain ⟨rfl, rfl⟩ := List.cons.inj htext
        simp [cutLast_eq_none_iff.mpr hb]
      | cons d a =>
        obtain ⟨rfl, hr⟩ := List.cons.inj htext
        rw [ih.mpr ⟨hr, hb⟩]

end Cutting

theorem beforeAfterFirst_eq_none_iff {sep : Char} {text : String} :
    beforeAfterFirst sep text = none ↔ has sep text = false := by
  rw [beforeAfterFirst, Option.map_eq_none_iff, cutFirst_eq_none_iff, has_eq_false_iff]

theorem beforeAfterFirst_eq_some_iff {sep : Char} {text a b : String} :
    beforeAfterFirst sep text = some (a, b) ↔
      text.toList = a.toList ++ sep :: b.toList ∧ has sep a = false := by
  rw [has_eq_false_iff, ← cutFirst_eq_some_iff, beforeAfterFirst, Option.map_eq_some_iff]
  constructor
  · rintro ⟨⟨a', b'⟩, hcut, heq⟩
    cases heq
    simpa using hcut
  · intro hcut
    exact ⟨_, hcut, by simp⟩

theorem beforeAfterLast_eq_some_iff {sep : Char} {text a b : String} :
    beforeAfterLast sep text = some (a, b) ↔
      text.toList = a.toList ++ sep :: b.toList ∧ has sep b = false := by
  rw [has_eq_false_iff, ← cutLast_eq_some_iff, beforeAfterLast, Option.map_eq_some_iff]
  constructor
  · rintro ⟨⟨a', b'⟩, hcut, heq⟩
    cases heq
    simpa using hcut
  · intro hcut
    exact ⟨_, hcut, by simp⟩

/-! ## Joining -/

/-- The pieces of two texts with a separator between them are those of the one and the other. -/
theorem pieces_append {c : Char} {sep : String} (hsep : sep.toList = [c]) (a b : String) :
    pieces sep (a ++ (sep ++ b)) = pieces sep a ++ pieces sep b := by
  have hsplit : split [c] (a ++ (sep ++ b)).toList = split [c] a.toList ++ split [c] b.toList := by
    simp only [String.toList_append, hsep, split_singleton, List.singleton_append,
      List.splitOn_append_cons_self]
  simp only [pieces, hsep, hsplit, List.map_append]

/-- A text without the separator is its only piece. -/
theorem pieces_eq_singleton {c : Char} {sep text : String} (hsep : sep.toList = [c])
    (h : has c text = false) : pieces sep text = [text] := by
  have hsplit : split [c] text.toList = [text.toList] := by
    rw [split_singleton, List.splitOn_eq_singleton (has_eq_false_iff.mp h)]
  simp [pieces, hsep, hsplit]

/-- Parts without the separator are the pieces of the text that joins them. -/
theorem pieces_intercalate {c : Char} {sep : String} (hsep : sep.toList = [c])
    {parts : List String} (hne : parts ≠ []) (hparts : ∀ part ∈ parts, has c part = false) :
    pieces sep (sep.intercalate parts) = parts := by
  have hchars : ∀ chars ∈ parts.map String.toList, c ∉ chars := by
    intro chars hmem
    obtain ⟨part, hpart, rfl⟩ := List.mem_map.mp hmem
    exact has_eq_false_iff.mp (hparts part hpart)
  have hsplit : split sep.toList (sep.intercalate parts).toList = parts.map String.toList := by
    rw [String.toList_intercalate, hsep, split_singleton,
      List.splitOn_intercalate c hchars (by simpa using hne)]
  rw [pieces, hsplit]
  simp

theorem has_separator_of_mem_pieces {c : Char} {sep text piece : String} (hsep : sep.toList = [c])
    (hpiece : piece ∈ pieces sep text) : has c piece = false := by
  obtain ⟨chars, hchars, rfl⟩ := List.mem_map.mp hpiece
  rw [hsep] at hchars
  rw [has_eq_false_iff, String.toList_ofList]
  exact not_mem_of_mem_split hchars

/-- Texts are the pieces of themselves, all together, if and only if none holds the separator. -/
theorem flatMap_pieces_eq_self_iff {c : Char} {sep : String} (hsep : sep.toList = [c])
    {parts : List String} :
    parts.flatMap (pieces sep) = parts ↔ ∀ part ∈ parts, has c part = false := by
  constructor
  · intro hself part hpart
    rw [← hself] at hpart
    obtain ⟨whole, -, hpiece⟩ := List.mem_flatMap.mp hpart
    exact has_separator_of_mem_pieces hsep hpiece
  · intro hparts
    induction parts with
    | nil => rfl
    | cons part parts ih =>
      obtain ⟨hpart, hrest⟩ := List.forall_mem_cons.mp hparts
      rw [List.flatMap_cons, pieces_eq_singleton hsep hpart, ih hrest, List.singleton_append]

/-! ## Words -/

section Words

variable {c : Char} {sep text word : String}

theorem mem_words_iff (hsep : sep.toList = [c]) :
    word ∈ words sep text ↔ word.toList ∈ split [c] text.toList ∧ word ≠ "" := by
  simp only [words, pieces, hsep, List.mem_filter, List.mem_map, decide_eq_true_eq]
  constructor
  · rintro ⟨⟨chars, hchars, rfl⟩, hne⟩
    exact ⟨by simpa using hchars, hne⟩
  · rintro ⟨hchars, hne⟩
    exact ⟨⟨_, hchars, String.ofList_toList⟩, hne⟩

theorem has_of_mem_words (hsep : sep.toList = [c]) (hword : word ∈ words sep text) :
    has c word = false :=
  has_eq_false_iff.mpr (not_mem_of_mem_split ((mem_words_iff hsep).mp hword).1)

/-- A text without the separator is its only word. -/
theorem words_eq_singleton (hsep : sep.toList = [c]) (hne : text ≠ "") (h : has c text = false) :
    words sep text = [text] := by
  simp [words, pieces_eq_singleton hsep h, hne]

/-- The words of two texts with a separator between them are those of the one and the other. -/
theorem words_append (hsep : sep.toList = [c]) (a b : String) :
    words sep (a ++ (sep ++ b)) = words sep a ++ words sep b := by
  rw [words, pieces_append hsep, List.filter_append, words, words]

/-- A character that is no separator is in one of the pieces. -/
theorem exists_mem_split {text : List Char} {d : Char} (hd : d ∈ text) (hne : d ≠ c) :
    ∃ piece ∈ split [c] text, d ∈ piece := by
  induction text with
  | nil => cases hd
  | cons e r ih =>
    by_cases he : e = c
    · subst he
      obtain ⟨piece, hpiece, hmem⟩ := ih (by simpa [hne] using hd)
      rw [split_cons_self]
      exact ⟨piece, List.mem_cons_of_mem _ hpiece, hmem⟩
    · obtain ⟨first, pieces, hsplit, hcons⟩ := split_cons_of_ne he r
      rw [hcons]
      rcases List.mem_cons.mp hd with rfl | hd
      · exact ⟨d :: first, List.mem_cons_self, List.mem_cons_self⟩
      · obtain ⟨piece, hpiece, hmem⟩ := ih hd
        rw [hsplit] at hpiece
        rcases List.mem_cons.mp hpiece with rfl | hpiece
        · exact ⟨e :: piece, List.mem_cons_self, List.mem_cons_of_mem _ hmem⟩
        · exact ⟨piece, List.mem_cons_of_mem _ hpiece, hmem⟩

/-- A text that is not made of separators alone has a word. -/
theorem words_ne_nil (hsep : sep.toList = [c]) (h : ∃ d ∈ text.toList, d ≠ c) :
    words sep text ≠ [] := by
  obtain ⟨d, hd, hdc⟩ := h
  obtain ⟨piece, hpiece, hmem⟩ := exists_mem_split hd hdc
  have hne : piece ≠ [] := List.ne_nil_of_mem hmem
  have hword : String.ofList piece ∈ words sep text := by
    rw [mem_words_iff hsep]
    exact ⟨by simpa using hpiece, fun hempty => hne (by simpa using congrArg String.toList hempty)⟩
  exact List.ne_nil_of_mem hword

/-- The text neither starts nor ends with the character, and it is not empty. -/
structure Trimmed (c : Char) (text : String) : Prop where
  first : ∃ d rest, text.toList = d :: rest ∧ d ≠ c
  last : ∃ front d, text.toList = front ++ [d] ∧ d ≠ c

theorem Trimmed.length_words_pos (h : Trimmed c text) (hsep : sep.toList = [c]) :
    0 < (words sep text).length := by
  obtain ⟨d, rest, htext, hd⟩ := h.first
  exact List.length_pos_iff.mpr (words_ne_nil hsep ⟨d, by simp [htext], hd⟩)

/-- A text that neither starts nor ends with a separator has one word if no separator is in it, and
    otherwise more. -/
theorem Trimmed.length_words_eq_one_iff (h : Trimmed c text) (hsep : sep.toList = [c]) :
    (words sep text).length = 1 ↔ has c text = false := by
  obtain ⟨first, rest, hfirst, hfirstNe⟩ := h.first
  obtain ⟨front, last, hlast, hlastNe⟩ := h.last
  constructor
  · intro hone
    cases hhas : has c text with
    | false => rfl
    | true =>
      obtain ⟨a, b, htext⟩ := List.append_of_mem (has_eq_true_iff.mp hhas)
      have hwords : words sep text =
          words sep (String.ofList a) ++ words sep (String.ofList b) := by
        rw [← words_append hsep]
        congr 1
        simp [← String.toList_inj, htext, hsep]
      have hbefore : words sep (String.ofList a) ≠ [] := by
        refine words_ne_nil hsep ⟨first, ?_, hfirstNe⟩
        rw [hfirst] at htext
        cases a with
        | nil => exact absurd (List.cons.inj htext).1 hfirstNe
        | cons d a => simp [(List.cons.inj htext).1]
      have hbehind : words sep (String.ofList b) ≠ [] := by
        refine words_ne_nil hsep ⟨last, ?_, hlastNe⟩
        rw [hlast] at htext
        rcases List.eq_nil_or_concat b with rfl | ⟨b, d, rfl⟩
        · obtain ⟨-, hd⟩ := List.append_inj' htext rfl
          exact absurd (List.singleton_inj.mp hd) hlastNe
        · rw [List.concat_eq_append, ← List.cons_append, ← List.append_assoc] at htext
          obtain ⟨-, hd⟩ := List.append_inj' htext rfl
          simp [List.singleton_inj.mp hd]
      have hpos := List.length_pos_iff.mpr hbefore
      have hpos' := List.length_pos_iff.mpr hbehind
      rw [hwords, List.length_append] at hone
      omega
  · intro hhas
    have hne : text ≠ "" := by
      rintro rfl
      simp at hfirst
    rw [words_eq_singleton hsep hne hhas]
    rfl

end Words

end Launcher.Text
