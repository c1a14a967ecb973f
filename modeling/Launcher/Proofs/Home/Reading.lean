-- SUMMARY: Every home that discovery finds is read back from its text.
import Launcher.Proofs.Home.Discovery

/-!
# Homes and their texts

A path is in normal form if none of its parts is empty, a dot, or holds a separator. Such a path is
read back from its text. Reading makes such paths, and so does all else that homes are made with.
-/
namespace Launcher

/-! ## Normal forms -/

theorem Anchor.ofChars_text_append {chars : List Char} (h : chars.head? ≠ some '/') (a : Anchor) :
    Anchor.ofChars (a.text ++ chars) = a := by
  cases chars with
  | nil => cases a <;> rfl
  | cons c r =>
    have hc : c ≠ '/' := by simpa using h
    cases a <;> simp [Anchor.ofChars, hc]

namespace Path

variable {p base : Path} {names : List String}

/-- No part of the path is empty or a dot, and none holds a separator. -/
structure IsNormal (p : Path) : Prop where
  separable : Separable p.parts
  noDot : "." ∉ p.parts

theorem isNormal_ofText (text : String) : (ofText text).IsNormal where
  separable := separable_ofText text
  noDot := by
    rw [parts_ofText]
    simp

/-- A path in normal form is read back from its text. -/
theorem IsNormal.ofText_text (hp : p.IsNormal) : ofText p.text = p := by
  obtain ⟨rfl, -⟩ | ⟨chars, htext, hnames, hhead⟩ := text_cases hp.separable
  · rfl
  · have hanchor : (ofText p.text).anchor = p.anchor := by
      change Anchor.ofChars p.text.toList = p.anchor
      rw [htext]
      exact Anchor.ofChars_text_append hhead p.anchor
    have hlocation : FileSystem.location p.text = p.parts := by
      simp [FileSystem.location, htext, names_anchor_append, hnames, Function.comp_def]
    have hparts : (ofText p.text).parts = p.parts := by
      rw [parts_ofText, hlocation, List.filter_eq_self]
      intro name hname
      have hne : name ≠ "." := fun hdot => hp.noDot (hdot ▸ hname)
      simpa using hne
    calc ofText p.text = ⟨(ofText p.text).anchor, (ofText p.text).parts⟩ := rfl
      _ = p := by rw [hanchor, hparts]

theorem IsNormal.parent (hp : p.IsNormal) : p.parent.IsNormal where
  separable := fun name hname => hp.separable name (List.dropLast_subset _ hname)
  noDot := fun hdot => hp.noDot (List.dropLast_subset _ hdot)

theorem IsNormal.descend (hp : p.IsNormal) (hnames : Separable names) (hdot : "." ∉ names) :
    (p.descend names).IsNormal where
  separable := fun name hname => (List.mem_append.mp hname).elim (hp.separable name) (hnames name)
  noDot := fun hmem => (List.mem_append.mp hmem).elim hp.noDot hdot

theorem IsNormal.under (hbase : base.IsNormal) (hp : p.IsNormal) : (base.under p).IsNormal := by
  unfold Path.under
  split
  · exact hp
  · exact hbase.descend hp.separable hp.noDot

end Path

/-! ## Homes in normal form -/

namespace Host

variable {h : Host} {env : Environment} {p q : Path}

theorem dot_not_mem_collapse (anchored : Bool) (parts : List String) :
    "." ∉ collapse anchored parts ∧ "" ∉ collapse anchored parts := by
  have hfold (done : List String) (hdone : "." ∉ done ∧ "" ∉ done) :
      "." ∉ parts.foldl (collapseStep anchored) done ∧
        "" ∉ parts.foldl (collapseStep anchored) done := by
    induction parts generalizing done with
    | nil => exact hdone
    | cons part parts ih =>
      refine ih _ ?_
      unfold collapseStep
      split
      · exact hdone
      case isFalse hpart =>
        split
        · obtain ⟨hempty, hdot⟩ := not_or.mp hpart
          simp [hdone, Ne.symm hempty, Ne.symm hdot]
        · exact ⟨fun hdot => hdone.1 (List.dropLast_subset _ hdot),
            fun hempty => hdone.2 (List.dropLast_subset _ hempty)⟩
  exact hfold [] ⟨List.not_mem_nil, List.not_mem_nil⟩

theorem isNormal_settle (h : Host) (text : String) : (h.settle text).IsNormal := by
  obtain ⟨whole, hwhole⟩ : ∃ whole, (if Text.startsWith text "/" then text
    else joinText h.cwd text) = whole := ⟨_, rfl⟩
  rw [settle_eq h hwhole]
  obtain ⟨hdot, hempty⟩ := dot_not_mem_collapse (Anchor.ofChars whole.toList ≠ .relative)
    (Text.pieces "/" whole)
  refine ⟨fun name hname => ⟨fun heq => hempty (heq ▸ hname), ?_⟩, hdot⟩
  obtain ⟨chars, hchars, rfl⟩ := List.mem_map.mp (mem_of_mem_collapse hname)
  rw [Text.has_eq_false_iff, String.toList_ofList]
  exact Text.not_mem_of_mem_split hchars

theorem isNormal_canonical (hok : h.canonical p = .ok q) : q.IsNormal := by
  unfold canonical at hok
  split at hok
  · cases hok
  simp only at hok
  split at hok
  · cases hok
  · cases hok
  · cases hok
    exact isNormal_settle h _

end Host

theorem Environment.isNormal_ownHome (env : Environment) (cwd : String) : (env.ownHome cwd).IsNormal := by
  have hfolder : ((Path.ofText env.cwd).absolute cwd).parent.IsNormal :=
    ((Path.isNormal_ofText cwd).under (Path.isNormal_ofText env.cwd)).parent
  unfold Environment.ownHome
  split
  · split
    · exact Path.isNormal_ofText _
    · exact hfolder
  · exact hfolder

/-- The home of a launcher is made from a canonical path. -/
theorem Host.isNormal_homeOfLauncher {h : Host} {launcher : String} {home : Path}
    (hhome : (h.homeOfLauncher launcher).result = .ok (some home)) : home.IsNormal := by
  unfold homeOfLauncher at hhome
  split at hhome
  case h_1 p hp =>
    obtain rfl : p.parent.parent = home := by simpa using hhome
    exact (isNormal_canonical hp).parent.parent
  case h_2 f _ =>
    split at hhome
    · simp [Except.bind] at hhome
    · simp [Except.bind] at hhome
    · simp at hhome

/-- Every home that discovery finds is in normal form. -/
theorem Host.isNormal_of_locateHome {h : Host} {env : Environment} {home : Path}
    (hhome : (h.locateHome env).result = .ok (some home)) : home.IsNormal := by
  cases htokens : searchTokens env.searchPath env.separator with
  | error f => simp [locateHome, htokens, Except.bind] at hhome
  | ok tokens =>
    cases hpackaged : isPackagedLaunch tokens.length env.platform with
    | true =>
      rw [locateHome_packaged htokens hpackaged] at hhome
      exact isNormal_homeOfLauncher hhome
    | false =>
      rw [locateHome_unpackaged htokens hpackaged] at hhome
      obtain rfl : env.ownHome h.cwd = home := by simpa using hhome
      exact env.isNormal_ownHome h.cwd

end Launcher
