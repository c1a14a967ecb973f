-- SUMMARY: The canonical path of what a lookup reaches.
import Launcher.Proofs.FileSystem.Resolution

/-!
# The canonical path of what is reached

A trail is written down as a text, and the text settles to a path without looking at the file system.
Where the working directory is canonical, the text of a trail settles to where the trail stands. So a
path that leads to an entry has the canonical path of that entry as its canonical form. The same goes
for a text that is read into a path first: reading drops dots, and these lead nowhere else.
-/
namespace Launcher

open FileSystem

/-! ## Names and texts -/

/-- Names that can stand between separators. -/
def Separable (names : List String) : Prop := ∀ name ∈ names, name ≠ "" ∧ Text.has '/' name = false

theorem Separable.toList {names : List String} (hs : Separable names) :
    ∀ chars ∈ names.map String.toList, chars ≠ [] ∧ '/' ∉ chars := by
  intro chars hchars
  obtain ⟨name, hname, rfl⟩ := List.mem_map.mp hchars
  obtain ⟨hne, hslash⟩ := hs name hname
  exact ⟨by simpa using hne, Text.has_eq_false_iff.mp hslash⟩

theorem startsWith_separator_iff {text : String} :
    Text.startsWith text "/" = true ↔ text.toList.head? = some '/' := by
  unfold Text.startsWith
  cases text.toList with
  | nil => simp
  | cons c r => simpa using eq_comm

theorem Path.text_root (parts : List String) :
    (⟨.root, parts⟩ : Path).text = "/" ++ "/".intercalate parts := by
  rw [← String.toList_inj]
  simp [text, toChars]

namespace FileSystem

theorem location_intercalate {names : List String} (hs : Separable names) :
    location ("/".intercalate names) = names := by
  have hread : Path.names (['/'].intercalate (names.map String.toList)) = names.map String.toList :=
    Path.names_intercalate hs.toList
  simp [location, hread, Function.comp_def]

theorem location_separator_append (text : String) : location ("/" ++ text) = location text := by
  simp [location, Path.names_cons_separator]

theorem location_joinText {a b : String} (hb : Text.startsWith b "/" = false) :
    location (joinText a b) = location a ++ location b := by
  unfold joinText
  rw [if_neg (by simp [hb])]
  split
  case isTrue hend =>
    rcases hend with rfl | hend
    · simp [location, Path.names, Text.split, Text.splitFrom]
    · obtain ⟨above, habove⟩ := List.isSuffixOf_iff_suffix.mp hend
      have ha : a.toList = above ++ '/' :: [] := habove.symm
      have hnil : Path.names [] = [] := rfl
      simp [location, ha, Path.names_append_separator, hnil]
  case isFalse => simp [location, Path.names_append_separator]

end FileSystem

/-! ## The text of a path that was read -/

theorem parts_ofText (text : String) :
    (Path.ofText text).parts = (location text).filter (· ≠ ".") := by
  have hpart (name : List Char) : Path.isPart name =
      (decide (String.ofList name ≠ ".") && decide (name ≠ [])) := by
    rw [Bool.eq_iff_iff]
    simp [Path.isPart, ← String.toList_inj, and_comm]
  unfold location Path.names
  rw [List.filter_map, List.filter_filter]
  change (((Text.split ['/'] text.toList).filter Path.isPart).map String.ofList) = _
  rw [List.filter_congr fun name _ => hpart name]
  rfl

theorem separable_ofText (text : String) : Separable (Path.ofText text).parts := by
  intro name hname
  rw [parts_ofText] at hname
  have hmem := (List.mem_filter.mp hname).1
  refine ⟨ne_empty_of_mem_location hmem, ?_⟩
  obtain ⟨chars, hchars, rfl⟩ := List.mem_map.mp hmem
  rw [Text.has_eq_false_iff, String.toList_ofList]
  exact Text.not_mem_of_mem_split (List.mem_filter.mp hchars).1

/-- A path is written as its anchor and names, or with a dot where it has neither. -/
theorem text_cases {p : Path} (hs : Separable p.parts) :
    (p = ⟨.relative, []⟩ ∧ p.text = ".") ∨
      ∃ chars, p.text.toList = p.anchor.text ++ chars ∧
        Path.names chars = p.parts.map String.toList ∧ chars.head? ≠ some '/' := by
  have hnames : Path.names (['/'].intercalate (p.parts.map String.toList)) =
      p.parts.map String.toList := Path.names_intercalate hs.toList
  have hhead : (['/'].intercalate (p.parts.map String.toList)).head? ≠ some '/' := by
    simpa using Path.head?_intercalate hs.toList [] (by simp)
  obtain ⟨anchor, parts⟩ := p
  by_cases hdot : anchor = .relative ∧ parts = []
  · obtain ⟨rfl, rfl⟩ := hdot
    exact .inl ⟨rfl, rfl⟩
  · refine .inr ⟨_, ?_, hnames, hhead⟩
    unfold Path.text Path.toChars
    split <;> simp_all

theorem names_anchor_append (a : Anchor) (chars : List Char) :
    Path.names (a.text ++ chars) = Path.names chars := by
  cases a <;> simp [Path.names_cons_separator]

/-- The text of a path names its parts. -/
theorem Path.location_text {p : Path} (hs : Separable p.parts) (hdot : p ≠ ⟨.relative, []⟩) :
    location p.text = p.parts := by
  obtain ⟨h, -⟩ | ⟨chars, htext, hnames, -⟩ := text_cases hs
  · exact absurd h hdot
  · simp [location, htext, names_anchor_append, hnames, Function.comp_def]

theorem Path.startsWith_text {p : Path} (hs : Separable p.parts) :
    Text.startsWith p.text "/" = decide (p.anchor ≠ .relative) := by
  rw [Bool.eq_iff_iff, startsWith_separator_iff, decide_eq_true_iff]
  obtain ⟨rfl, htext⟩ | ⟨chars, htext, -, hhead⟩ := text_cases hs
  · rw [htext]
    decide
  · rw [htext]
    cases p.anchor <;> simp [hhead]

/-- Dots aside, the text of a path that was read names what the text it was read from names. -/
theorem location_text_ofText (text : String) :
    (location (Path.ofText text).text).filter (· ≠ ".") = (location text).filter (· ≠ ".") := by
  have hparts := parts_ofText text
  by_cases hdot : Path.ofText text = ⟨.relative, []⟩
  · rw [hdot] at hparts ⊢
    rw [← hparts]
    decide
  · rw [Path.location_text (separable_ofText text) hdot, hparts, List.filter_filter]
    simp

theorem startsWith_text_ofText (text : String) :
    Text.startsWith (Path.ofText text).text "/" = Text.startsWith text "/" := by
  have habsolute : (Path.ofText text).anchor ≠ .relative ↔ Text.startsWith text "/" = true := by
    rw [startsWith_separator_iff, ← Path.isAbsolute_iff, Path.isAbsolute_ofText,
      List.head?_eq_some_iff]
  rw [Path.startsWith_text (separable_ofText text), Bool.eq_iff_iff, decide_eq_true_iff, habsolute]

/-- A text joined to that of a path at the root starts with one separator. -/
theorem toList_joinText {parts : List String} (hs : Separable parts) {text : String}
    (htext : Text.startsWith text "/" = false) :
    ∃ rest, (joinText (⟨.root, parts⟩ : Path).text text).toList = '/' :: rest ∧
      rest.head? ≠ some '/' := by
  have hhead : text.toList.head? ≠ some '/' := by
    rw [Ne, ← startsWith_separator_iff, htext]
    simp
  have hparts := Path.head?_intercalate hs.toList
  unfold joinText
  rw [if_neg (by simp [htext]), Path.text_root]
  split
  case isTrue =>
    exact ⟨_, by simp, hparts text.toList fun _ => hhead⟩
  case isFalse hend =>
    refine ⟨_, by simp, hparts ('/' :: text.toList) fun hnil => ?_⟩
    -- the text of the root itself ends with a separator
    obtain rfl : parts = [] := by simpa using hnil
    exact absurd (.inr (by decide)) hend

namespace Host

variable {h : Host} {t : Trail} {here at_ cwd : Location} {k : Nat}

theorem Stands.separable (ht : h.Stands t here) : Separable t.names := by
  obtain ⟨start, -, htreads⟩ := ht
  intro name hname
  obtain rfl | ⟨above, n, hnode⟩ := htreads.mem_cases hname
  · decide
  · have hentry := ne_of_isEntryName (isEntryName_of_node? hnode)
    exact ⟨hentry.1, hentry.2.2.2⟩

theorem separable_of_isCanonical {fs : FileSystem} (hc : fs.IsCanonical at_) : Separable at_ := by
  intro name hname
  have hentry := ne_of_isEntryName (hc.1 name hname)
  exact ⟨hentry.1, hentry.2.2.2⟩

theorem location_root_text (hc : h.files.IsCanonical at_) :
    location (⟨.root, at_⟩ : Path).text = at_ :=
  Path.location_text (separable_of_isCanonical hc) (by simp)

/-- A walk starts at the root, or at a canonical working directory that is where it says. -/
theorem start_of_isCanonical (hcwd : h.cwd = (⟨.root, cwd⟩ : Path).text)
    (hcanonical : h.files.IsCanonical cwd) {absolute : Bool} {start : Location}
    (hstart : h.start absolute = .ok start) :
    start = (if absolute then [] else cwd) ∧ h.files.IsCanonical start ∧
      h.files.unlocked.Treads [] start start := by
  cases absolute with
  | true =>
    cases hstart
    exact ⟨rfl, h.files.isCanonical_root, .start⟩
  | false =>
    have hwalk : h.files.unlocked.walk true linkLimit [] (location h.cwd) = .ok start := hstart
    obtain ⟨k, -, hreach⟩ := reaches_of_walk hwalk
    rw [filter_location, hcwd, location_root_text hcanonical] at hreach
    obtain ⟨htreads, rfl⟩ := (isCanonical_unlocked.mpr hcanonical).treads_self hreach
    exact ⟨rfl, hcanonical, htreads⟩

/-! ## Settling -/

theorem collapse_filter (anchored : Bool) (parts : List String) :
    collapse anchored (parts.filter (· ≠ "")) = collapse anchored parts := by
  have hfold (done : List String) : (parts.filter (· ≠ "")).foldl (collapseStep anchored) done =
      parts.foldl (collapseStep anchored) done := by
    induction parts generalizing done with
    | nil => rfl
    | cons part parts ih =>
      by_cases hempty : part = ""
      · subst hempty
        simpa [collapseStep] using ih done
      · simpa [hempty] using ih (collapseStep anchored done part)
  exact hfold []

/-- A text settles to the location that the names from the root on collapse to. -/
theorem settle_of_collapse {text whole : String} {rest : List Char}
    (hwhole : (if Text.startsWith text "/" then text else joinText h.cwd text) = whole)
    (hroot : whole.toList = '/' :: rest) (hrest : rest.head? ≠ some '/')
    (hnames : collapse true (location whole) = at_) : h.settle text = ⟨.root, at_⟩ := by
  have hanchor : Anchor.ofChars whole.toList = .root := by
    rw [hroot]
    unfold Anchor.ofChars
    split <;> simp_all
  have hcollapse : collapse (Anchor.root ≠ .relative) (Text.pieces "/" whole) = at_ := by
    rw [← collapse_filter, filter_pieces]
    exact hnames
  rw [settle_eq h hwhole, hanchor, hcollapse]

/-- The text of a trail settles to where the trail stands. -/
theorem Stands.settle (ht : h.Stands t at_) (hcwd : h.cwd = (⟨.root, cwd⟩ : Path).text)
    (hcanonical : h.files.IsCanonical cwd) : h.settle t.text = ⟨.root, at_⟩ := by
  have hnames := ht.separable
  have hhead : (['/'].intercalate (t.names.map String.toList)).head? ≠ some '/' := by
    simpa using Path.head?_intercalate hnames.toList [] (by simp)
  obtain ⟨start, hstart, htreads⟩ := ht
  obtain ⟨hstart, hfrom, -⟩ := start_of_isCanonical hcwd hcanonical hstart
  have hcollapse : collapse true (start ++ location ("/".intercalate t.names)) = at_ := by
    rw [location_intercalate hnames]
    exact htreads.collapse hfrom
  unfold Trail.text
  cases habsolute : t.absolute with
  | true =>
    rw [if_pos rfl]
    have hslash : Text.startsWith ("/" ++ "/".intercalate t.names) "/" = true := by
      simp [startsWith_separator_iff]
    refine settle_of_collapse (if_pos hslash) (by simp) hhead ?_
    rw [location_separator_append]
    simpa [hstart, habsolute] using hcollapse
  | false =>
    rw [if_neg Bool.false_ne_true, String.empty_append]
    have hslash : Text.startsWith ("/".intercalate t.names) "/" = false := by
      rw [Bool.eq_false_iff, Ne, startsWith_separator_iff]
      simpa using hhead
    obtain ⟨rest, hroot, hrest⟩ := toList_joinText (separable_of_isCanonical hcanonical) hslash
    refine settle_of_collapse (if_neg (by simp [hslash])) (hcwd ▸ hroot) hrest ?_
    rw [location_joinText hslash, hcwd, location_root_text hcanonical]
    simpa [hstart, habsolute] using hcollapse

/-! ## The canonical form -/

/-- A path that leads somewhere does so from the root, or from the working directory if it is
    relative. -/
theorem reaches_of_locate {text : String} (hlocate : h.locate true text = .ok at_) :
    ∃ start, h.start (Text.startsWith text "/") = .ok start ∧
      ∃ k ≤ linkLimit, h.files.Reaches start (location text) at_ k := by
  unfold locate at hlocate
  split at hlocate
  · cases hlocate
  split at hlocate
  · cases hlocate
  cases hwalk : h.walk true (.ofText text) with
  | error e => simp [hwalk] at hlocate
  | ok found =>
    obtain rfl : found = at_ := by simpa [hwalk] using hlocate
    cases hstart : h.start (Text.startsWith text "/") with
    | error e =>
      have hnone : h.walk true (.ofText text) = .error e := by
        simp only [walk, Route.ofText, hstart]
      rw [hnone] at hwalk
      cases hwalk
    | ok start =>
      rw [h.walk_of_start (.ofText text) hstart] at hwalk
      obtain ⟨k, hk, hreach⟩ := reaches_of_walk hwalk
      rw [filter_names_ofText] at hreach
      exact ⟨start, rfl, k, hk, hreach⟩

/-- Walking the text of a canonical path meets no loop. -/
theorem walk_root_text_ne_loop (hc : h.files.IsCanonical at_) :
    h.walk true (.ofText (⟨.root, at_⟩ : Path).text) ≠ .error .loop := by
  have habsolute : Text.startsWith (⟨.root, at_⟩ : Path).text "/" = true := by
    simp [startsWith_separator_iff, Path.text_root]
  have hstart : h.start (Route.ofText (⟨.root, at_⟩ : Path).text).absolute = .ok [] := by
    change h.start (Text.startsWith _ "/") = _
    rw [habsolute, start_root]
  obtain ⟨onLink, hwalk⟩ := walk_eq_walkWith h.files true linkLimit
  have hnames : h.files.IsCanonical ([] ++ at_) := hc
  rw [h.walk_of_start _ hstart, hwalk]
  change h.files.walkWith onLink true [] (location (⟨.root, at_⟩ : Path).text ++ _) ≠ _
  rw [location_root_text hc]
  obtain heq | ⟨e, hloop, heq⟩ := hnames.walkWith_cases onLink true
    (if Text.endsWith (⟨.root, at_⟩ : Path).text "/" then [""] else [])
  · rw [heq, List.nil_append]
    split
    · rw [walkWith]
      cases h.files.node? at_ with
      | none => simp
      | some dir =>
        simp only [if_true, walkWith]
        split <;> simp
    · simp [walkWith]
  · rw [heq]
    exact fun h => hloop (Except.error.inj h)

theorem stat_ne_loop (hc : h.files.IsCanonical at_) :
    h.stat (⟨.root, at_⟩ : Path).text ≠ .error (.errno .loop) := by
  have hwalk := walk_root_text_ne_loop hc
  unfold stat look locate
  generalize (⟨.root, at_⟩ : Path).text = text at hwalk ⊢
  cases Text.has '\x00' text with
  | true => simp
  | false =>
    by_cases hempty : text = ""
    · simp [hempty]
    · cases hrun : h.walk true (.ofText text) with
      | error e => simpa [hempty, hrun] using hwalk
      | ok found => cases hnode : h.files.node? found <;> simp [hempty, hnode]

/-- A canonical working directory that its text leads to can be walked to without a link. -/
theorem treads_cwd (hcwd : h.cwd = (⟨.root, cwd⟩ : Path).text) (hcanonical : h.files.IsCanonical cwd)
    (hlocate : h.locate true h.cwd = .ok at_) : h.files.Treads [] cwd cwd := by
  have hslash : Text.startsWith h.cwd "/" = true := by
    simp [hcwd, startsWith_separator_iff, Path.text_root]
  obtain ⟨root, hroot, k, -, hreach⟩ := reaches_of_locate hlocate
  rw [hslash, start_root] at hroot
  cases hroot
  rw [hcwd, location_root_text hcanonical] at hreach
  exact (hcanonical.treads_self hreach).1

section Canonical

variable {p : Path} {start : Location} (hcwd : h.cwd = (⟨.root, cwd⟩ : Path).text)
  (hcanonical : h.files.IsCanonical cwd) (hstart : h.start (Text.startsWith p.text "/") = .ok start)
  (hreach : h.files.Reaches start (location p.text) at_ k)
include hcwd hcanonical hstart hreach

/-- What is reached from a canonical working directory can be walked to without a link, but for
    directories above the working directory that may not be searched. -/
theorem treads_of_reaches : h.files.unlocked.Treads [] at_ at_ :=
  hreach.unlocked.treads (start_of_isCanonical hcwd hcanonical hstart).2.2

theorem isCanonical_of_reaches : h.files.IsCanonical at_ :=
  isCanonical_unlocked.mp
    ((treads_of_reaches hcwd hcanonical hstart hreach).isCanonical (isCanonical_root _))

/-- Where the working directory is canonical, a path whose names lead to an entry, past no more links
    than one lookup follows, has the canonical path of that entry as its canonical form. -/
theorem canonical_of_reaches (hfollowed : h.files.FollowedAvoid '\x00')
    (hnames : ∀ name ∈ location p.text, Text.has '\x00' name = false) (hk : k ≤ linkLimit)
    (hfree : (⟨.root, at_⟩ : Path).NulFree) : h.canonical p = .ok ⟨.root, at_⟩ := by
  have hstands : h.Stands (startTrail ⟨false, []⟩ p.text) start := by
    refine ⟨start, ?_, ?_⟩
    · unfold startTrail
      cases hslash : Text.startsWith p.text "/" <;> simpa [hslash, Trail.root] using hstart
    · unfold startTrail
      split <;> exact .start
  have hdepth : k ≤ nestingLimit - 1 := Nat.le_trans hk (by decide)
  have hplain : (startTrail ⟨false, []⟩ p.text).NulFree := nulFree_startTrail (by simp [Trail.NulFree]) _
  have hresolved : h.Resolved [] := by rintro _ _ ⟨⟩
  have hpending : h.Pending [] k := by rintro _ ⟨⟩
  obtain ⟨t, memo, hrun, ht, -, -, -⟩ :=
    arrives_resolveWith hfollowed hreach hnames hdepth hstands hplain hresolved hpending
  have hresolve : h.resolveText nestingLimit ⟨false, []⟩ [] p.text = .ok (.reached t, memo) :=
    resolveText_of_names hrun
  have hsettle : h.settle t.text = ⟨.root, at_⟩ := ht.settle hcwd hcanonical
  -- neither of the two refusals that count can come up in the lookup at the end
  have hnul : h.stat (⟨.root, at_⟩ : Path).text ≠ .error .nul := by
    rw [Ne, stat_eq_nul_iff, hfree]
    simp
  have hloop := stat_ne_loop (isCanonical_of_reaches hcwd hcanonical hstart hreach)
  unfold canonical
  rw [hresolve]
  simp only [Resolution.text, hsettle]

end Canonical

/-- Where the working directory is canonical, a path that leads to an entry has the canonical path
    of that entry as its canonical form. -/
theorem canonical_of_locate (havoid : h.files.Avoids '\x00')
    (hcwd : h.cwd = (⟨.root, cwd⟩ : Path).text) (hcanonical : h.files.IsCanonical cwd) {p : Path}
    (hlocate : h.locate true p.text = .ok at_) :
    h.canonical p = .ok ⟨.root, at_⟩ ∧ h.files.IsCanonical at_ := by
  obtain ⟨start, hstart, k, hk, hreach⟩ := reaches_of_locate hlocate
  have hnames : ∀ name ∈ location p.text, Text.has '\x00' name = false :=
    hreach.has_names havoid (by decide)
  refine ⟨canonical_of_reaches hcwd hcanonical hstart hreach (havoid.followedAvoid (by decide)) hnames
    hk (Path.nulFree_iff.mpr ?_), isCanonical_of_reaches hcwd hcanonical hstart hreach⟩
  intro part hpart
  obtain rfl | ⟨above, n, hnode⟩ :=
    (treads_of_reaches hcwd hcanonical hstart hreach).mem_cases hpart
  · decide
  · rw [node?_unlocked, Option.map_eq_some_iff] at hnode
    obtain ⟨n, hnode, -⟩ := hnode
    exact havoid.of_node? hnode

/-- The path that a text denotes is canonically that of the entry which the text itself leads to,
    where no NUL comes up on the way. -/
theorem canonical_ofText (htargets : h.files.TargetsAvoid '\x00')
    (hnul : Text.has '\x00' h.cwd = false) (hcwd : h.cwd = (⟨.root, cwd⟩ : Path).text)
    (hcanonical : h.files.IsCanonical cwd) {text : String} (hlocate : h.locate true text = .ok at_) :
    h.canonical (.ofText text) = .ok ⟨.root, at_⟩ ∧ (⟨.root, at_⟩ : Path).NulFree ∧
      h.files.IsCanonical at_ := by
  have htext : Text.has '\x00' text = false := by
    rw [Bool.eq_false_iff, Ne, ← @locate_eq_nul_iff h text true, hlocate]
    simp
  have hfollowed := htargets.followedAvoid
  obtain ⟨start, hstart, k, hk, hreach⟩ := reaches_of_locate hlocate
  have hstart' : h.start (Text.startsWith (Path.ofText text).text "/") = .ok start := by
    rwa [startsWith_text_ofText]
  have hreach' : h.files.Reaches start (location (Path.ofText text).text) at_ k := by
    rw [← reaches_filter_dots, location_text_ofText, reaches_filter_dots]
    exact hreach
  have hnames : ∀ name ∈ location (Path.ofText text).text, Text.has '\x00' name = false :=
    has_of_mem_location (Path.nulFree_ofText htext)
  have hfrom : ∀ name ∈ start, Text.has '\x00' name = false := by
    obtain ⟨rfl, -⟩ := start_of_isCanonical hcwd hcanonical hstart
    split
    · simp
    · rw [← location_root_text hcanonical, ← hcwd]
      exact has_of_mem_location hnul
  have hfree : (⟨.root, at_⟩ : Path).NulFree :=
    Path.nulFree_iff.mpr (hreach.has_at hfollowed hfrom (has_of_mem_location htext))
  exact ⟨canonical_of_reaches hcwd hcanonical hstart' hreach' hfollowed hnames hk hfree, hfree,
    isCanonical_of_reaches hcwd hcanonical hstart' hreach'⟩

end Host

end Launcher
