-- SUMMARY: The entries of a directory that can be listed, and what the path of one of them leads to.
import Launcher.Proofs.Archive.Scan
import Launcher.Proofs.FileSystem.Settling

/-!
# Entries of a directory

A directory lists the entries directly below it. An entry can be looked up by two texts: the one
that a listing gives for it, and the text of the path of the child. Both lead to the same place; they
differ by no more than a dot in front. The place is the entry itself unless the entry is a link.
-/
namespace Launcher

open FileSystem

/-! ## The text of a child -/

namespace Path

variable {p : Path} {name : String}

theorem text_concat (anchor : Anchor) (above : List String) (last : String) :
    (⟨anchor, above ++ [last]⟩ : Path).text.toList = (⟨anchor, above⟩ : Path).lead ++ last.toList := by
  have hchild := child_text ⟨anchor, above⟩ last
  rw [child] at hchild
  rw [hchild, String.toList_ofList]

/-- The text of a path ends with its last name. -/
theorem endsWith_text (hs : Separable p.parts) (hne : p.parts ≠ []) :
    Text.endsWith p.text "/" = false := by
  obtain ⟨anchor, parts⟩ := p
  obtain ⟨above, last, rfl⟩ := (List.eq_nil_or_concat' parts).resolve_left hne
  obtain ⟨hlast, hslash⟩ := hs last (by simp)
  rw [Bool.eq_false_iff, Ne, endsWith_separator_iff, text_concat]
  rintro ⟨before, hend⟩
  obtain ⟨front, c, hchars⟩ :=
    (List.eq_nil_or_concat' last.toList).resolve_left (mt String.toList_eq_nil_iff.mp hlast)
  rw [hchars, ← List.append_assoc] at hend
  have hc : c = '/' := List.singleton_inj.mp (List.append_inj' hend rfl).2
  exact Text.has_eq_false_iff.mp hslash (by simp [hchars, hc])

/-- What the text of a child starts with is the text of the directory, closed by a separator. -/
theorem lead_eq_text (hs : Separable p.parts) (hdot : p ≠ ⟨.relative, []⟩) :
    p.lead = p.text.toList ++ if Text.endsWith p.text "/" then [] else ['/'] := by
  by_cases hne : p.parts = []
  · obtain ⟨anchor, parts⟩ := p
    obtain rfl : parts = [] := hne
    cases anchor
    · exact absurd rfl hdot
    · decide
    · decide
  · rw [endsWith_text hs hne, lead_of_parts_ne hne]
    rfl

/-- The text that a listing gives for a child is that of its path, but for the directory `.`. -/
theorem entryText_eq (hs : Separable p.parts) (hdot : p ≠ ⟨.relative, []⟩) :
    p.entryText name = (p.child name).text := by
  rw [child_text, lead_eq_text hs hdot, entryText, ← String.toList_inj]
  cases Text.endsWith p.text "/" <;> simp

theorem entryText_dot :
    (⟨.relative, []⟩ : Path).entryText name = (⟨.relative, [".", name]⟩ : Path).text := by
  have hopen : Text.endsWith (⟨.relative, []⟩ : Path).text "/" = false := by decide
  rw [entryText, hopen, ← String.toList_inj]
  simp [text, toChars]

theorem text_ne_empty {names : List String} (hs : Separable names) (hne : names ≠ []) :
    (⟨.relative, names⟩ : Path).text ≠ "" := by
  intro hempty
  have hlocation := location_text (p := ⟨.relative, names⟩) hs (by simpa using hne)
  rw [hempty] at hlocation
  exact hne hlocation.symm

/-- The text of a relative path spells the names of the path. -/
theorem route_text {names : List String} (hs : Separable names) (hne : names ≠ []) :
    Route.ofText (⟨.relative, names⟩ : Path).text = ⟨false, names⟩ := by
  have hstart := startsWith_text (p := ⟨.relative, names⟩) hs
  have hnames := location_text (p := ⟨.relative, names⟩) hs (by simpa using hne)
  have hend := endsWith_text (p := ⟨.relative, names⟩) hs hne
  unfold location at hnames
  unfold Route.ofText
  rw [hstart, hnames, hend]
  simp

theorem separable_child (hs : Separable p.parts) (hname : isEntryName name = true) :
    Separable (p.child name).parts := by
  intro part hpart
  rcases List.mem_append.mp hpart with hpart | hpart
  · exact hs part hpart
  · obtain rfl := List.mem_singleton.mp hpart
    obtain ⟨hne, -, -, hslash⟩ := ne_of_isEntryName hname
    exact ⟨hne, hslash⟩

theorem child_ne_dot : p.child name ≠ ⟨.relative, []⟩ := by
  simp [child]

end Path

/-! ## A dot in front of a name -/

namespace FileSystem

variable {fs : FileSystem} {follow : Bool} {name : String}

theorem walkWith_dot {onLink : Location → String → List String → Except Errno Location}
    {rest : List String} (hname : name ≠ "")
    (honLink : ∀ here target before, onLink here target (before ++ "." :: name :: rest) =
      onLink here target (before ++ name :: rest)) (here : Location) (before : List String) :
    fs.walkWith onLink follow here (before ++ "." :: name :: rest) =
      fs.walkWith onLink follow here (before ++ name :: rest) := by
  induction before generalizing here with
  | nil =>
    rw [List.nil_append, List.nil_append, walkWith]
    cases hdir : fs.node? here with
    | none => simp [walkWith, hdir]
    | some dir =>
      cases hdirectory : dir.isDirectory <;> cases hsearch : dir.isSearchable <;>
        simp [walkWith, hdir, hname, hdirectory, hsearch]
  | cons first before ih =>
    simp only [List.cons_append, walkWith, ih, honLink]
    simp

/-- A dot in front of a name makes no difference to a walk. -/
theorem walk_dot {rest : List String} (hname : name ≠ "") (budget : Nat) (here : Location)
    (before : List String) :
    fs.walk follow budget here (before ++ "." :: name :: rest) =
      fs.walk follow budget here (before ++ name :: rest) := by
  induction budget generalizing here before with
  | zero => exact walkWith_dot hname (fun _ _ _ => rfl) here before
  | succ budget ih =>
    refine walkWith_dot hname ?_ here before
    intro here target before
    simp only [← List.append_assoc, ih]

end FileSystem

namespace Host

variable {h : Host} {text name : String} {at_ found : Location} {n m : Node}

/-! ## Listings -/

/-- The text leads to a directory at the location, and the directory can be listed. -/
def Lists (h : Host) (text : String) (at_ : Location) : Prop :=
  h.locate true text = .ok at_ ∧
    ∃ dir, h.files.node? at_ = some dir ∧ dir.isDirectory = true ∧ dir.readable = true

theorem Lists.list (hlists : h.Lists text at_) :
    ∃ listing, h.list text = .ok listing ∧
      ∀ name n, (name, n) ∈ listing ↔ h.files.node? (at_ ++ [name]) = some n := by
  obtain ⟨hat, dir, hnode, hdir, hread⟩ := hlists
  refine ⟨(h.files.children at_).filterMap fun name =>
    (h.files.node? (at_ ++ [name])).map fun n => (name, n), ?_, ?_⟩
  · simp [Host.list, hat, hnode, hdir, hread]
  intro name n
  simp only [List.mem_filterMap, Option.map_eq_some_iff, Prod.mk.injEq]
  constructor
  · rintro ⟨_, -, _, hn, rfl, rfl⟩
    exact hn
  · intro hn
    exact ⟨name, mem_children.mpr (List.mem_map_of_mem (mem_of_node?_concat hn)), n, hn, rfl, rfl⟩

theorem Lists.mem_iff {listing : List (String × Node)} (hlists : h.Lists text at_)
    (hlist : h.list text = .ok listing) :
    (name, n) ∈ listing ↔ h.files.node? (at_ ++ [name]) = some n := by
  obtain ⟨_, hlist', hmem⟩ := hlists.list
  obtain rfl := Except.ok.inj (hlist.symm.trans hlist')
  exact hmem name n

theorem lists_of_list {listing : List (String × Node)} (hlist : h.list text = .ok listing) :
    ∃ at_, h.Lists text at_ := by
  unfold list at hlist
  cases hat : h.locate true text with
  | error e => simp [hat] at hlist
  | ok at_ =>
    cases hnode : h.files.node? at_ with
    | none => simp [hat, hnode] at hlist
    | some dir =>
      cases hdir : dir.isDirectory <;> cases hread : dir.readable <;>
        simp [hat, hnode, hdir, hread] at hlist
      exact ⟨at_, hat, dir, hnode, hdir, hread⟩

theorem Lists.unique {at_' : Location} (hlists : h.Lists text at_) (hlists' : h.Lists text at_') :
    at_' = at_ :=
  Except.ok.inj (hlists'.1.symm.trans hlists.1)

/-! ## Looking an entry up -/

theorem walk_of_stat (hstat : h.stat text = .ok n) :
    ∃ found, h.walk true (.ofText text) = .ok found ∧ h.files.node? found = some n := by
  unfold stat look locate at hstat
  cases hnul : Text.has '\x00' text with
  | true => simp [hnul] at hstat
  | false =>
    by_cases hempty : text = ""
    · simp [hempty, Text.has] at hstat
    cases hwalk : h.walk true (.ofText text) with
    | error e => simp [hnul, hempty, hwalk] at hstat
    | ok found =>
      cases hfound : h.files.node? found <;> simp [hnul, hempty, hwalk, hfound] at hstat
      exact ⟨found, rfl, hstat ▸ hfound⟩

/-- A dot in front of the name of an entry makes no difference to what its text leads to. -/
theorem stat_dot_text (hname : isEntryName name = true) :
    h.stat (⟨.relative, [".", name]⟩ : Path).text = h.stat (⟨.relative, [name]⟩ : Path).text := by
  obtain ⟨hne, -, -, hslash⟩ := ne_of_isEntryName hname
  have hs : Separable [name] := List.forall_mem_singleton.mpr ⟨hne, hslash⟩
  have hs' : Separable [".", name] := List.forall_mem_cons.mpr ⟨⟨by decide, by decide⟩, hs⟩
  have hnul : Text.has '\x00' (⟨.relative, [".", name]⟩ : Path).text =
      Text.has '\x00' (⟨.relative, [name]⟩ : Path).text := by
    rw [Bool.eq_iff_iff, Text.has_eq_true_iff, Text.has_eq_true_iff,
      Path.mem_text_iff (by decide) (by decide), Path.mem_text_iff (by decide) (by decide)]
    simp
  have hwalk : h.walk true (.ofText (⟨.relative, [".", name]⟩ : Path).text) =
      h.walk true (.ofText (⟨.relative, [name]⟩ : Path).text) := by
    rw [Path.route_text hs (by simp), Path.route_text hs' (by simp)]
    unfold walk
    cases h.start false with
    | error e => rfl
    | ok start => exact walk_dot hne linkLimit start []
  simp only [stat, look, locate, hnul, hwalk, Path.text_ne_empty hs (by simp),
    Path.text_ne_empty hs' (by simp)]

/-- Both texts of an entry lead to the same. -/
theorem stat_entryText (hname : isEntryName name = true) :
    h.stat ((Path.ofText text).entryText name) = h.stat ((Path.ofText text).child name).text := by
  by_cases hdot : Path.ofText text = ⟨.relative, []⟩
  · rw [hdot, Path.entryText_dot]
    exact stat_dot_text hname
  · rw [Path.entryText_eq (separable_ofText text) hdot]

theorem reaches_child (hlocate : h.locate true (Path.ofText text).text = .ok at_)
    (hname : isEntryName name = true)
    (hchild : h.locate true ((Path.ofText text).child name).text = .ok found) :
    ∃ k, h.files.Reaches at_ [name] found k := by
  have hs := separable_ofText text
  have hschild := Path.separable_child hs hname
  obtain ⟨start, hstart, k, -, hreach⟩ := reaches_of_locate hlocate
  obtain ⟨start', hstart', k', -, hreach'⟩ := reaches_of_locate hchild
  rw [Path.startsWith_text hschild, Path.child_anchor, ← Path.startsWith_text hs] at hstart'
  obtain rfl := Except.ok.inj (hstart.symm.trans hstart')
  rw [Path.location_text hschild Path.child_ne_dot] at hreach'
  -- dots aside, the names of the child are those of the directory and then its own
  have hdots : (location (Path.ofText text).text).filter (· ≠ ".") =
      (Path.ofText text).parts.filter (· ≠ ".") := by
    rw [location_text_ofText, parts_ofText, List.filter_filter]
    simp
  rw [← reaches_filter_dots, hdots, reaches_filter_dots] at hreach
  obtain ⟨mid, k₁, k₂, hmid, hlast, -⟩ := hreach'.split
  obtain ⟨rfl, -⟩ := hmid.unique hreach
  exact ⟨k₂, hlast⟩

/-- The path of an entry that is no link leads to the entry itself, if it leads anywhere. -/
theorem eq_of_stat_child (hlocate : h.locate true (Path.ofText text).text = .ok at_)
    (hnode : h.files.node? (at_ ++ [name]) = some n) (hlink : n.target? = none)
    (hstat : h.stat ((Path.ofText text).child name).text = .ok m) : m = n := by
  have hname := isEntryName_of_node? hnode
  obtain ⟨hne, hdot, hup, -⟩ := ne_of_isEntryName hname
  unfold stat look at hstat
  cases hchild : h.locate true ((Path.ofText text).child name).text with
  | error r => simp [hchild] at hstat
  | ok found =>
    obtain ⟨k, hreach⟩ := reaches_child hlocate hname hchild
    cases hreach with
    | stay h' => exact absurd h' hdot
    | up h' => exact absurd h' hup
    | down _ _ _ hend =>
      cases hend
      simp [hchild, hnode] at hstat
      exact hstat.symm
    | link _ hnode' hlink' =>
      rw [hnode] at hnode'
      cases hnode'
      rw [hlink] at hlink'
      cases hlink'

end Host

end Launcher
