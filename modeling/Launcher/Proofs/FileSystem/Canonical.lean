-- SUMMARY: When a path has a canonical form: unless links lie too deep or lead in a loop.
import Launcher.FileSystem.Canonical
import Launcher.Proofs.FileSystem.Listing
import Launcher.Proofs.Path.Spelling

/-!
# Paths that have a canonical form

Where no text that a resolution meets holds a NUL, links that lie too deep are the only reason
for it to fail, and what it comes to holds no NUL either. The lookup at the end can then be
refused for a loop of links alone. Whatever else is wrong with the path, it has a canonical form.
-/
namespace Launcher

/-! ## Paths without NUL -/

/-- The text of the path holds no NUL. -/
def Path.NulFree (p : Path) : Prop := Text.has '\x00' p.text = false

namespace Path

variable {p base : Path}

theorem nulFree_iff : p.NulFree ↔ ∀ part ∈ p.parts, Text.has '\x00' part = false := by
  have hslash : '\x00' ≠ '/' := by decide
  have hdot : '\x00' ≠ '.' := by decide
  simp only [NulFree, Text.has_eq_false_iff, mem_text_iff hslash hdot, not_exists, not_and]

theorem nulFree_ofText {text : String} (h : Text.has '\x00' text = false) : (ofText text).NulFree :=
  has_text_ofText (by decide) (by decide) h

theorem NulFree.parent (h : p.NulFree) : p.parent.NulFree :=
  nulFree_iff.mpr fun part hpart => nulFree_iff.mp h part (List.dropLast_subset _ hpart)

theorem NulFree.under (hbase : base.NulFree) (h : p.NulFree) : (base.under p).NulFree := by
  unfold Path.under
  split
  · exact h
  · rw [nulFree_iff] at hbase h ⊢
    intro part hpart
    rcases List.mem_append.mp hpart with hpart | hpart
    · exact hbase part hpart
    · exact h part hpart

end Path

/-! ## Entries and targets -/

theorem mem_of_lookup {α β : Type} [BEq α] [LawfulBEq α] {l : List (α × β)} {a : α} {b : β}
    (h : l.lookup a = some b) : (a, b) ∈ l := by
  obtain ⟨before, after, rfl, -⟩ := List.lookup_eq_some_iff.mp h
  simp

namespace FileSystem

variable {fs : FileSystem} {at_ : Location} {n : Node}

/-- What stands at a location is an entry, or the root that is always there. -/
theorem mem_of_node? (hnode : fs.node? at_ = some n) :
    (at_, n) ∈ fs.entries ∨ (at_ = [] ∧ n = .plainDirectory) := by
  unfold node? at hnode
  split at hnode
  case h_1 _ found hfound =>
    cases hnode
    exact .inl (mem_of_lookup hfound)
  case h_2 =>
    split at hnode
    case isTrue hroot =>
      cases hnode
      exact .inr ⟨hroot, rfl⟩
    case isFalse => cases hnode

theorem mem_of_node?_concat {name : String} (hnode : fs.node? (at_ ++ [name]) = some n) :
    (at_ ++ [name], n) ∈ fs.entries :=
  (mem_of_node? hnode).resolve_right fun h => by simp at h

/-- No target of a link holds the character. -/
def TargetsAvoid (fs : FileSystem) (c : Char) : Prop :=
  ∀ e ∈ fs.entries, ∀ target ∈ e.2.target?, Text.has c target = false

instance (fs : FileSystem) (c : Char) : Decidable (fs.TargetsAvoid c) :=
  inferInstanceAs (Decidable (∀ e ∈ fs.entries, ∀ target ∈ e.2.target?, Text.has c target = false))

theorem TargetsAvoid.has_target {c : Char} (h : fs.TargetsAvoid c) {target : String}
    (hnode : fs.node? at_ = some n) (htarget : n.target? = some target) :
    Text.has c target = false := by
  obtain hmem | ⟨-, rfl⟩ := mem_of_node? hnode
  · exact h _ hmem target htarget
  · cases htarget

end FileSystem

/-! ## What a resolution comes to -/

/-- No name of the trail holds a NUL. -/
def Trail.NulFree (t : Trail) : Prop := ∀ name ∈ t.names, Text.has '\x00' name = false

namespace Trail

variable {t : Trail}

theorem nulFree_root : root.NulFree := by simp [NulFree, root]

theorem NulFree.child (h : t.NulFree) {name : String} (hname : Text.has '\x00' name = false) :
    (t.child name).NulFree := by
  intro other hother
  rcases List.mem_append.mp hother with hother | hother
  · exact h other hother
  · rwa [List.mem_singleton.mp hother]

theorem NulFree.up (h : t.NulFree) : t.up.NulFree := by
  unfold Trail.up
  split
  · split
    · exact h
    · exact h.child (by decide)
  · exact h.child (by decide)
  · exact fun name hname => h name (List.dropLast_subset _ hname)

theorem NulFree.has_text (h : t.NulFree) : Text.has '\x00' t.text = false := by
  unfold Trail.text
  rw [Text.has_append, Text.has_intercalate (by decide) h]
  split <;> decide

end Trail

/-- Neither a trail nor a text that was given up on holds a NUL. -/
def Resolution.NulFree : Resolution → Prop
  | .reached t => t.NulFree
  | .stuck text => Text.has '\x00' text = false

theorem Resolution.NulFree.has_text {r : Resolution} (h : r.NulFree) :
    Text.has '\x00' (Host.Resolution.text r) = false := by
  cases r with
  | reached t => exact Trail.NulFree.has_text h
  | stuck text => exact h

/-- No link of the memo has been resolved to a trail with a NUL. -/
def LinkMemo.NulFree (memo : LinkMemo) : Prop :=
  ∀ e ∈ memo, ∀ done, e.2 = some done → done.NulFree

theorem LinkMemo.NulFree.cons {memo : LinkMemo} (h : memo.NulFree) {t : Trail} {done : Option Trail}
    (hdone : ∀ d, done = some d → d.NulFree) : LinkMemo.NulFree ((t, done) :: memo) := by
  intro e he d hd
  rcases List.mem_cons.mp he with rfl | he
  · exact hdone d hd
  · exact h e he d hd

theorem has_joinText {a b : String} (ha : Text.has '\x00' a = false) (hb : Text.has '\x00' b = false) :
    Text.has '\x00' (joinText a b) = false := by
  unfold joinText
  split
  · exact hb
  · split
    · rw [Text.has_append, ha, hb]; rfl
    · rw [Text.has_append, Text.has_append, ha, hb]; rfl

/-- The resolution ended without NUL, or because links lie too deep. -/
def EndsPlainly : Except Fault (Resolution × LinkMemo) → Prop
  | .ok (r, memo) => r.NulFree ∧ memo.NulFree
  | .error f => f = (Error.tooDeep : Error)

namespace Host

variable {h : Host}

/-- A trail without NUL can be looked at, and the target that is found holds none. -/
theorem link?_of_nulFree (htargets : h.files.TargetsAvoid '\x00') {t : Trail} (ht : t.NulFree) :
    ∃ target, h.link? t = .ok target ∧ ∀ text, target = some text → Text.has '\x00' text = false := by
  have hany : t.names.any (Text.has '\x00') = false := by simpa [Trail.NulFree] using ht
  unfold link?
  rw [hany]
  simp only [Bool.false_eq_true, if_false]
  cases h.walk false t.route with
  | error e => exact ⟨none, rfl, by simp⟩
  | ok at_ =>
    refine ⟨_, rfl, ?_⟩
    intro text htext
    obtain ⟨n, hnode, htarget⟩ := Option.bind_eq_some_iff.mp htext
    exact htargets.has_target hnode htarget

variable {inner : Trail → LinkMemo → String → Except Fault (Resolution × LinkMemo)}

theorem endsPlainly_resolveWith (htargets : h.files.TargetsAvoid '\x00')
    (hinner : ∀ t memo text, t.NulFree → memo.NulFree → Text.has '\x00' text = false →
      EndsPlainly (inner t memo text))
    {t : Trail} {names : List String} {memo : LinkMemo} (ht : t.NulFree)
    (hnames : ∀ name ∈ names, Text.has '\x00' name = false) (hmemo : memo.NulFree) :
    EndsPlainly (h.resolveWith inner t names memo) := by
  induction names generalizing t memo with
  | nil => exact ⟨ht, hmemo⟩
  | cons name rest ih =>
    have hname : Text.has '\x00' name = false := hnames name (by simp)
    have hrest : ∀ other ∈ rest, Text.has '\x00' other = false :=
      fun other hother => hnames other (by simp [hother])
    have htail : Text.has '\x00' ("/".intercalate rest) = false :=
      Text.has_intercalate (by decide) hrest
    have hnext : (t.child name).NulFree := ht.child hname
    obtain ⟨target, htarget, hplain⟩ := link?_of_nulFree htargets hnext
    rw [resolveWith]
    split
    · exact ih ht hrest hmemo
    split
    · exact ih ht.up hrest hmemo
    simp only [htarget]
    cases target with
    | none => exact ih hnext hrest hmemo
    | some text =>
      cases hlookup : memo.lookup (t.child name) with
      | some seen =>
        cases seen with
        | some done =>
          have hdone : done.NulFree := hmemo _ (mem_of_lookup hlookup) done rfl
          exact ih hdone hrest hmemo
        | none => exact ⟨has_joinText hnext.has_text htail, hmemo⟩
      | none =>
        have hpending : LinkMemo.NulFree ((t.child name, none) :: memo) := hmemo.cons (by simp)
        have hend := hinner t ((t.child name, none) :: memo) text ht hpending (hplain text rfl)
        simp only
        generalize inner t ((t.child name, none) :: memo) text = outcome at hend ⊢
        rcases outcome with f | ⟨_ | _, memo'⟩
        · exact hend
        · exact ih hend.1 hrest (hend.2.cons fun d hd => Option.some.inj hd ▸ hend.1)
        · exact ⟨has_joinText hend.1 htail, hend.2⟩

theorem endsPlainly_resolveText (htargets : h.files.TargetsAvoid '\x00') {depth : Nat} {t : Trail}
    {memo : LinkMemo} {text : String} (ht : t.NulFree) (hmemo : memo.NulFree)
    (htext : Text.has '\x00' text = false) : EndsPlainly (h.resolveText depth t memo text) := by
  induction depth generalizing t memo text with
  | zero => rfl
  | succ depth ih =>
    have hinner : ∀ t memo text, Trail.NulFree t → LinkMemo.NulFree memo →
        Text.has '\x00' text = false → EndsPlainly (h.resolveText depth t memo text) :=
      fun _ _ _ ht hmemo htext => ih ht hmemo htext
    have hdrop : Text.has '\x00' (String.ofList (text.toList.drop 1)) = false := by
      rw [Text.has_eq_false_iff] at htext ⊢
      rw [String.toList_ofList]
      exact fun hmem => htext (List.mem_of_mem_drop hmem)
    rw [resolveText]
    split
    · exact endsPlainly_resolveWith htargets hinner Trail.nulFree_root
        (fun name hname => Text.has_of_mem_pieces hdrop hname) hmemo
    · exact endsPlainly_resolveWith htargets hinner ht
        (fun name hname => Text.has_of_mem_pieces htext hname) hmemo

/-! ## The canonical form -/

/-- What one more part does to the parts that are left. -/
def collapseStep (anchored : Bool) (done : List String) (part : String) : List String :=
  if part = "" ∨ part = "." then done
  else if part ≠ ".." ∨ (!anchored ∧ done = []) ∨ done.getLast? = some ".." then done ++ [part]
  else done.dropLast

theorem collapse_eq_foldl (anchored : Bool) (parts : List String) :
    collapse anchored parts = parts.foldl (collapseStep anchored) [] := rfl

theorem mem_collapseStep {anchored : Bool} {done : List String} {part name : String}
    (hname : name ∈ collapseStep anchored done part) : name ∈ done ∨ name = part := by
  unfold collapseStep at hname
  split at hname
  · exact .inl hname
  split at hname
  · simpa using hname
  · exact .inl (List.dropLast_subset _ hname)

theorem mem_of_mem_foldl_collapseStep {anchored : Bool} {parts done : List String} {name : String}
    (hname : name ∈ parts.foldl (collapseStep anchored) done) : name ∈ done ∨ name ∈ parts := by
  induction parts generalizing done with
  | nil => exact .inl hname
  | cons part parts ih =>
    rcases ih hname with hmem | hmem
    · rcases mem_collapseStep hmem with hmem | rfl
      · exact .inl hmem
      · exact .inr List.mem_cons_self
    · exact .inr (List.mem_cons_of_mem _ hmem)

theorem mem_of_mem_collapse {anchored : Bool} {parts : List String} {name : String}
    (hname : name ∈ collapse anchored parts) : name ∈ parts := by
  rw [collapse_eq_foldl] at hname
  exact (mem_of_mem_foldl_collapseStep hname).resolve_left List.not_mem_nil

/-- The path of a text, its anchor and the names that are collapsed. -/
theorem settle_eq (h : Host) {text whole : String}
    (hwhole : (if Text.startsWith text "/" then text else joinText h.cwd text) = whole) :
    h.settle text = ⟨Anchor.ofChars whole.toList,
      collapse (Anchor.ofChars whole.toList ≠ .relative) (Text.pieces "/" whole)⟩ := by
  rw [← hwhole, settle]

theorem nulFree_settle {text : String} (hcwd : Text.has '\x00' h.cwd = false)
    (htext : Text.has '\x00' text = false) : (h.settle text).NulFree := by
  obtain ⟨whole, hwhole⟩ : ∃ whole, (if Text.startsWith text "/" then text
    else joinText h.cwd text) = whole := ⟨_, rfl⟩
  have hnul : Text.has '\x00' whole = false := by
    rw [← hwhole]
    split
    · exact htext
    · exact has_joinText hcwd htext
  rw [settle_eq h hwhole, Path.nulFree_iff]
  exact fun part hpart => Text.has_of_mem_pieces hnul (mem_of_mem_collapse hpart)

/-- A path without NUL has a canonical form without NUL, unless links lie too deep or lead in a
    loop. -/
theorem canonical_cases (htargets : h.files.TargetsAvoid '\x00') (hcwd : Text.has '\x00' h.cwd = false)
    {p : Path} (hp : p.NulFree) :
    (∃ q, h.canonical p = .ok q ∧ q.NulFree) ∨
      h.canonical p = .error (Error.tooDeep : Error) ∨
      ∃ text, h.canonical p = .error (Error.linkLoop text : Error) := by
  have hend : EndsPlainly (h.resolveText nestingLimit ⟨false, []⟩ [] p.text) :=
    endsPlainly_resolveText htargets (by simp [Trail.NulFree]) (by simp [LinkMemo.NulFree]) hp
  unfold canonical
  generalize h.resolveText nestingLimit ⟨false, []⟩ [] p.text = outcome at hend ⊢
  rcases outcome with f | ⟨r, memo⟩
  · cases hend
    exact .inr (.inl rfl)
  · have hsettle : (h.settle (Resolution.text r)).NulFree := nulFree_settle hcwd hend.1.has_text
    have hstat : h.stat (h.settle (Resolution.text r)).text ≠ .error .nul := by
      rw [Ne, stat_eq_nul_iff, hsettle]
      simp
    simp only
    generalize h.stat (h.settle (Resolution.text r)).text = seen at hstat ⊢
    split
    · exact absurd rfl hstat
    · exact .inr (.inr ⟨_, rfl⟩)
    · exact .inl ⟨_, rfl, hsettle⟩

end Host

end Launcher
