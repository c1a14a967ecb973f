-- SUMMARY: File systems that hold the same entries and list them in different orders: every lookup and every canonical path is the same.
import Launcher.FileSystem.Canonical
import Mathlib.Data.List.Nodup

/-!
# Listing order

Two file systems relist each other if they hold the same entries, whatever the order in which
directories list their children. Locations are distinct, so the entry at a location is found
whatever comes before it, and every walk, test and canonical path is the same in both. A listing
alone shows the order: the children of a directory are permuted.
-/
namespace Launcher

namespace FileSystem

/-- The same entries, in any order. -/
def Relists (fs fs' : FileSystem) : Prop := ∀ e, e ∈ fs.entries ↔ e ∈ fs'.entries

theorem lookup_eq_some_iff_mem {fs : FileSystem} {at_ : Location} {n : Node} :
    fs.entries.lookup at_ = some n ↔ (at_, n) ∈ fs.entries := by
  rw [List.lookup_eq_some_iff]
  constructor
  · rintro ⟨before, after, heq, -⟩
    rw [heq]
    exact List.mem_append_right _ List.mem_cons_self
  · intro hmem
    obtain ⟨before, after, heq⟩ := List.append_of_mem hmem
    refine ⟨before, after, heq, ?_⟩
    -- whatever stands before the entry stands at another location
    intro e he
    have hdistinct := fs.distinct
    rw [heq, List.map_append, List.map_cons, List.nodup_append] at hdistinct
    have hne := hdistinct.2.2 e.1 (List.mem_map_of_mem he) at_ List.mem_cons_self
    simpa using fun heq => hne heq.symm

theorem nodup_entries (fs : FileSystem) : fs.entries.Nodup :=
  List.Nodup.of_map Prod.fst fs.distinct

namespace Relists

variable {fs fs' : FileSystem}

theorem unlocked (h : fs.Relists fs') : fs.unlocked.Relists fs'.unlocked := by
  have hentries : ∀ e, e ∈ fs.entries ↔ e ∈ fs'.entries := h
  intro e
  simp only [FileSystem.unlocked, List.mem_map, hentries]

theorem perm (h : fs.Relists fs') : fs.entries.Perm fs'.entries :=
  (List.perm_ext_iff_of_nodup fs.nodup_entries fs'.nodup_entries).mpr h

theorem node?_eq (h : fs.Relists fs') (at_ : Location) : fs'.node? at_ = fs.node? at_ := by
  have hlookup : fs'.entries.lookup at_ = fs.entries.lookup at_ := by
    apply Option.ext
    intro n
    rw [lookup_eq_some_iff_mem, lookup_eq_some_iff_mem]
    exact (h (at_, n)).symm
  unfold node?
  rw [hlookup]

theorem children_perm (h : fs.Relists fs') (at_ : Location) :
    (fs.children at_).Perm (fs'.children at_) :=
  h.perm.filterMap _

/-! ### Walks -/

theorem walkWith_eq (h : fs.Relists fs')
    (onLink : Location → String → List String → Except Errno Location) (follow : Bool)
    (here : Location) (names : List String) :
    fs'.walkWith onLink follow here names = fs.walkWith onLink follow here names := by
  induction names generalizing here with
  | nil => rfl
  | cons name rest ih => simp only [walkWith, h.node?_eq, ih]

theorem walk_eq (h : fs.Relists fs') (follow : Bool) (budget : Nat) (here : Location)
    (names : List String) :
    fs'.walk follow budget here names = fs.walk follow budget here names := by
  -- a walk with one link more hands the target of a link to a walk with one link less
  induction budget generalizing here names with
  | zero => exact h.walkWith_eq _ follow here names
  | succ budget ih =>
    simp only [walk, ih]
    exact h.walkWith_eq _ follow here names

end Relists

end FileSystem

/-- The same files, listed in any order, seen from the same working directory. -/
structure Host.Relists (h h' : Host) : Prop where
  files : h.files.Relists h'.files
  cwd : h'.cwd = h.cwd

namespace Host.Relists

variable {h h' : Host}

/-! ## Lookups -/

theorem start_eq (hr : h.Relists h') (absolute : Bool) : h'.start absolute = h.start absolute := by
  simp only [start, hr.cwd, hr.files.unlocked.walk_eq]

theorem walk_eq (hr : h.Relists h') (follow : Bool) (route : Route) :
    h'.walk follow route = h.walk follow route := by
  simp only [walk, hr.start_eq, hr.files.walk_eq]

theorem locate_eq (hr : h.Relists h') (follow : Bool) (text : String) :
    h'.locate follow text = h.locate follow text := by
  simp only [locate, hr.walk_eq]

theorem stat_eq (hr : h.Relists h') (text : String) : h'.stat text = h.stat text := by
  simp only [stat, look, hr.locate_eq, hr.files.node?_eq]

theorem isDirectory_eq (hr : h.Relists h') (p : Path) : h'.isDirectory p = h.isDirectory p := by
  simp only [isDirectory, test, hr.stat_eq]

theorem mayRead_eq (hr : h.Relists h') (text : String) : h'.mayRead text = h.mayRead text := by
  simp only [mayRead, hr.stat_eq]

/-- A directory is refused for the same reason, or lists the same children. -/
theorem list_cases (hr : h.Relists h') (text : String) :
    (∃ r, h.list text = .error r ∧ h'.list text = .error r) ∨
    (∃ listing listing', h.list text = .ok listing ∧ h'.list text = .ok listing' ∧
      listing.Perm listing') := by
  unfold list
  rw [hr.locate_eq]
  cases h.locate true text with
  | error r => exact .inl ⟨r, rfl, rfl⟩
  | ok at_ =>
    simp only [hr.files.node?_eq]
    cases h.files.node? at_ with
    | none => exact .inl ⟨_, rfl, rfl⟩
    | some dir =>
      dsimp only
      cases dir.isDirectory with
      | false => exact .inl ⟨_, rfl, rfl⟩
      | true =>
        cases dir.readable with
        | false => exact .inl ⟨_, rfl, rfl⟩
        | true => exact .inr ⟨_, _, rfl, rfl, (hr.files.children_perm at_).filterMap _⟩

/-! ## Canonical paths -/

theorem link?_eq (hr : h.Relists h') (t : Trail) : h'.link? t = h.link? t := by
  simp only [link?, hr.walk_eq, hr.files.node?_eq]

theorem resolveWith_eq (hr : h.Relists h')
    (inner : Trail → LinkMemo → String → Except Fault (Resolution × LinkMemo)) (t : Trail)
    (names : List String) (memo : LinkMemo) :
    h'.resolveWith inner t names memo = h.resolveWith inner t names memo := by
  induction names generalizing t memo with
  | nil => rfl
  | cons name rest ih => simp only [resolveWith, hr.link?_eq, ih]

theorem resolveText_eq (hr : h.Relists h') (depth : Nat) :
    h'.resolveText depth = h.resolveText depth := by
  -- an equation of functions, since `resolveWith` is handed the resolution one level deeper
  induction depth with
  | zero => rfl
  | succ depth ih =>
    funext t memo text
    simp only [resolveText, ih, hr.resolveWith_eq]

theorem canonical_eq (hr : h.Relists h') (p : Path) : h'.canonical p = h.canonical p := by
  simp only [canonical, settle, hr.cwd, hr.resolveText_eq, hr.stat_eq]

end Host.Relists

end Launcher
