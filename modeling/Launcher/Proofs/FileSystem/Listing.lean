-- SUMMARY: What a directory lists: the names of its children, each once, and none with a character that the file system avoids.
import Launcher.FileSystem.Lookup
import Launcher.Proofs.Text.Split
import Mathlib.Data.List.Nodup

/-!
# Listings

A listing holds each child of a directory once, under a name without separators. Names of
entries can be required to avoid another character; then the names in every listing avoid it.
-/
namespace Launcher

namespace FileSystem

/-- No name of an entry holds the character. -/
def Avoids (fs : FileSystem) (c : Char) : Prop :=
  ∀ e ∈ fs.entries, ∀ name ∈ e.1, Text.has c name = false

theorem avoids_separator (fs : FileSystem) : fs.Avoids '/' := by
  intro e he name hname
  have hentry := List.all_eq_true.mp (fs.named e he) name hname
  simp only [isEntryName, Bool.and_eq_true, Bool.not_eq_true'] at hentry
  exact hentry.2

theorem mem_children {fs : FileSystem} {at_ : Location} {name : String} :
    name ∈ fs.children at_ ↔ at_ ++ [name] ∈ fs.entries.map Prod.fst := by
  simp only [children, List.mem_filterMap, childName?_eq_some_iff, List.mem_map]

theorem nodup_children (fs : FileSystem) (at_ : Location) : (fs.children at_).Nodup := by
  have hchildren : fs.children at_ = (fs.entries.map Prod.fst).filterMap (childName? at_) := by
    simp [children, List.filterMap_map]
  rw [hchildren]
  refine List.Nodup.filterMap ?_ fs.distinct
  intro p q name hp hq
  rw [Option.mem_def, childName?_eq_some_iff] at hp hq
  rw [hp, hq]

theorem Avoids.not_mem_child {fs : FileSystem} {c : Char} (h : fs.Avoids c) {at_ : Location}
    {name : String} (hname : name ∈ fs.children at_) : Text.has c name = false := by
  rw [mem_children, List.mem_map] at hname
  obtain ⟨e, he, heq⟩ := hname
  exact h e he name (by simp [heq])

end FileSystem

namespace Host

variable {h : Host} {text : String} {listing : List (String × Node)}

theorem locate_eq_nul_iff {follow : Bool} :
    h.locate follow text = .error .nul ↔ Text.has '\x00' text = true := by
  unfold locate
  cases hnul : Text.has '\x00' text
  · by_cases hempty : text = ""
    · simp [hempty]
    · cases h.walk follow (Route.ofText text) <;> simp [hempty]
  · simp

theorem stat_eq_nul_iff : h.stat text = .error .nul ↔ Text.has '\x00' text = true := by
  rw [← @locate_eq_nul_iff h text true]
  unfold stat look
  cases h.locate true text with
  | error e => simp
  | ok at_ => cases hnode : h.files.node? at_ <;> simp [hnode]

/-! ## Listings -/

theorem list_eq_nul_iff : h.list text = .error .nul ↔ Text.has '\x00' text = true := by
  rw [← @locate_eq_nul_iff h text true]
  unfold list
  cases h.locate true text with
  | error e => simp
  | ok at_ =>
    cases hnode : h.files.node? at_ with
    | none => simp [hnode]
    | some dir =>
      cases hd : dir.isDirectory <;> cases hr : dir.readable <;> simp [hnode, hd, hr]

/-- What is listed is a directory, and its children are listed with their entries. -/
theorem list_eq_ok (hlist : h.list text = .ok listing) :
    ∃ at_ dir, h.stat text = .ok dir ∧ dir.isDirectory = true ∧
      listing = (h.files.children at_).filterMap fun name =>
        (h.files.node? (at_ ++ [name])).map fun n => (name, n) := by
  unfold list at hlist
  unfold stat look
  cases hat : h.locate true text with
  | error e => simp [hat] at hlist
  | ok at_ =>
    cases hnode : h.files.node? at_ with
    | none => simp [hat, hnode] at hlist
    | some dir =>
      cases hd : dir.isDirectory <;> cases hr : dir.readable <;> simp [hat, hnode, hd, hr] at hlist
      exact ⟨at_, dir, by simp [hnode], hd, hlist.symm⟩

theorem mem_children_of_list (hlist : h.list text = .ok listing) :
    ∃ at_, (listing.map Prod.fst).Sublist (h.files.children at_) := by
  obtain ⟨at_, _, _, _, rfl⟩ := list_eq_ok hlist
  refine ⟨at_, ?_⟩
  induction h.files.children at_ with
  | nil => simp
  | cons name names ih =>
    cases hn : h.files.node? (at_ ++ [name]) with
    | none => simpa [hn] using ih.cons name
    | some n => simpa [hn] using ih

theorem nodup_list (hlist : h.list text = .ok listing) : (listing.map Prod.fst).Nodup := by
  obtain ⟨at_, hsub⟩ := mem_children_of_list hlist
  exact hsub.nodup (h.files.nodup_children at_)

theorem avoids_list {c : Char} (havoid : h.files.Avoids c) (hlist : h.list text = .ok listing)
    {name : String} (hname : name ∈ listing.map Prod.fst) : Text.has c name = false := by
  obtain ⟨at_, hsub⟩ := mem_children_of_list hlist
  exact havoid.not_mem_child (hsub.subset hname)

end Host

end Launcher
