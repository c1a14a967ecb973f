-- SUMMARY: The order in which a directory lists its children makes no difference to what a scan finds, or to the order it finds it in.
import Launcher.Proofs.Archive.Scan
import Launcher.Proofs.FileSystem.Relisting

/-!
# The order of archives

The archives in a directory come in the order of their texts. The texts of two children differ,
whatever the directory is, so that order is the only one: permuted names give the same archives.
A scan therefore comes to the same in file systems that relist each other, errors included.
-/
namespace Launcher

/-! ## Sorting -/

theorem pairwise_sortPaths (paths : List Path) :
    (sortPaths paths).Pairwise fun p q => p.text ≤ q.text := by
  have htrans (p q r : Path) (hpq : decide (p.text ≤ q.text) = true)
      (hqr : decide (q.text ≤ r.text) = true) : decide (p.text ≤ r.text) = true :=
    decide_eq_true (String.le_trans (of_decide_eq_true hpq) (of_decide_eq_true hqr))
  have htotal (p q : Path) : (decide (p.text ≤ q.text) || decide (q.text ≤ p.text)) = true := by
    simpa using String.le_total p.text q.text
  exact (List.pairwise_mergeSort htrans htotal paths).imp of_decide_eq_true

/-- Children of one directory are sorted by their names. -/
theorem sortPaths_children (directory : Path) (names : List String) :
    sortPaths (names.map directory.child) =
      (names.mergeSort fun a b => decide (a ≤ b)).map directory.child := by
  refine (List.map_mergeSort fun a _ b _ => ?_).symm
  rw [decide_eq_decide, ← String.not_lt, ← String.not_lt, Path.child_text_lt]

/-- Children of one directory are sorted alike whatever the order they come in. -/
theorem sortPaths_children_eq_of_perm {names names' : List String} (directory : Path)
    (hperm : names.Perm names') :
    sortPaths (names.map directory.child) = sortPaths (names'.map directory.child) := by
  have hpaths : (sortPaths (names.map directory.child)).Perm
      (sortPaths (names'.map directory.child)) :=
    (perm_sortPaths _).trans ((hperm.map directory.child).trans (perm_sortPaths _).symm)
  refine List.Perm.eq_of_pairwise ?_ (pairwise_sortPaths _) (pairwise_sortPaths _) hpaths
  -- two paths that come before each other have the same text, hence the same name
  intro p q hp hq hpq hqp
  obtain ⟨a, -, rfl⟩ := List.mem_map.mp ((perm_sortPaths _).mem_iff.mp hp)
  obtain ⟨b, -, rfl⟩ := List.mem_map.mp ((perm_sortPaths _).mem_iff.mp hq)
  rw [Path.child_text_inj.mp (String.le_antisymm hpq hqp)]

namespace Host

/-! ## Selecting from permuted listings -/

/-- From permuted listings, selecting ends in the same error or keeps permuted names. -/
theorem selectNames_perm (h : Host) (directory : Path) (suffixes : List String)
    (usableOnly : Bool) {listing listing' : List (String × Node)}
    (hperm : listing.Perm listing') :
    (∃ f, h.selectNames directory suffixes usableOnly listing = .error f ∧
      h.selectNames directory suffixes usableOnly listing' = .error f) ∨
    (∃ names names', h.selectNames directory suffixes usableOnly listing = .ok names ∧
      h.selectNames directory suffixes usableOnly listing' = .ok names' ∧ names.Perm names') := by
  have hspeak : (∃ e ∈ listing, h.Unspeakable directory suffixes e) ↔
      ∃ e ∈ listing', h.Unspeakable directory suffixes e := by
    simp only [hperm.mem_iff]
  obtain ⟨husable, hu, hrun⟩ | ⟨hu, hrun⟩ :=
    h.selectNames_cases directory suffixes usableOnly listing
  · obtain ⟨-, -, hrun'⟩ | ⟨hu', -⟩ := h.selectNames_cases directory suffixes usableOnly listing'
    · exact .inl ⟨_, hrun, hrun'⟩
    · exact absurd ⟨husable, hspeak.mp hu⟩ hu'
  · obtain ⟨husable, hu', -⟩ | ⟨-, hrun'⟩ :=
      h.selectNames_cases directory suffixes usableOnly listing'
    · exact absurd ⟨husable, hspeak.mpr hu'⟩ hu
    · exact .inr ⟨_, _, hrun, hrun', (hperm.filter _).map Prod.fst⟩

/-! ## Scans of relisted files -/

namespace Relists

variable {h h' : Host}

theorem entryIsFile_eq (hr : h.Relists h') (text : String) (n : Node) :
    h'.entryIsFile text n = h.entryIsFile text n := by
  simp only [entryIsFile, hr.walk_eq, hr.files.node?_eq]

theorem admits_eq (hr : h.Relists h') (directory : Path) (suffixes : List String)
    (usableOnly : Bool) (name : String) (n : Node) :
    h'.admits directory suffixes usableOnly name n =
      h.admits directory suffixes usableOnly name n := by
  simp only [admits, usable, hr.entryIsFile_eq, hr.mayRead_eq]

theorem selectNames_eq (hr : h.Relists h') (directory : Path) (suffixes : List String)
    (usableOnly : Bool) (listing : List (String × Node)) :
    h'.selectNames directory suffixes usableOnly listing =
      h.selectNames directory suffixes usableOnly listing := by
  induction listing with
  | nil => rfl
  | cons e rest ih => simp only [selectNames, hr.admits_eq, ih]

theorem scan_eq (hr : h.Relists h') (directory : Path) (suffixes : List String)
    (usableOnly : Bool) :
    h'.scan directory suffixes usableOnly = h.scan directory suffixes usableOnly := by
  unfold scan
  simp only [hr.selectNames_eq]
  obtain ⟨r, hlist, hlist'⟩ | ⟨listing, listing', hlist, hlist', hperm⟩ :=
    hr.list_cases directory.text
  · rw [hlist, hlist']
  · rw [hlist, hlist']
    simp only
    obtain ⟨f, hnames, hnames'⟩ | ⟨names, names', hnames, hnames', hpermuted⟩ :=
      h.selectNames_perm directory suffixes usableOnly hperm
    · rw [hnames, hnames']
    · rw [hnames, hnames']
      simp only [sortPaths_children_eq_of_perm directory hpermuted]

end Relists

end Host

end Launcher
