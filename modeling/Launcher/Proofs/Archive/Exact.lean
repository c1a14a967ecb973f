-- SUMMARY: A scan finds exactly the archives in a directory, in ascending order, unless it meets a text that the system does not take.
import Launcher.Proofs.Archive.Order
import Launcher.Proofs.FileSystem.Entries
import Mathlib.Data.List.Sort

/-!
# Exact scans

A scan of a directory that can be listed finds the children whose names have one of the suffixes.
With `usableOnly` it finds those of them that lead, links followed, to a regular file that may be
read; a child that cannot be looked up is skipped. Each is found once, in ascending order. A
directory that cannot be listed gives one diagnostic. None of this is an error: only a text with a
NUL, which the system does not take at all, ends a scan.
-/
namespace Launcher

open FileSystem

theorem hasSuffix_iff {suffixes : List String} {name : String} :
    hasSuffix suffixes name = true ↔ ∃ suffix ∈ suffixes, suffix.toList <:+ name.toList := by
  simp [hasSuffix, Text.endsWith]

namespace Host

variable {h : Host} {text name : String} {at_ : Location} {n m : Node} {directory : Path}
  {suffixes : List String} {usableOnly : Bool}

/-! ## What a scan is asked for -/

/-- The text leads, links followed, to a regular file that may be read. -/
def ReadableFile (h : Host) (text : String) : Prop :=
  ∃ n, h.stat text = .ok n ∧ n.isFile = true ∧ n.readable = true

/-- The directory at the location has a child of this name, and a scan is asked for it. -/
structure Wanted (h : Host) (directory : Path) (at_ : Location) (suffixes : List String)
    (usableOnly : Bool) (name : String) : Prop where
  child : ∃ n, h.files.node? (at_ ++ [name]) = some n
  suffix : ∃ suffix ∈ suffixes, suffix.toList <:+ name.toList
  usable : usableOnly = true → h.ReadableFile (directory.child name).text

/-- A scan has found all that it was asked for and nothing else, each child once, in ascending
    order of the paths and of the names. -/
structure Finds (h : Host) (directory : Path) (at_ : Location) (suffixes : List String)
    (usableOnly : Bool) (s : Scan) : Prop where
  directory_eq : s.directory = directory
  diagnostics : s.diagnostics = []
  ascending : (s.entries.map Path.text).Pairwise (· < ·)
  names : ∃ names : List String, s.entries = names.map directory.child ∧ names.Pairwise (· < ·) ∧
    ∀ name, name ∈ names ↔ h.Wanted directory at_ suffixes usableOnly name

/-- A scan has found nothing, and says in one diagnostic that the directory was out of reach. -/
structure Misses (directory : Path) (s : Scan) : Prop where
  directory_eq : s.directory = directory
  entries : s.entries = []
  diagnostics : s.diagnostics = ["Could not access " ++ directory.text]

/-- A scan hands a NUL to the system: in the text of the directory or, where archives have to be
    usable, in the text of a file in it that has one of the suffixes. -/
def MeetsNul (h : Host) (text : String) (suffixes : List String) (usableOnly : Bool) : Prop :=
  Text.has '\x00' text = true ∨
    usableOnly = true ∧ ∃ at_ name n, h.Lists (Path.ofText text).text at_ ∧
      h.files.node? (at_ ++ [name]) = some n ∧ h.Unspeakable (.ofText text) suffixes (name, n)

/-! ## Testing a child -/

theorem entryIsFile_of_stat (hlocate : h.locate true (Path.ofText text).text = .ok at_)
    (hnode : h.files.node? (at_ ++ [name]) = some n)
    (hstat : h.stat ((Path.ofText text).child name).text = .ok m) :
    h.entryIsFile ((Path.ofText text).entryText name) n = m.isFile := by
  unfold entryIsFile
  cases hlink : n.target? with
  | none => rw [eq_of_stat_child hlocate hnode hlink hstat]
  | some target =>
    rw [← stat_entryText (isEntryName_of_node? hnode)] at hstat
    obtain ⟨found, hwalk, hfound⟩ := walk_of_stat hstat
    simp [hwalk, hfound]

/-- A scan for usable archives selects what has a suffix and leads to a file that may be read. -/
theorem selects_usable_iff (hlocate : h.locate true (Path.ofText text).text = .ok at_)
    (hnode : h.files.node? (at_ ++ [name]) = some n) :
    h.selects (.ofText text) suffixes true (name, n) = true ↔
      hasSuffix suffixes name = true ∧ h.ReadableFile ((Path.ofText text).child name).text := by
  unfold selects admits
  cases hsuffix : hasSuffix suffixes name with
  | false => simp [Except.toOption]
  | true =>
    have hstat : h.stat ((Path.ofText text).entryText name) =
        h.stat ((Path.ofText text).child name).text := stat_entryText (isEntryName_of_node? hnode)
    simp only [usable, mayRead, hstat]
    cases hchild : h.stat ((Path.ofText text).child name).text with
    | ok m =>
      rw [entryIsFile_of_stat hlocate hnode hchild]
      cases hfile : m.isFile <;> simp [ReadableFile, hchild, hfile, Except.toOption]
    | error r =>
      cases hfile : h.entryIsFile ((Path.ofText text).entryText name) n <;> cases r <;>
        simp [ReadableFile, hchild, Except.toOption]

theorem selects_iff (hlocate : h.locate true (Path.ofText text).text = .ok at_)
    (hnode : h.files.node? (at_ ++ [name]) = some n) :
    h.selects (.ofText text) suffixes usableOnly (name, n) = true ↔
      hasSuffix suffixes name = true ∧
        (usableOnly = true → h.ReadableFile ((Path.ofText text).child name).text) := by
  cases usableOnly with
  | true => simpa using selects_usable_iff hlocate hnode
  | false => cases hsuffix : hasSuffix suffixes name <;> simp [selects, admits, hsuffix, Except.toOption]

/-! ## Scanning -/

/-- What is found in the listing of a directory is what the scan was asked for. -/
theorem finds_found {listing : List (String × Node)} (hlists : h.Lists (Path.ofText text).text at_)
    (hlist : h.list (Path.ofText text).text = .ok listing) :
    h.Finds (.ofText text) at_ suffixes usableOnly
      ⟨.ofText text, .ok (h.found (.ofText text) suffixes usableOnly listing)⟩ := by
  let selected := (listing.filter (h.selects (.ofText text) suffixes usableOnly)).map Prod.fst
  let names := selected.mergeSort fun a b => decide (a ≤ b)
  have hperm : names.Perm selected := List.mergeSort_perm _ _
  have hentries : h.found (.ofText text) suffixes usableOnly listing =
      names.map (Path.ofText text).child := sortPaths_children _ _
  have hnodup : names.Nodup :=
    hperm.nodup_iff.mpr ((List.filter_sublist.map Prod.fst).nodup (nodup_list hlist))
  have hsorted : names.Pairwise (· ≤ ·) := List.pairwise_mergeSort' (· ≤ ·) selected
  have hstrict : names.Pairwise (· < ·) :=
    (hsorted.and hnodup).imp fun ⟨hle, hne⟩ => Std.lt_of_le_of_ne hle hne
  refine ⟨rfl, rfl, ?_, names, hentries, hstrict, ?_⟩
  · simp only [Scan.entries, hentries, List.pairwise_map, Path.child_text_lt]
    exact hstrict
  · intro name
    rw [hperm.mem_iff]
    simp only [selected, List.mem_map, List.mem_filter, Prod.exists, exists_and_right,
      exists_eq_right]
    constructor
    · rintro ⟨n, hchild, hselects⟩
      have hnode := (hlists.mem_iff hlist).mp hchild
      obtain ⟨hsuffix, husable⟩ := (selects_iff hlists.1 hnode).mp hselects
      exact ⟨⟨n, hnode⟩, hasSuffix_iff.mp hsuffix, husable⟩
    · rintro ⟨⟨n, hnode⟩, hsuffix, husable⟩
      exact ⟨n, (hlists.mem_iff hlist).mpr hnode,
        (selects_iff hlists.1 hnode).mpr ⟨hasSuffix_iff.mpr hsuffix, husable⟩⟩

theorem meetsNul_iff : h.MeetsNul text suffixes usableOnly ↔
    Text.has '\x00' (Path.ofText text).text = true ∨
      usableOnly = true ∧ ∃ listing, h.list (Path.ofText text).text = .ok listing ∧
        ∃ e ∈ listing, h.Unspeakable (.ofText text) suffixes e := by
  rw [MeetsNul, Path.has_text_ofText_eq text (by decide) (by decide)]
  refine or_congr_right (and_congr_right fun _ => ?_)
  constructor
  · rintro ⟨at_, name, n, hlists, hnode, hu⟩
    obtain ⟨listing, hlist, hmem⟩ := hlists.list
    exact ⟨listing, hlist, (name, n), (hmem name n).mpr hnode, hu⟩
  · rintro ⟨listing, hlist, ⟨name, n⟩, he, hu⟩
    obtain ⟨at_, hlists⟩ := lists_of_list hlist
    exact ⟨at_, name, n, hlists, (hlists.mem_iff hlist).mp he, hu⟩

theorem scan_of_meetsNul (hmeets : h.MeetsNul text suffixes usableOnly) :
    h.scan (.ofText text) suffixes usableOnly = .error (Error.embeddedNul : Error) := by
  obtain ⟨hscan, -⟩ | ⟨e, hlist, -⟩ | ⟨listing, hlist, hspeak, -⟩ :=
    h.scan_cases (.ofText text) suffixes usableOnly
  · exact hscan
  · obtain hnul | ⟨-, _, hlist', -⟩ := meetsNul_iff.mp hmeets
    · rw [list_eq_nul_iff.mpr hnul] at hlist
      cases hlist
    · rw [hlist] at hlist'
      cases hlist'
  · obtain hnul | ⟨husable, _, hlist', hu⟩ := meetsNul_iff.mp hmeets
    · rw [list_eq_nul_iff.mpr hnul] at hlist
      cases hlist
    · rw [hlist] at hlist'
      cases hlist'
      exact absurd ⟨husable, hu⟩ hspeak

/-- A scan that meets no NUL finds what it was asked for, or misses the directory. -/
theorem scan_of_not_meetsNul (hmeets : ¬ h.MeetsNul text suffixes usableOnly) :
    ∃ s, h.scan (.ofText text) suffixes usableOnly = .ok s ∧
      (∀ at_, h.Lists (Path.ofText text).text at_ →
        h.Finds (.ofText text) at_ suffixes usableOnly s) ∧
      ((∀ at_, ¬ h.Lists (Path.ofText text).text at_) → Misses (.ofText text) s) := by
  obtain ⟨-, hbad⟩ | ⟨e, hlist, hscan⟩ | ⟨listing, hlist, -, hscan⟩ :=
    h.scan_cases (.ofText text) suffixes usableOnly
  · exact absurd (meetsNul_iff.mpr hbad) hmeets
  · refine ⟨_, hscan, fun at_ hlists => ?_, fun _ => ⟨rfl, rfl, rfl⟩⟩
    obtain ⟨_, hlist', -⟩ := hlists.list
    rw [hlist] at hlist'
    cases hlist'
  · refine ⟨_, hscan, fun at_ hlists => finds_found hlists hlist, fun hnone => ?_⟩
    obtain ⟨at_, hlists⟩ := lists_of_list hlist
    exact absurd hlists (hnone at_)

/-- Where no name of an entry holds a NUL, only the text of the directory can bring one. -/
theorem not_meetsNul (havoids : h.files.Avoids '\x00') (hnul : Text.has '\x00' text = false) :
    ¬ h.MeetsNul text suffixes usableOnly := by
  rw [meetsNul_iff, Path.has_text_ofText_eq text (by decide) (by decide), hnul]
  rintro (hfalse | ⟨-, listing, hlist, e, he, -, -, hbad⟩)
  · cases hfalse
  · have hname := avoids_list havoids hlist (List.mem_map_of_mem he)
    rw [Path.has_entryText (by decide), Path.has_text_ofText_eq text (by decide) (by decide), hnul,
      hname] at hbad
    cases hbad

/-- What a scan for usable archives finds is found in the same order by a scan for archives. -/
theorem Finds.sublist {plain usable : Scan} (husable : h.Finds directory at_ suffixes true usable)
    (hplain : h.Finds directory at_ suffixes false plain) :
    usable.entries.Sublist plain.entries := by
  obtain ⟨names, hentries, hstrict, hmem⟩ := husable.names
  obtain ⟨names', hentries', hstrict', hmem'⟩ := hplain.names
  rw [hentries, hentries']
  refine List.Sublist.map _ ?_
  have hsubset : names ⊆ names' := by
    intro name hname
    obtain ⟨hchild, hsuffix, -⟩ := (hmem name).mp hname
    exact (hmem' name).mpr ⟨hchild, hsuffix, nofun⟩
  have hsubperm := List.subperm_of_subset hstrict.nodup hsubset
  exact List.sublist_of_subperm_of_pairwise hsubperm (hstrict.imp Std.le_of_lt)
    (hstrict'.imp Std.le_of_lt)

/-! ## What scans come to -/

/-- Where neither the names of entries nor the text of the directory hold a NUL, a scan never ends
    in an error. It finds exactly what it was asked for, the usable archives in the order of all
    archives, or it misses a directory that cannot be listed. -/
theorem scan_exact (havoids : h.files.Avoids '\x00') (hnul : Text.has '\x00' text = false)
    (suffixes : List String) :
    let directory := Path.ofText text
    (∀ at_, h.Lists directory.text at_ →
      ∃ plain usable, h.scan directory suffixes false = .ok plain ∧
        h.scan directory suffixes true = .ok usable ∧
        h.Finds directory at_ suffixes false plain ∧ h.Finds directory at_ suffixes true usable ∧
        usable.entries.Sublist plain.entries) ∧
    ((∀ at_, ¬ h.Lists directory.text at_) → ∀ usableOnly,
      ∃ s, h.scan directory suffixes usableOnly = .ok s ∧ Misses directory s) := by
  intro directory
  have hfree (usableOnly : Bool) : ¬ h.MeetsNul text suffixes usableOnly :=
    not_meetsNul havoids hnul
  constructor
  · intro at_ hlists
    obtain ⟨plain, hplain, hfinds, -⟩ := scan_of_not_meetsNul (hfree false)
    obtain ⟨usable, husable, hfinds', -⟩ := scan_of_not_meetsNul (hfree true)
    exact ⟨plain, usable, hplain, husable, hfinds at_ hlists, hfinds' at_ hlists,
      (hfinds' at_ hlists).sublist (hfinds at_ hlists)⟩
  · intro hnone usableOnly
    obtain ⟨s, hscan, -, hmisses⟩ := scan_of_not_meetsNul (hfree usableOnly)
    exact ⟨s, hscan, hmisses hnone⟩

/-- A directory with an archive among links that lead to it, to nothing and to themselves, an
    archive that must not be read, and what is no regular file. -/
def mixedHost : Host where
  cwd := "/srv"
  files :=
    { entries :=
        [(["srv"], .plainDirectory), (["srv", "b.zip"], { kind := .file .malformed }),
          (["srv", "a.whl"], { kind := .link "./b.zip" }),
          (["srv", "gone.zip"], { kind := .link "nowhere" }),
          (["srv", "loop.zip"], { kind := .link "loop.zip" }),
          (["srv", "shut.zip"], { kind := .file .malformed, readable := false }),
          (["srv", "deep.egg"], .plainDirectory), (["srv", "pipe.pyz"], { kind := .other }),
          (["srv", "notes.txt"], { kind := .file .malformed })]
      distinct := by decide
      named := by decide }

theorem scan_exact_mixed :
    (mixedHost.files.Avoids '\x00' ∧ Text.has '\x00' "" = false ∧
      mixedHost.Lists (Path.ofText "").text ["srv"]) ∧
    ∃ plain usable, mixedHost.scan (.ofText "") archiveSuffixes false = .ok plain ∧
      mixedHost.scan (.ofText "") archiveSuffixes true = .ok usable ∧
      mixedHost.Finds (.ofText "") ["srv"] archiveSuffixes false plain ∧
      mixedHost.Finds (.ofText "") ["srv"] archiveSuffixes true usable ∧
      usable.entries.Sublist plain.entries ∧
      ∃ s, mixedHost.scan (.ofText "notes.txt") archiveSuffixes true = .ok s ∧
        Misses (.ofText "notes.txt") s := by
  have havoids : mixedHost.files.Avoids '\x00' := by
    unfold FileSystem.Avoids
    decide
  have hlists : mixedHost.Lists (Path.ofText "").text ["srv"] :=
    ⟨by decide, .plainDirectory, rfl, rfl, rfl⟩
  have hnone : ∀ at_, ¬ mixedHost.Lists (Path.ofText "notes.txt").text at_ := by
    rintro at_ ⟨hlocate, dir, hnode, hdir, -⟩
    obtain rfl : ["srv", "notes.txt"] = at_ := Except.ok.inj hlocate
    cases hnode
    cases hdir
  obtain ⟨plain, usable, hplain, husable, hfinds, hfinds', hsublist⟩ :=
    (scan_exact havoids rfl archiveSuffixes).1 _ hlists
  exact ⟨⟨havoids, rfl, hlists⟩, plain, usable, hplain, husable, hfinds, hfinds', hsublist,
    (scan_exact havoids (by rfl) archiveSuffixes).2 hnone true⟩

/-- A scan ends in an error exactly when it meets a NUL. Otherwise it finds what it was asked for,
    without the children that cannot be looked up, or it misses a directory that cannot be listed. -/
theorem scan_outcome (h : Host) (text : String) (suffixes : List String) (usableOnly : Bool) :
    let directory := Path.ofText text
    (h.MeetsNul text suffixes usableOnly ∧
      h.scan directory suffixes usableOnly = .error (Error.embeddedNul : Error)) ∨
    (¬ h.MeetsNul text suffixes usableOnly ∧
      ∃ s, h.scan directory suffixes usableOnly = .ok s ∧
        ((∃ at_, h.Lists directory.text at_ ∧ h.Finds directory at_ suffixes usableOnly s) ∨
          ((∀ at_, ¬ h.Lists directory.text at_) ∧ Misses directory s))) := by
  intro directory
  by_cases hmeets : h.MeetsNul text suffixes usableOnly
  · exact .inl ⟨hmeets, scan_of_meetsNul hmeets⟩
  · obtain ⟨s, hscan, hfinds, hmisses⟩ := scan_of_not_meetsNul hmeets
    refine .inr ⟨hmeets, s, hscan, ?_⟩
    by_cases hlists : ∃ at_, h.Lists directory.text at_
    · obtain ⟨at_, hlists⟩ := hlists
      exact .inl ⟨at_, hlists, hfinds at_ hlists⟩
    · have hnone := not_exists.mp hlists
      exact .inr ⟨hnone, hmisses hnone⟩

/-- An archive with a NUL in its name. -/
def nulHost : Host where
  cwd := "/"
  files :=
    { entries := [(["opt"], .plainDirectory), (["opt", "a\x00.zip"], { kind := .file .malformed })]
      distinct := by decide
      named := by decide }

/-- A NUL in the name of a directory ends a scan of it, and one in the name of a file ends a scan for
    usable archives. -/
theorem scan_raises :
    (∀ usableOnly,
      ¬ ∃ s, nulHost.scan (.ofText "/opt/a\x00b") archiveSuffixes usableOnly = .ok s) ∧
    ¬ ∃ s, nulHost.scan (.ofText "/opt") archiveSuffixes true = .ok s := by
  have hdirectory (usableOnly : Bool) :
      nulHost.scan (.ofText "/opt/a\x00b") archiveSuffixes usableOnly =
        .error (Error.embeddedNul : Error) := rfl
  have hchild : nulHost.scan (.ofText "/opt") archiveSuffixes true =
      .error (Error.embeddedNul : Error) := rfl
  constructor
  · rintro usableOnly ⟨s, hs⟩
    rw [hdirectory] at hs
    cases hs
  · rintro ⟨s, hs⟩
    rw [hchild] at hs
    cases hs

end Host

end Launcher
