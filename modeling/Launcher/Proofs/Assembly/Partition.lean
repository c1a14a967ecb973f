-- SUMMARY: Assembly sorts the entries of the library folders into locators and failures, none lost and none twice.
import Launcher.Assembly
import Launcher.Proofs.Archive.Scan
import Launcher.Proofs.Locator.Conversion

/-!
# Assembly as a partition

An entry whose text is free of NUL gives a locator and a segment; any other gives a failure.
So an assembly is read off the entries of the library folders, folder by folder and entry by
entry, and no two of its locators have the same path.
-/
namespace Launcher

/-! ## The entries of the library folders -/

namespace Host

variable {h : Host} {suffixes : List String} {home : Path}

/-- The archives that a scan of a folder finds. -/
def entriesIn (h : Host) (suffixes : List String) (folder : Path) : List Path :=
  match h.scan folder suffixes false with
  | .ok s => s.entries
  | .error _ => []

/-- Can a folder be listed? -/
def canList (h : Host) (folder : Path) : Bool := (h.list folder.text).toOption.isSome

/-- The archives in the library folders of a home, folder by folder. -/
def libraryEntries (h : Host) (suffixes : List String) (home : Path) : List Path :=
  (libraryFolders home).flatMap (h.entriesIn suffixes)

/-- A plain scan of a folder without NUL ends well, and has a diagnostic just if the folder
    cannot be listed. -/
theorem scan_plain (h : Host) (suffixes : List String) {folder : Path}
    (hnul : Text.has '\x00' folder.text = false) :
    ∃ s, h.scan folder suffixes false = .ok s ∧ s.directory = folder ∧
      s.accessible = h.canList folder := by
  obtain ⟨_, hbad | ⟨hbad, -⟩⟩ | ⟨e, hlist, hscan⟩ | ⟨listing, hlist, -, hscan⟩ :=
    h.scan_cases folder suffixes false
  · simp [hnul] at hbad
  · cases hbad
  · exact ⟨_, hscan, rfl, by simp [canList, hlist, Scan.accessible, Scan.diagnostics, Except.toOption]⟩
  · exact ⟨_, hscan, rfl, by simp [canList, hlist, Scan.accessible, Scan.diagnostics, Except.toOption]⟩

theorem nodup_entriesIn (folder : Path) : (h.entriesIn suffixes folder).Nodup := by
  unfold entriesIn
  obtain ⟨hscan, -⟩ | ⟨e, -, hscan⟩ | ⟨listing, hlist, -, hscan⟩ :=
    h.scan_cases folder suffixes false
  · simp [hscan]
  · simp [hscan, Scan.entries]
  · simpa [hscan, Scan.entries] using nodup_found hlist

theorem mem_entriesIn {folder p : Path} (hp : p ∈ h.entriesIn suffixes folder) :
    ∃ name, p = folder.child name ∧ hasSuffix suffixes name = true ∧
      ∃ listing, h.list folder.text = .ok listing ∧ name ∈ listing.map Prod.fst := by
  unfold entriesIn at hp
  obtain ⟨hscan, -⟩ | ⟨e, -, hscan⟩ | ⟨listing, hlist, -, hscan⟩ :=
    h.scan_cases folder suffixes false
  · simp [hscan] at hp
  · simp [hscan, Scan.entries] at hp
  · rw [hscan] at hp
    obtain ⟨name, rfl, hname, hsuffix⟩ := mem_found hp
    exact ⟨name, rfl, hsuffix, listing, hlist, hname⟩

end Host

/-! ## One entry -/

namespace Assembly

/-- Can an archive be given a locator? -/
def convertible (entry : Path) : Bool := !Text.has '\x00' entry.text

/-- The locator of an archive. -/
def locatorOf (cwd : String) (share : Bool) (entry : Path) : Locator :=
  ⟨entry.text, Locator.locationOf cwd (shareSource entry.text share)⟩

/-- The fault reports that an archive could not be added, and why. -/
structure Reports (cwd : String) (entry : Path) (f : Fault) : Prop where
  kind : f.error.kind = .archiveLoad
  message : f.message = "Error adding archive: " ++ (entry.absolute cwd).text
  context : f.error.context = [("path", entry.text)]
  cause : ∃ e, f.causes = [e] ∧ e.kind = .malformedLocator

variable {cwd : String} {share : Bool} {entry : Path}

theorem ofEntry_convertible (hcwd : (Path.ofText cwd).isAbsolute = true) (hne : entry.text ≠ "")
    (hconv : convertible entry = true) :
    ofEntry cwd share entry =
      { locators := [locatorOf cwd share entry], segments := [shareSource entry.text share] } := by
  have hnul : Text.has '\x00' entry.text = false := by simpa [convertible] using hconv
  have hok : Locator.ofSource cwd entry.text (shareSource entry.text share) =
      .ok (locatorOf cwd share entry) := by
    refine Locator.ofSource_eq_ok_iff.mpr ⟨hne, hnul, ?_, ?_, rfl⟩
    · rw [has_shareSource, hnul]
    · exact Path.isAbsolute_absolute.mpr (.inr hcwd)
  simp [ofEntry, hok]

theorem ofEntry_inconvertible (hconv : convertible entry = false) :
    ofEntry cwd share entry =
      { failures := [archiveFailure cwd entry (Error.nulInPath entry.text : Error)] } := by
  have hnul : Text.has '\x00' entry.text = true := by simpa [convertible] using hconv
  simp [ofEntry, Locator.ofSource_of_nul hnul]

/-- The failure of an archive that cannot be given a locator. -/
def failureOf (cwd : String) (entry : Path) : Fault :=
  archiveFailure cwd entry (Error.nulInPath entry.text : Error)

theorem reports_failureOf (cwd : String) (entry : Path) : Reports cwd entry (failureOf cwd entry) :=
  ⟨rfl, rfl, rfl, _, rfl, rfl⟩

/-! ## All entries -/

/-- The assembly holds what each of the entries comes to, in their order, and nothing else. -/
structure Sorts (cwd : String) (share : Bool) (entries : List Path) (a : Assembly) : Prop where
  locators : a.locators = (entries.filter convertible).map (locatorOf cwd share)
  segments : a.segments = (entries.filter convertible).map fun e => shareSource e.text share
  failures : a.failures = (entries.filter fun e => !convertible e).map (failureOf cwd)

theorem Sorts.nil (diagnostics : List String) : Sorts cwd share [] { diagnostics } :=
  ⟨rfl, rfl, rfl⟩

theorem Sorts.append {es es' : List Path} {a b : Assembly} (ha : Sorts cwd share es a)
    (hb : Sorts cwd share es' b) : Sorts cwd share (es ++ es') (a ++ b) where
  locators := by simp [ha.locators, hb.locators]
  segments := by simp [ha.segments, hb.segments]
  failures := by simp [ha.failures, hb.failures]

theorem sorts_ofEntry (hcwd : (Path.ofText cwd).isAbsolute = true) (hne : entry.text ≠ "") :
    Sorts cwd share [entry] (ofEntry cwd share entry) := by
  cases hconv : convertible entry with
  | true =>
    rw [ofEntry_convertible hcwd hne hconv]
    constructor <;> simp [hconv]
  | false =>
    rw [ofEntry_inconvertible hconv]
    constructor <;> simp [hconv, failureOf]

theorem sorts_join_ofEntry (hcwd : (Path.ofText cwd).isAbsolute = true) {entries : List Path}
    (hne : ∀ e ∈ entries, e.text ≠ "") :
    Sorts cwd share entries (join (entries.map (ofEntry cwd share))) := by
  induction entries with
  | nil => exact Sorts.nil []
  | cons e es ih =>
    have htail := ih fun e' he' => hne e' (by simp [he'])
    simpa using (sorts_ofEntry hcwd (hne e (by simp))).append htail

theorem sorts_ofScan (hcwd : (Path.ofText cwd).isAbsolute = true) {s : Scan}
    (hne : ∀ e ∈ s.entries, e.text ≠ "") : Sorts cwd share s.entries (ofScan cwd share s) := by
  simpa [ofScan] using (Sorts.nil s.diagnostics).append (sorts_join_ofEntry hcwd hne)

theorem sorts_join_ofScan (hcwd : (Path.ofText cwd).isAbsolute = true) {scans : List Scan}
    (hne : ∀ s ∈ scans, ∀ e ∈ s.entries, e.text ≠ "") :
    Sorts cwd share (scans.flatMap Scan.entries) (join (scans.map (ofScan cwd share))) := by
  induction scans with
  | nil => exact Sorts.nil []
  | cons s ss ih =>
    have htail := ih fun s' hs' => hne s' (by simp [hs'])
    simpa using (sorts_ofScan hcwd (hne s (by simp))).append htail

theorem join_ofEntry_diagnostics (entries : List Path) :
    (join (entries.map (ofEntry cwd share))).diagnostics = [] := by
  induction entries with
  | nil => rfl
  | cons e es ih =>
    have hentry : (ofEntry cwd share e).diagnostics = [] := by
      unfold ofEntry
      simp only
      split <;> rfl
    simp [hentry, ih]

theorem join_ofScan_diagnostics (scans : List Scan) :
    (join (scans.map (ofScan cwd share))).diagnostics = scans.flatMap Scan.diagnostics := by
  induction scans with
  | nil => rfl
  | cons s ss ih => simp [ofScan, join_ofEntry_diagnostics, ih]

end Assembly

/-! ## The folders -/

namespace Host

variable {h : Host} {suffixes : List String} {home : Path}

/-- Scans of folders without NUL end well, and give the entries and the diagnostics of the
    folders. -/
theorem scanAll_eq_ok (h : Host) (suffixes : List String) {folders : List Path}
    (hnul : ∀ d ∈ folders, Text.has '\x00' d.text = false) :
    ∃ scans, h.scanAll suffixes folders = .ok scans ∧
      scans.map Scan.entries = folders.map (h.entriesIn suffixes) ∧
      scans.flatMap Scan.diagnostics =
        (folders.filter fun d => !h.canList d).map fun d => Notice.couldNotAccess d.text := by
  induction folders with
  | nil => exact ⟨[], rfl, rfl, rfl⟩
  | cons d ds ih =>
    obtain ⟨s, hscan, hdir, hacc⟩ := h.scan_plain suffixes (hnul d (by simp))
    obtain ⟨ss, hrest, hentries, hdiagnostics⟩ := ih fun d' hd' => hnul d' (by simp [hd'])
    refine ⟨s :: ss, by simp [scanAll, hscan, hrest], ?_, ?_⟩
    · simp [entriesIn, hscan, hentries]
    · subst hdir
      obtain ⟨directory, outcome⟩ := s
      cases outcome with
      | ok entries =>
        have hlist : h.canList directory = true := hacc.symm
        simp [hlist, Scan.diagnostics, hdiagnostics]
      | error e =>
        have hlist : h.canList directory = false := hacc.symm
        simp [hlist, Scan.diagnostics, hdiagnostics]

theorem has_text_libraryFolders (hhome : Text.has '\x00' home.text = false) {d : Path}
    (hd : d ∈ libraryFolders home) : Text.has '\x00' d.text = false := by
  simp only [libraryFolders, Path.descend_cons, Path.descend_nil, List.mem_cons, List.not_mem_nil,
    or_false] at hd
  rcases hd with rfl | rfl | rfl <;>
    simp only [Path.has_text_child (c := '\x00') (by decide) (by decide), hhome] <;> decide

/-- The library folders, in the order in which they are loaded, as they are spelled. -/
theorem text_libraryFolders {home : Path} (hparts : home.parts ≠ []) :
    (libraryFolders home).map Path.text =
      [home.text ++ "/lib", home.text ++ "/lib/ext", home.text ++ "/lib/junit"] := by
  simp [libraryFolders, Path.descend_text, Path.lead_of_parts_ne hparts, String.ofList_append,
    List.intercalate_cons_cons]

example : (libraryFolders (.ofText "/opt/app/")).map Path.text =
    ["/opt/app/lib", "/opt/app/lib/ext", "/opt/app/lib/junit"] := by decide

/-- The entries of a library folder are spelled with the lead of the home, the folder and a name
    with one of the suffixes. -/
theorem text_mem_entriesIn {names : List String} {p : Path}
    (hp : p ∈ h.entriesIn suffixes (home.descend names)) :
    ∃ name listing, h.list (home.descend names).text = .ok listing ∧ name ∈ listing.map Prod.fst ∧
      hasSuffix suffixes name = true ∧
      p.text.toList =
        home.lead ++ ((names.flatMap fun n => n.toList ++ ['/']) ++ name.toList) := by
  obtain ⟨name, rfl, hsuffix, listing, hlist, hname⟩ := mem_entriesIn hp
  refine ⟨name, listing, hlist, hname, hsuffix, ?_⟩
  have hlead : (home.descend names).lead =
      home.lead ++ names.flatMap fun n => n.toList ++ ['/'] := by
    simp [Path.lead, Path.descend]
  rw [Path.child_text, hlead]
  simp

theorem text_ne_empty_of_mem_libraryEntries {d p : Path} (hd : d ∈ libraryFolders home)
    (hp : p ∈ h.entriesIn suffixes d) : p.text ≠ "" := by
  simp only [libraryFolders, List.mem_cons, List.not_mem_nil, or_false] at hd
  rintro hempty
  rcases hd with rfl | rfl | rfl <;>
  · obtain ⟨name, _, _, _, _, htext⟩ := text_mem_entriesIn hp
    simp [hempty] at htext

/-- Names hold no separator, so entries of different library folders are spelled differently. -/
theorem nodup_libraryEntries : ((h.libraryEntries suffixes home).map Path.text).Nodup := by
  unfold libraryEntries
  rw [List.map_flatMap, List.nodup_flatMap]
  constructor
  · intro d _
    refine (nodup_entriesIn d).map_on ?_
    intro p hp q hq hpq
    obtain ⟨a, rfl, -⟩ := mem_entriesIn hp
    obtain ⟨b, rfl, -⟩ := mem_entriesIn hq
    rw [Path.child_text_inj.mp hpq]
  · have hapart {names names' : List String} (hdiff : ∀ a b : List Char, '/' ∉ a → '/' ∉ b →
        (names.flatMap fun n => n.toList ++ ['/']) ++ a ≠
          (names'.flatMap fun n => n.toList ++ ['/']) ++ b) :
        ((h.entriesIn suffixes (home.descend names)).map Path.text).Disjoint
          ((h.entriesIn suffixes (home.descend names')).map Path.text) := by
      intro text hmem hmem'
      obtain ⟨p, hp, rfl⟩ := List.mem_map.mp hmem
      obtain ⟨q, hq, hpq⟩ := List.mem_map.mp hmem'
      obtain ⟨a, _, hlist, ha, -, hptext⟩ := text_mem_entriesIn hp
      obtain ⟨b, _, hlist', hb, -, hqtext⟩ := text_mem_entriesIn hq
      rw [hpq, hptext, List.append_cancel_left_eq] at hqtext
      exact hdiff a.toList b.toList
        (Text.has_eq_false_iff.mp (avoids_list h.files.avoids_separator hlist ha))
        (Text.has_eq_false_iff.mp (avoids_list h.files.avoids_separator hlist' hb)) hqtext
    simp only [libraryFolders, List.pairwise_cons, List.mem_cons, List.not_mem_nil, or_false,
      forall_eq_or_imp, forall_eq, List.Pairwise.nil, and_true]
    refine ⟨⟨hapart ?_, hapart ?_⟩, hapart ?_, by simp⟩
    -- below `lib` itself, a name would have to hold the separator after `ext` or `junit`
    · rintro a b ha - heq
      simp at heq
      exact ha (by simp [heq])
    · rintro a b ha - heq
      simp at heq
      exact ha (by simp [heq])
    · rintro a b - - heq
      simp at heq

end Host

/-! ## The partition -/

open Assembly

/-- Assembling the archives of a home without NUL ends well, and is read off the entries and the
    listings of the library folders. -/
theorem assemble_sorts {h : Host} {home : Path} (platform : Platform) (suffixes : List String)
    (hcwd : (Path.ofText h.cwd).isAbsolute = true) (hhome : Text.has '\x00' home.text = false) :
    ∃ a, (h.assemble (some home) platform suffixes).result = .ok a ∧
      Sorts h.cwd platform.usesShares (h.libraryEntries suffixes home) a ∧
      a.diagnostics = ((libraryFolders home).filter fun d => !h.canList d).map
        fun d => Notice.couldNotAccess d.text := by
  obtain ⟨scans, hscans, hentries, hdiagnostics⟩ :=
    h.scanAll_eq_ok suffixes fun d hd => Host.has_text_libraryFolders hhome hd
  have hflat : scans.flatMap Scan.entries = h.libraryEntries suffixes home := by
    rw [List.flatMap_def, hentries, Host.libraryEntries, List.flatMap_def]
  have hne : ∀ s ∈ scans, ∀ e ∈ s.entries, e.text ≠ "" := by
    intro s hs e he
    have hmem : s.entries ∈ (libraryFolders home).map (h.entriesIn suffixes) :=
      hentries ▸ List.mem_map_of_mem hs
    obtain ⟨d, hd, heq⟩ := List.mem_map.mp hmem
    exact Host.text_ne_empty_of_mem_libraryEntries hd (heq ▸ he)
  refine ⟨join (scans.map (ofScan h.cwd platform.usesShares)), by simp [Host.assemble, hscans], ?_, ?_⟩
  · rw [← hflat]
    exact sorts_join_ofScan hcwd hne
  · rw [join_ofScan_diagnostics, hdiagnostics]

theorem filter_libraryEntries {h h' : Host} {suffixes : List String} {home : Path}
    {keep : Path → Bool}
    (hsame : ∀ d ∈ libraryFolders home,
      (h'.entriesIn suffixes d).filter keep = (h.entriesIn suffixes d).filter keep) :
    (h'.libraryEntries suffixes home).filter keep =
      (h.libraryEntries suffixes home).filter keep := by
  rw [Host.libraryEntries, Host.libraryEntries, List.filter_flatMap, List.filter_flatMap]
  exact List.flatMap_congr hsame

/-- Assembly never fails. What it makes of the entries of the library folders is decided entry
    by entry: those without NUL become locators and segments, the others failures, and each
    folder that cannot be listed a diagnostic. No two locators have the same path. In another
    file system, archives that cannot be converted and folders that cannot be listed make no
    difference to what the other archives and folders contribute. -/
theorem assemble_partition (h : Host) (home : Path) (platform : Platform) (suffixes : List String)
    (hcwd : (Path.ofText h.cwd).isAbsolute = true) (hhome : Text.has '\x00' home.text = false) :
    (∀ d ∈ libraryFolders home, ∃ s, h.scan d suffixes false = .ok s) ∧
    ∃ a, (h.assemble (some home) platform suffixes).result = .ok a ∧
      a.locators.map Locator.path =
        ((h.libraryEntries suffixes home).map Path.text).filter (fun t => !Text.has '\x00' t) ∧
      a.segments = a.locators.map (fun l => shareSource l.path platform.usesShares) ∧
      List.Forall₂ (Reports h.cwd)
        ((h.libraryEntries suffixes home).filter fun e => Text.has '\x00' e.text) a.failures ∧
      a.diagnostics = ((libraryFolders home).filter fun d => !h.canList d).map
        (fun d => "Could not access " ++ d.text) ∧
      (a.locators.map Locator.path).Nodup ∧
      ∀ h' : Host, h'.cwd = h.cwd →
        ∃ a', (h'.assemble (some home) platform suffixes).result = .ok a' ∧
          ((∀ d ∈ libraryFolders home, (h'.entriesIn suffixes d).filter convertible =
              (h.entriesIn suffixes d).filter convertible) →
            a'.locators = a.locators ∧ a'.segments = a.segments) ∧
          ((∀ d ∈ libraryFolders home, (h'.entriesIn suffixes d).filter (!convertible ·) =
              (h.entriesIn suffixes d).filter (!convertible ·)) →
            a'.failures = a.failures) ∧
          ((∀ d ∈ libraryFolders home, h'.canList d = h.canList d) →
            a'.diagnostics = a.diagnostics) := by
  refine ⟨fun d hd => ?_, ?_⟩
  · obtain ⟨s, hscan, -⟩ := h.scan_plain suffixes (Host.has_text_libraryFolders hhome hd)
    exact ⟨s, hscan⟩
  obtain ⟨a, hok, hsorts, hdiagnostics⟩ := assemble_sorts platform suffixes hcwd hhome
  have hpaths : a.locators.map Locator.path =
      ((h.libraryEntries suffixes home).map Path.text).filter (fun t => !Text.has '\x00' t) := by
    rw [hsorts.locators, List.map_map, List.filter_map]
    rfl
  refine ⟨a, hok, hpaths, ?_, ?_, hdiagnostics, ?_, ?_⟩
  · rw [hsorts.segments, hsorts.locators, List.map_map]
    rfl
  · have hrest : (h.libraryEntries suffixes home).filter (fun e => Text.has '\x00' e.text) =
        (h.libraryEntries suffixes home).filter (fun e => !convertible e) := by simp [convertible]
    rw [hrest, hsorts.failures, List.forall₂_map_right_iff, List.forall₂_same]
    exact fun e _ => reports_failureOf h.cwd e
  · rw [hpaths]
    exact Host.nodup_libraryEntries.filter _
  · intro h' hcwd'
    obtain ⟨a', hok', hsorts', hdiagnostics'⟩ :=
      assemble_sorts (h := h') platform suffixes (hcwd' ▸ hcwd) hhome
    refine ⟨a', hok', fun hsame => ⟨?_, ?_⟩, fun hsame => ?_, fun hsame => ?_⟩
    · rw [hsorts'.locators, hsorts.locators, filter_libraryEntries hsame, hcwd']
    · rw [hsorts'.segments, hsorts.segments, filter_libraryEntries hsame]
    · rw [hsorts'.failures, hsorts.failures, filter_libraryEntries hsame, hcwd']
    · rw [hdiagnostics', hdiagnostics]
      congr 1
      exact List.filter_congr fun d hd => by rw [hsame d hd]

/-- A home with an archive, an archive with a NUL in its name, and a folder that cannot be
    listed, on a network share. -/
def shareHost : Host where
  cwd := "/work"
  files :=
    { entries :=
        [(["srv"], .plainDirectory), (["srv", "home"], .plainDirectory),
          (["srv", "home", "lib"], .plainDirectory),
          (["srv", "home", "lib", "a.zip"], { kind := .file .malformed }),
          (["srv", "home", "lib", "b\x00.zip"], { kind := .file .malformed }),
          (["srv", "home", "lib", "ext"], { kind := .directory true, readable := false })]
      distinct := by decide
      named := by decide }

/-- The library folder of the home, reached as a share. -/
def shareLibrary : Path := ⟨.twin, ["srv", "home", "lib"]⟩

/-- What is assembled when the home is reached as a share: the archive gives a locator and a segment,
    the one with the NUL a failure with its cause, and the folders that cannot be listed or are not
    there two diagnostics. -/
def shareAssembly : Assembly where
  locators := [⟨"//srv/home/lib/a.zip", "file:///srv/home/lib/a.zip"⟩]
  segments := ["////srv/home/lib/a.zip"]
  failures :=
    [{ error := .archiveFailed "Error adding archive: //srv/home/lib/b\x00.zip"
        (some "//srv/home/lib/b\x00.zip")
       causes := [.nulInPath "//srv/home/lib/b\x00.zip"] }]
  diagnostics := ["Could not access //srv/home/lib/ext", "Could not access //srv/home/lib/junit"]

theorem assemble_shareHost :
    (shareHost.assemble (some (.ofText "//srv/home")) .windows archiveSuffixes).result =
      .ok shareAssembly := by
  have hfolders : libraryFolders (.ofText "//srv/home") =
      [shareLibrary, shareLibrary.child "ext", shareLibrary.child "junit"] := by rfl
  have hlist : shareHost.list shareLibrary.text =
      .ok [("a.zip", { kind := .file .malformed }), ("b\x00.zip", { kind := .file .malformed }),
        ("ext", { kind := .directory true, readable := false })] := by rfl
  have hsorted : sortPaths [shareLibrary.child "a.zip", shareLibrary.child "b\x00.zip"] =
      [shareLibrary.child "a.zip", shareLibrary.child "b\x00.zip"] :=
    List.mergeSort_of_pairwise (by decide)
  have hscan : shareHost.scan shareLibrary archiveSuffixes false =
      .ok ⟨shareLibrary, .ok [shareLibrary.child "a.zip", shareLibrary.child "b\x00.zip"]⟩ := by
    rw [Host.scan, hlist, ← hsorted]
    rfl
  have hscans : shareHost.scanAll archiveSuffixes
        [shareLibrary, shareLibrary.child "ext", shareLibrary.child "junit"] =
      .ok [⟨shareLibrary, .ok [shareLibrary.child "a.zip", shareLibrary.child "b\x00.zip"]⟩,
        ⟨shareLibrary.child "ext", .error .denied⟩, ⟨shareLibrary.child "junit", .error .notFound⟩] := by
    rw [Host.scanAll, hscan]
    rfl
  simp only [Host.assemble, hfolders, hscans]
  rfl

theorem assemble_partition_share :
    ((Path.ofText shareHost.cwd).isAbsolute = true ∧
      Text.has '\x00' (Path.ofText "//srv/home").text = false) ∧
    ∃ a, (shareHost.assemble (some (.ofText "//srv/home")) .windows archiveSuffixes).result = .ok a ∧
      a.locators = [⟨"//srv/home/lib/a.zip", "file:///srv/home/lib/a.zip"⟩] ∧
      a.segments = ["////srv/home/lib/a.zip"] ∧
      a.failures.map Fault.message = ["Error adding archive: //srv/home/lib/b\x00.zip"] ∧
      a.diagnostics = ["Could not access //srv/home/lib/ext", "Could not access //srv/home/lib/junit"] ∧
      a.segments = a.locators.map (fun l => shareSource l.path true) ∧
      (a.locators.map Locator.path).Nodup := by
  have hcwd : (Path.ofText shareHost.cwd).isAbsolute = true := by decide
  have hhome : Text.has '\x00' (Path.ofText "//srv/home").text = false := by decide
  obtain ⟨-, a, hok, -, hsegments, -, -, hnodup, -⟩ :=
    assemble_partition shareHost (.ofText "//srv/home") .windows archiveSuffixes hcwd hhome
  cases assemble_shareHost.symm.trans hok
  exact ⟨⟨hcwd, hhome⟩, _, hok, rfl, rfl, rfl, rfl, hsegments, hnodup⟩

end Launcher
