-- SUMMARY: What an assembled location denotes: the path of its locator, unless the separators of a share were doubled.
import Launcher.Proofs.Assembly.Preparation
import Launcher.Proofs.Locator.Location

/-!
# Shares and their locations

The location of an archive is built from the source of its path. Where the path is not that
of a share, or the platform knows none, the source is the path, and both halves of the locator
denote the same place. The source of a share has its leading separators doubled. Reading a path
takes four separators for one, so the location denotes a path at the root, and not the share. Four
backslashes are read as they are, and make another name.
-/
namespace Launcher

/-! ## Shares -/

/-- The text starts with two of the separators, and not with three. -/
def LeadsShare (separator : Char) (text : String) : Prop :=
  ∃ rest, text.toList = separator :: separator :: rest ∧ rest.head? ≠ some separator

/-- The text starts like the path of a share, in either style. -/
def IsShare (text : String) : Prop := LeadsShare '/' text ∨ LeadsShare '\\' text

theorem doubleShare_of_head?_ne {separator : Char} (hstyle : separator = '/' ∨ separator = '\\')
    {rest : List Char} (hrest : rest.head? ≠ some separator) :
    doubleShare (separator :: separator :: rest) =
      separator :: separator :: separator :: separator :: rest := by
  rcases hstyle with rfl | rfl <;>
  · unfold doubleShare
    split <;> simp_all

/-- Nothing is doubled but the separators of a share. -/
theorem shareSource_of_not_isShare {text : String} (h : ¬ IsShare text) (share : Bool) :
    shareSource text share = text := by
  have hkeep : doubleShare text.toList = text.toList := by
    unfold doubleShare
    split
    case h_1 _ _ htext => exact htext.symm
    case h_2 _ rest hthird htext =>
      refine absurd (.inl ⟨rest, htext, ?_⟩) h
      intro hhead
      obtain ⟨more, rfl⟩ := List.head?_eq_some_iff.mp hhead
      exact hthird more rfl
    case h_3 _ _ htext => exact htext.symm
    case h_4 _ rest hthird htext =>
      refine absurd (.inr ⟨rest, htext, ?_⟩) h
      intro hhead
      obtain ⟨more, rfl⟩ := List.head?_eq_some_iff.mp hhead
      exact hthird more rfl
    case h_5 => rfl
  unfold shareSource
  cases share with
  | false => rfl
  | true => rw [if_pos rfl, hkeep, String.ofList_toList]

theorem toList_shareSource {separator : Char} (hstyle : separator = '/' ∨ separator = '\\')
    {text : String} {rest : List Char} (htext : text.toList = separator :: separator :: rest)
    (hrest : rest.head? ≠ some separator) :
    (shareSource text true).toList = separator :: separator :: text.toList := by
  rw [shareSource, if_pos rfl, String.toList_ofList, htext, doubleShare_of_head?_ne hstyle hrest]

theorem Anchor.ofChars_of_head?_ne {rest : List Char} (hrest : rest.head? ≠ some '/') :
    Anchor.ofChars ('/' :: '/' :: rest) = .twin := by
  have hthird : ∀ more, rest = '/' :: more → False := by
    rintro more rfl
    exact hrest rfl
  rw [Anchor.ofChars]
  exact hthird

namespace Path

/-! ## What doubling does to a path -/

theorem ofChars_separator_parts (text : List Char) :
    (ofChars ('/' :: text)).parts = (ofChars text).parts := by
  simp [ofChars, Text.split_cons_self, isPart]

theorem text_twin (parts : List String) :
    (⟨.twin, parts⟩ : Path).text = "/" ++ (⟨.root, parts⟩ : Path).text := by
  rw [← String.toList_inj]
  simp [text, toChars]

/-- Behind doubled separators, a path starts at the root: one separator is lost. -/
theorem text_of_slashes {text : String} (h : LeadsShare '/' text) (cwd : String) :
    ((ofText text).absolute cwd).text =
      "/" ++ ((ofText (shareSource text true)).absolute cwd).text := by
  obtain ⟨rest, htext, hrest⟩ := h
  have htwin : ofText text = ⟨.twin, (ofChars rest).parts⟩ := by
    rw [ofText, htext, ← ofChars_separator_parts rest, ← ofChars_separator_parts ('/' :: rest),
      ← Anchor.ofChars_of_head?_ne hrest]
    rfl
  have hroot : ofText (shareSource text true) = ⟨.root, (ofChars rest).parts⟩ := by
    rw [ofText, toList_shareSource (.inl rfl) htext hrest, htext, ← ofChars_separator_parts rest,
      ← ofChars_separator_parts ('/' :: rest), ← ofChars_separator_parts ('/' :: '/' :: rest),
      ← ofChars_separator_parts ('/' :: '/' :: '/' :: rest)]
    rfl
  rw [absolute_of_isAbsolute (by rw [htwin]; rfl), absolute_of_isAbsolute (by rw [hroot]; rfl),
    htwin, hroot]
  exact text_twin _

/-- Backslashes in front are part of the first name, which stands behind the working directory. -/
theorem text_of_replicate_backslash (cwd : String) (rest : List Char) :
    ∃ more, ∀ {t : String} (n : Nat), t.toList = List.replicate (n + 1) '\\' ++ rest →
      ((ofText t).absolute cwd).text =
        String.ofList ((ofText cwd).lead ++ List.replicate (n + 1) '\\' ++ more) := by
  have hne : '\\' ≠ '/' := by decide
  obtain ⟨piece, pieces, hsplit, -⟩ := Text.split_cons_of_ne hne rest
  have hpieces (n : Nat) : Text.split ['/'] (List.replicate n '\\' ++ rest) =
      (List.replicate n '\\' ++ piece) :: pieces := by
    induction n with
    | zero => exact hsplit
    | succ n ih =>
      obtain ⟨_, _, hpre, hcons⟩ := Text.split_cons_of_ne hne (List.replicate n '\\' ++ rest)
      rw [ih] at hpre
      cases hpre
      exact hcons
  refine ⟨['/'].intercalate (piece :: pieces.filter isPart), ?_⟩
  intro t n ht
  have hpart : isPart (List.replicate (n + 1) '\\' ++ piece) = true := by
    simp [isPart, List.replicate_succ]
  have hpath : ofText t = ⟨.relative, String.ofList (List.replicate (n + 1) '\\' ++ piece) ::
      (pieces.filter isPart).map String.ofList⟩ := by
    rw [ofText, ht, ofChars, hpieces, List.filter_cons_of_pos hpart]
    rfl
  have habsolute : (ofText t).absolute cwd = (ofText cwd).descend
      (String.ofList (List.replicate (n + 1) '\\' ++ piece) ::
        (pieces.filter isPart).map String.ofList) := by
    rw [hpath]
    rfl
  rw [habsolute, descend_text]
  cases pieces.filter isPart with
  | nil => simp
  | cons name names => simp [List.intercalate_cons_of_ne_nil]

/-- With doubled backslashes, the first name gets longer by two. -/
theorem text_of_backslashes {text : String} (h : LeadsShare '\\' text) (cwd : String) :
    ∃ lead more, ((ofText text).absolute cwd).text = lead ++ "\\\\" ++ more ∧
      ((ofText (shareSource text true)).absolute cwd).text = lead ++ "\\\\\\\\" ++ more := by
  obtain ⟨rest, htext, hrest⟩ := h
  obtain ⟨more, hmore⟩ := text_of_replicate_backslash cwd rest
  have hsource := toList_shareSource (.inr rfl) htext hrest
  rw [htext] at hsource
  refine ⟨String.ofList (ofText cwd).lead, String.ofList more, ?_, ?_⟩
  · rw [hmore 1 htext, String.ofList_append, String.ofList_append]
    rfl
  · rw [hmore 3 hsource, String.ofList_append, String.ofList_append]
    rfl

end Path

/-! ## Assembled locations -/

/-- Each location was built from the source of the path of its locator. -/
def Assembly.Located (cwd : String) (share : Bool) (a : Assembly) : Prop :=
  ∀ l ∈ a.locators, l.uri = Locator.locationOf cwd (shareSource l.path share)

theorem Assembly.located_ofEntry {cwd : String} {share : Bool} (entry : Path) :
    (ofEntry cwd share entry).Located cwd share := by
  intro l hl
  unfold ofEntry at hl
  simp only at hl
  cases hentry : Locator.ofSource cwd entry.text (shareSource entry.text share) with
  | error f => simp [hentry] at hl
  | ok made =>
    obtain ⟨-, -, -, -, rfl⟩ := Locator.ofSource_eq_ok_iff.mp hentry
    rw [hentry, List.mem_singleton] at hl
    rw [hl]

theorem Host.located_assemble {h : Host} {home : Option Path} {platform : Platform}
    {suffixes : List String} {a : Assembly}
    (hok : (h.assemble home platform suffixes).result = .ok a) :
    a.Located h.cwd platform.usesShares := by
  refine assemble_induction hok ?_ ?_ Assembly.located_ofEntry
  · intro _ l hl
    cases hl
  · intro a b ha hb l hl
    rw [Assembly.append_locators, List.mem_append] at hl
    rcases hl with hl | hl
    · exact ha l hl
    · exact hb l hl

/-- The location of an assembled locator denotes the same place as its path, exactly if the platform
    knows no shares or the path is not that of a share. Where it is, written with slashes, the
    location denotes the path with one of the two leading separators lost; written with backslashes,
    it denotes the path with two more of them. -/
theorem assembled_location_denotes_iff {h : Host} {home : Option Path} {platform : Platform}
    {suffixes : List String} {a : Assembly}
    (hok : (h.assemble home platform suffixes).result = .ok a) :
    ∀ l ∈ a.locators, ∃ denoted, Locator.Denotes l.uri denoted ∧
      (denoted = ((Path.ofText l.path).absolute h.cwd).text ↔
        ¬ (platform.usesShares = true ∧ IsShare l.path)) ∧
      (platform.usesShares = true → LeadsShare '/' l.path →
        ((Path.ofText l.path).absolute h.cwd).text = "/" ++ denoted) ∧
      (platform.usesShares = true → LeadsShare '\\' l.path →
        ∃ lead more, ((Path.ofText l.path).absolute h.cwd).text = lead ++ "\\\\" ++ more ∧
          denoted = lead ++ "\\\\\\\\" ++ more) := by
  intro l hl
  have hdenotes : Locator.Denotes l.uri
      ((Path.ofText (shareSource l.path platform.usesShares)).absolute h.cwd).text := by
    rw [Host.located_assemble hok l hl]
    exact Locator.denotes_locationOf _ _
  refine ⟨_, hdenotes, ⟨?_, ?_⟩, ?_, ?_⟩
  · rintro hsame ⟨hshares, hslashes | hbackslashes⟩
    · rw [hshares, Path.text_of_slashes hslashes] at hsame
      have hlength := congrArg String.length hsame
      simp at hlength
    · obtain ⟨lead, more, hpath, hsource⟩ := Path.text_of_backslashes hbackslashes h.cwd
      rw [hshares, hpath, hsource] at hsame
      have hlength := congrArg String.length hsame
      simp only [String.length_append, Nat.add_right_cancel_iff, Nat.add_left_cancel_iff] at hlength
      exact absurd hlength (by decide)
  · intro hplain
    cases hshares : platform.usesShares with
    | false => rfl
    | true =>
      have hnot : ¬ IsShare l.path := fun hshare => hplain ⟨hshares, hshare⟩
      rw [shareSource_of_not_isShare hnot]
  · intro hshares hslashes
    rw [hshares]
    exact Path.text_of_slashes hslashes h.cwd
  · intro hshares hbackslashes
    rw [hshares]
    exact Path.text_of_backslashes hbackslashes h.cwd

/-- A process with an archive in a home. -/
def mountHost : Host where
  cwd := "/work"
  files :=
    { entries :=
        [(["host"], .plainDirectory), (["host", "share"], .plainDirectory),
          (["host", "share", "lib"], .plainDirectory),
          (["host", "share", "lib", "a.zip"], { kind := .file .malformed })]
      distinct := by decide
      named := by decide }

/-- The library folder of the home, reached as a share. -/
def mountLibrary : Path := ⟨.twin, ["host", "share", "lib"]⟩

/-- What is assembled when the home is reached as a share. -/
def mountAssembly : Assembly where
  locators := [⟨"//host/share/lib/a.zip", "file:///host/share/lib/a.zip"⟩]
  segments := ["////host/share/lib/a.zip"]
  diagnostics := ["Could not access //host/share/lib/ext", "Could not access //host/share/lib/junit"]

theorem assemble_mountHost :
    (mountHost.assemble (some (.ofText "//host/share")) .windows archiveSuffixes).result =
      .ok mountAssembly := by
  have hfolders : libraryFolders (.ofText "//host/share") =
      [mountLibrary, mountLibrary.child "ext", mountLibrary.child "junit"] := by rfl
  have hlist : mountHost.list mountLibrary.text = .ok [("a.zip", { kind := .file .malformed })] := by
    rfl
  have hscan : mountHost.scan mountLibrary archiveSuffixes false =
      .ok ⟨mountLibrary, .ok [mountLibrary.child "a.zip"]⟩ := by
    have hselect : mountHost.selectNames mountLibrary archiveSuffixes false
        [("a.zip", { kind := .file .malformed })] = .ok ["a.zip"] := by rfl
    simp [Host.scan, hlist, hselect, sortPaths]
  have hscans : mountHost.scanAll archiveSuffixes
        [mountLibrary, mountLibrary.child "ext", mountLibrary.child "junit"] =
      .ok [⟨mountLibrary, .ok [mountLibrary.child "a.zip"]⟩,
        ⟨mountLibrary.child "ext", .error .notFound⟩,
        ⟨mountLibrary.child "junit", .error .notFound⟩] := by
    rw [Host.scanAll, hscan]
    rfl
  simp only [Host.assemble, hfolders, hscans]
  rfl

/-- The location of an archive on a share denotes another path than the locator has. -/
theorem assembled_location_loses_share :
    ∃ a l, (mountHost.assemble (some (.ofText "//host/share")) .windows archiveSuffixes).result =
        .ok a ∧ l ∈ a.locators ∧
      Locator.Denotes l.uri "/host/share/lib/a.zip" ∧
      ((Path.ofText l.path).absolute mountHost.cwd).text = "//host/share/lib/a.zip" ∧
      ¬ Locator.Denotes l.uri ((Path.ofText l.path).absolute mountHost.cwd).text := by
  have hdenotes : Locator.Denotes "file:///host/share/lib/a.zip" "/host/share/lib/a.zip" :=
    Locator.denotes_locationOf "/work" "/host/share/lib/a.zip"
  have hpath : ((Path.ofText "//host/share/lib/a.zip").absolute mountHost.cwd).text =
      "//host/share/lib/a.zip" := by rfl
  refine ⟨mountAssembly, _, assemble_mountHost, List.mem_singleton_self _, hdenotes, hpath, ?_⟩
  rw [hpath]
  intro hsame
  exact absurd (hsame.unique hdenotes) (by decide)

theorem assembled_location_denotes_iff_mount :
    (mountHost.assemble (some (.ofText "//host/share")) .windows archiveSuffixes).result =
        .ok mountAssembly ∧
      ∃ l ∈ mountAssembly.locators, ∃ denoted, Locator.Denotes l.uri denoted ∧
        denoted ≠ ((Path.ofText l.path).absolute mountHost.cwd).text ∧
        ((Path.ofText l.path).absolute mountHost.cwd).text = "/" ++ denoted := by
  have hl : (⟨"//host/share/lib/a.zip", "file:///host/share/lib/a.zip"⟩ : Locator) ∈
      mountAssembly.locators := List.mem_singleton_self _
  have hslashes : LeadsShare '/' "//host/share/lib/a.zip" := ⟨_, rfl, by decide⟩
  obtain ⟨denoted, hdenotes, hiff, hlost, -⟩ :=
    assembled_location_denotes_iff assemble_mountHost _ hl
  refine ⟨assemble_mountHost, _, hl, denoted, hdenotes, ?_, hlost rfl hslashes⟩
  intro hsame
  exact hiff.mp hsame ⟨rfl, .inl hslashes⟩

end Launcher
