-- SUMMARY: What discovery finds in a process that inherits the search path which start-up published.
import Launcher.Proofs.Assembly.Shares
import Launcher.Proofs.Launch.DirectStart
import Launcher.Proofs.SearchPath.Decoding

/-!
# Discovery run again

Start-up publishes its search path in the variable that discovery reads. A process that inherits the
variable finds the launcher in front, and behind it every archive of the home. It takes the launcher
for its own as long as the entries are few enough for a packaged launch; with more of them, its home is
the one that its environment has of its own.
-/
namespace Launcher

open FileSystem

/-! ## The words of a published text -/

theorem SearchPath.words_append_suffix (value : String) (segments : List String) :
    Text.words ":" (value ++ suffix ":" segments) =
      Text.words ":" value ++ segments.flatMap (Text.words ":") := by
  rw [Text.words, pieces_append_suffix toList_colon, List.filter_append, List.filter_flatMap]
  rfl

theorem isPackagedLaunch_iff {count : Nat} {platform : Platform} :
    isPackagedLaunch count platform = true ↔ count = 1 ∨ count = 2 ∧ platform = .macos := by
  have hone : (count : Int) = 1 ↔ count = 1 := by omega
  have htwo : (count : Int) = 2 ↔ count = 2 := by omega
  simp only [isPackagedLaunch, Bool.or_eq_true, Bool.and_eq_true, beq_iff_eq, hone, htwo]

/-- A launch stays a packaged one when the paths are published behind its launcher: there are none, or
    the platform lets one more entry be there, and there is one that is not cut up. -/
def StaysPackaged (platform : Platform) (paths : List String) : Prop :=
  paths = [] ∨ platform = .macos ∧ ∃ path, paths = [path] ∧ Text.has ':' path = false

section Published

variable {paths : List String} (htrimmed : ∀ path ∈ paths, Text.Trimmed ':' path)
include htrimmed

theorem published_length_eq_zero_iff : (paths.flatMap (Text.words ":")).length = 0 ↔ paths = [] := by
  cases paths with
  | nil => simp
  | cons path rest =>
    have hpos := (htrimmed path List.mem_cons_self).length_words_pos toList_colon
    rw [List.flatMap_cons, List.length_append]
    constructor
    · intro hcount
      omega
    · rintro ⟨⟩

/-- Each path gives an entry, and more than one if a separator is in it. -/
theorem published_length_eq_one_iff : (paths.flatMap (Text.words ":")).length = 1 ↔
    ∃ path, paths = [path] ∧ Text.has ':' path = false := by
  cases paths with
  | nil => simp
  | cons path rest =>
    obtain ⟨hpath, hrest⟩ := List.forall_mem_cons.mp htrimmed
    have hpos := hpath.length_words_pos toList_colon
    have hone := hpath.length_words_eq_one_iff toList_colon
    have hzero := published_length_eq_zero_iff hrest
    rw [List.flatMap_cons, List.length_append]
    constructor
    · intro hcount
      obtain rfl := hzero.mp (by omega)
      exact ⟨path, rfl, hone.mp (by omega)⟩
    · rintro ⟨_, heq, hhas⟩
      cases heq
      rw [hone.mpr hhas, hzero.mpr rfl]

theorem isPackagedLaunch_published (launcher : String) (platform : Platform) :
    isPackagedLaunch (launcher :: paths.flatMap (Text.words ":")).length platform = true ↔
      StaysPackaged platform paths := by
  have hone : (paths.flatMap (Text.words ":")).length + 1 = 1 ↔ paths = [] := by
    rw [← published_length_eq_zero_iff htrimmed]
    omega
  have htwo : (paths.flatMap (Text.words ":")).length + 1 = 2 ↔
      ∃ path, paths = [path] ∧ Text.has ':' path = false := by
    rw [← published_length_eq_one_iff htrimmed]
    omega
  rw [isPackagedLaunch_iff, List.length_cons, hone, htwo, and_comm, StaysPackaged]

end Published

/-! ## The spelling of archives -/

/-- The name of an archive ends with a letter. -/
theorem exists_last_of_hasSuffix {name : String} (h : hasSuffix archiveSuffixes name = true) :
    ∃ front d, name.toList = front ++ [d] ∧ d ≠ ':' := by
  obtain ⟨suffix, hmem, hends⟩ := List.any_eq_true.mp h
  obtain ⟨front, hfront⟩ := List.isSuffixOf_iff_suffix.mp hends
  rw [← hfront]
  simp only [archiveSuffixes, List.mem_cons, List.not_mem_nil, or_false] at hmem
  rcases hmem with rfl | rfl | rfl | rfl
  · exact ⟨front ++ ['.', 'z', 'i'], 'p', by simp, by decide⟩
  · exact ⟨front ++ ['.', 'w', 'h'], 'l', by simp, by decide⟩
  · exact ⟨front ++ ['.', 'e', 'g'], 'g', by simp, by decide⟩
  · exact ⟨front ++ ['.', 'p', 'y'], 'z', by simp, by decide⟩

/-- The archives in the library folders of a home are spelled with the lead of the home, a letter and
    a name with the suffix of an archive behind that. -/
theorem Host.text_mem_libraryEntries {h : Host} {home p : Path}
    (hp : p ∈ h.libraryEntries archiveSuffixes home) :
    ∃ middle name, p.text.toList = home.lead ++ 'l' :: (middle ++ name.toList) ∧
      hasSuffix archiveSuffixes name = true := by
  obtain ⟨d, hd, hp⟩ := List.mem_flatMap.mp hp
  simp only [libraryFolders, List.mem_cons, List.not_mem_nil, or_false] at hd
  rcases hd with rfl | rfl | rfl
  · obtain ⟨name, -, -, -, hsuffix, htext⟩ := text_mem_entriesIn hp
    exact ⟨['i', 'b', '/'], name, by simp [htext], hsuffix⟩
  · obtain ⟨name, -, -, -, hsuffix, htext⟩ := text_mem_entriesIn hp
    exact ⟨['i', 'b', '/', 'e', 'x', 't', '/'], name, by simp [htext], hsuffix⟩
  · obtain ⟨name, -, -, -, hsuffix, htext⟩ := text_mem_entriesIn hp
    exact ⟨['i', 'b', '/', 'j', 'u', 'n', 'i', 't', '/'], name, by simp [htext], hsuffix⟩

/-- The lead of a path at the root starts with one separator. -/
theorem Path.lead_root {p : Path} (hanchor : p.anchor = .root) (hparts : Separable p.parts)
    {more : List Char} (hmore : more.head? ≠ some '/') :
    ∃ rest, p.lead ++ more = '/' :: rest ∧ rest.head? ≠ some '/' := by
  refine ⟨(p.parts.flatMap fun part => part.toList ++ ['/']) ++ more, by simp [Path.lead, hanchor], ?_⟩
  cases hp : p.parts with
  | nil => simpa using hmore
  | cons part parts =>
    obtain ⟨hne, hslash⟩ := hparts part (by simp [hp])
    obtain ⟨c, r, hpart⟩ := List.exists_cons_of_ne_nil (String.toList_eq_nil_iff.not.mpr hne)
    have hc : c ≠ '/' := by
      rintro rfl
      simp [Text.has, hpart] at hslash
    simp [hpart, hc]

/-- An archive in a library folder of a home at the root is spelled with one separator in front, and
    with a letter at the end. -/
theorem Host.spelling_of_mem_libraryEntries {h : Host} {home p : Path} (hanchor : home.anchor = .root)
    (hparts : Separable home.parts) (hp : p ∈ h.libraryEntries archiveSuffixes home) :
    Text.Trimmed ':' p.text ∧ ¬ IsShare p.text := by
  obtain ⟨middle, name, htext, hsuffix⟩ := text_mem_libraryEntries hp
  have hletter : ('l' :: (middle ++ name.toList)).head? ≠ some '/' := by simp
  obtain ⟨rest, hroot, hrest⟩ := Path.lead_root hanchor hparts hletter
  obtain ⟨front, d, hname, hd⟩ := exists_last_of_hasSuffix hsuffix
  refine ⟨⟨⟨'/', rest, htext.trans hroot, by decide⟩, ?_⟩, ?_⟩
  · exact ⟨home.lead ++ 'l' :: (middle ++ front), d, by simp [htext, hname], hd⟩
  · rintro (⟨more, hmore, -⟩ | ⟨more, hmore, -⟩)
    · rw [htext, hroot] at hmore
      obtain ⟨-, rfl⟩ := List.cons.inj hmore
      exact hrest rfl
    · rw [htext, hroot] at hmore
      exact absurd (List.cons.inj hmore).1 (by decide)

/-- The archives of a home at the root are published as they are spelled. -/
theorem Host.segments_assemble {h : Host} {home : Path} {platform : Platform} {a : Assembly}
    (hcwd : (Path.ofText h.cwd).isAbsolute = true) (hfree : home.NulFree)
    (hanchor : home.anchor = .root) (hparts : Separable home.parts)
    (ha : (h.assemble (some home) platform archiveSuffixes).result = .ok a) :
    a.segments = a.locators.map Locator.path ∧ ∀ p ∈ a.locators.map Locator.path, Text.Trimmed ':' p := by
  obtain ⟨a', ha', hsorts, -⟩ := assemble_sorts platform archiveSuffixes hcwd hfree
  obtain rfl : a = a' := Except.ok.inj (ha.symm.trans ha')
  have hspelling : ∀ l ∈ a.locators, Text.Trimmed ':' l.path ∧ ¬ IsShare l.path := by
    rw [hsorts.locators]
    intro l hl
    obtain ⟨p, hp, rfl⟩ := List.mem_map.mp hl
    exact spelling_of_mem_libraryEntries hanchor hparts (List.mem_filter.mp hp).1
  constructor
  · rw [aligned_assemble ha]
    exact List.map_congr_left fun l hl => shareSource_of_not_isShare (hspelling l hl).2 _
  · intro p hp
    obtain ⟨l, hl, rfl⟩ := List.mem_map.mp hp
    exact (hspelling l hl).1

/-! ## What is inherited -/

/-- Start-up that shares the variables of the process writes those of its context to them. -/
theorem Launch.vars_prepare {env : Environment} {w w' : World} {id : Nat} {c : Context}
    (hrun : (prepare env true).execute w = (.ok id, w')) (hc : w'.context? id = some c) :
    w'.vars = c.env.properties := by
  obtain ⟨c', hprepare, hheld⟩ := execute_prepare hrun
  obtain rfl : c' = c := Option.some.inj (hheld.symm.trans hc)
  rw [execute_prepare_eq hprepare] at hrun
  cases hrun
  rfl

/-- The environment of a process that is started as a first one was, with the variables that another
    one leaves. -/
def World.inherited (w w' : World) : Environment :=
  .ofProcess w'.vars w.arguments w.system w.host.cwd

/-- What is inherited differs from what there was in the published search path alone. -/
theorem World.inherited_eq {w w' : World} {text : String}
    (hvars : w'.vars = w.vars.set searchPathVariable text) :
    w.inherited w' = { w.environment with searchPath := text, properties := w'.vars } := by
  have hhome : (w.vars.set searchPathVariable text).get? homeVariable = w.vars.get? homeVariable := by
    rw [Properties.get?_set, if_neg (by decide)]
  simp [inherited, World.environment, Environment.ofProcess, hvars, hhome]

namespace World.StartsDirectly

variable {w w' : World} {launcher : String} {at_ : Location}

/-- Start-up publishes the launcher, and behind it the paths that modules are looked for in. -/
theorem prepare_publishes (hstart : w.StartsDirectly launcher at_)
    (hplain : Text.has ':' launcher = false) :
    ∃ id w' c, (Launch.prepare w.environment true).execute w = (.ok id, w') ∧
      w'.context? id = some c ∧ c.home = some (homeAbove at_) ∧
      w'.vars = w.vars.set searchPathVariable (launcher ++ SearchPath.suffix ":" c.path.paths) ∧
      ∀ path ∈ c.path.paths, Text.Trimmed ':' path := by
  obtain ⟨-, hfree, hcanonical⟩ := hstart.canonical
  obtain ⟨here, hhere, -⟩ := hstart.cwd
  have hcwd : (Path.ofText w.host.cwd).isAbsolute = true := by
    simp [Path.isAbsolute_ofText, hhere, Path.text_root]
  have hparts : Separable (homeAbove at_).parts :=
    Host.separable_of_isCanonical hcanonical.dropLast.dropLast
  obtain ⟨a, ha, -⟩ := w.host.assemble_result w.environment.platform archiveSuffixes
    fun p hp => Option.some.inj hp ▸ hfree
  obtain ⟨hsegments, htrimmed⟩ := Host.segments_assemble hcwd hfree rfl hparts ha
  obtain ⟨id, w', hrun, hheld⟩ := Launch.execute_prepare_of_ok (hstart.locateHome hplain) ha true
  refine ⟨id, w', _, hrun, hheld, rfl, ?_, htrimmed⟩
  have hpaths : (Context.ofAssembly w.environment (some (homeAbove at_)) a).path.paths = a.segments :=
    hsegments.symm
  rw [Launch.vars_prepare hrun hheld, hpaths, ← hstart.searchPath]
  rfl

end World.StartsDirectly

namespace Launch

/-- A launcher whose text holds no separator is started directly, and start-up publishes its search
    path: the launcher, and every archive that it has a locator for. Then discovery is run again, in a
    process that is started like the first one and inherits the variables. It finds the same home if
    the launch stays a packaged one behind the archives. Otherwise it finds the home that the
    environment had of its own from the start, and that may or may not be the same. -/
theorem prepare_then_discover (w : World) (launcher : String) (at_ : Location)
    (hstart : w.StartsDirectly launcher at_) (hplain : Text.has ':' launcher = false) :
    ∃ id w' c, (prepare w.environment true).execute w = (.ok id, w') ∧ w'.context? id = some c ∧
      c.home = some (homeAbove at_) ∧
      w'.vars.get? searchPathVariable = some (launcher ++ SearchPath.suffix ":" c.path.paths) ∧
      ((w.host.locateHome (w.inherited w')).result = .ok c.home ↔
        StaysPackaged w.environment.platform c.path.paths ∨
          w.environment.ownHome w.host.cwd = homeAbove at_) ∧
      (¬ StaysPackaged w.environment.platform c.path.paths →
        (w.host.locateHome (w.inherited w')).result =
          .ok (some (w.environment.ownHome w.host.cwd))) := by
  obtain ⟨id, w', c, hrun, hheld, hhome, hvars, htrimmed⟩ := hstart.prepare_publishes hplain
  have hinherited := World.inherited_eq hvars
  have htokens : searchTokens (w.inherited w').searchPath (w.inherited w').separator =
      .ok (launcher :: c.path.paths.flatMap (Text.words ":")) := by
    rw [hinherited]
    change Except.ok (Text.words ":" (launcher ++ SearchPath.suffix ":" c.path.paths)) = _
    rw [SearchPath.words_append_suffix, Text.words_eq_singleton toList_colon hstart.ne_empty hplain]
    rfl
  have hstays : isPackagedLaunch (launcher :: c.path.paths.flatMap (Text.words ":")).length
      (w.inherited w').platform = true ↔ StaysPackaged w.environment.platform c.path.paths := by
    rw [hinherited]
    exact isPackagedLaunch_published htrimmed launcher _
  have hown : ¬ StaysPackaged w.environment.platform c.path.paths →
      (w.host.locateHome (w.inherited w')).result =
        .ok (some (w.environment.ownHome w.host.cwd)) := by
    intro hpackaged
    rw [Host.locateHome_unpackaged htokens (Bool.eq_false_iff.mpr (hstays.not.mpr hpackaged)),
      hinherited]
    rfl
  refine ⟨id, w', c, hrun, hheld, hhome, ?_, ?_, hown⟩
  · rw [hvars, Properties.get?_set_self]
  · by_cases hpackaged : StaysPackaged w.environment.platform c.path.paths
    · have hsame : (w.host.locateHome (w.inherited w')).result = .ok c.home := by
        rw [Host.locateHome_packaged htokens (hstays.mpr hpackaged), hhome]
        exact hstart.homeOfLauncher
      exact ⟨fun _ => .inl hpackaged, fun _ => hsame⟩
    · rw [hown hpackaged, hhome]
      simp [hpackaged]

/-- An installation with one archive, and a process that was started with its launcher on an operating
    system. -/
def appWorld (system : String) : World where
  host :=
    { cwd := "/"
      files :=
        { entries :=
            [(["opt"], .plainDirectory), (["opt", "app"], .plainDirectory),
              (["opt", "app", "bin"], .plainDirectory),
              (["opt", "app", "bin", "run.pyz"], { kind := .file .malformed }),
              (["opt", "app", "lib"], .plainDirectory),
              (["opt", "app", "lib", "a.zip"], { kind := .file .malformed })]
          distinct := by decide
          named := by decide } }
  arguments := ["/opt/app/bin/run.pyz"]
  system
  style := .ofVariables [] (.ofInt 0)

theorem appWorld_startsDirectly (system : String) :
    (appWorld system).StartsDirectly "/opt/app/bin/run.pyz" ["opt", "app", "bin", "run.pyz"] where
  unpublished := rfl
  program := rfl
  -- the host is the same on every operating system
  found := by
    change (appWorld "Linux").host.locate true "/opt/app/bin/run.pyz" = _
    decide +kernel
  nulFree := by
    change (appWorld "Linux").host.NulFree
    exact ⟨by decide, by decide⟩
  cwd := ⟨[], rfl, isCanonical_root _⟩

/-- On macOS, the archive that is published is the one entry that may be there. -/
theorem prepare_then_discover_mac :
    ((appWorld "Darwin").StartsDirectly "/opt/app/bin/run.pyz" ["opt", "app", "bin", "run.pyz"] ∧
      Text.has ':' "/opt/app/bin/run.pyz" = false) ∧
    ∃ id w' c, (prepare (appWorld "Darwin").environment true).execute (appWorld "Darwin") =
        (.ok id, w') ∧
      w'.context? id = some c ∧ StaysPackaged .macos c.path.paths := by
  have hstart := appWorld_startsDirectly "Darwin"
  have hplain : Text.has ':' "/opt/app/bin/run.pyz" = false := by decide
  obtain ⟨id, w', c, hrun, hheld, hhome, -, hsame, -⟩ :=
    prepare_then_discover (appWorld "Darwin") "/opt/app/bin/run.pyz" _ hstart hplain
  have hfound : ((appWorld "Darwin").host.locateHome ((appWorld "Darwin").inherited
      ((prepare (appWorld "Darwin").environment true).execute (appWorld "Darwin")).2)).result =
        .ok (some (homeAbove ["opt", "app", "bin", "run.pyz"])) := by decide +kernel
  rw [hrun, ← hhome] at hfound
  refine ⟨⟨hstart, hplain⟩, id, w', c, hrun, hheld, ?_⟩
  exact (hsame.mp hfound).resolve_right (by decide)

/-- Elsewhere the archive makes the launch an unpackaged one, and the parent of the working directory
    is found. -/
theorem prepare_then_discover_moves :
    ((appWorld "Linux").StartsDirectly "/opt/app/bin/run.pyz" ["opt", "app", "bin", "run.pyz"] ∧
      Text.has ':' "/opt/app/bin/run.pyz" = false) ∧
    ∃ id w' c, (prepare (appWorld "Linux").environment true).execute (appWorld "Linux") =
        (.ok id, w') ∧
      w'.context? id = some c ∧ c.home = some (⟨.root, ["opt", "app"]⟩ : Path) ∧
      ((appWorld "Linux").host.locateHome ((appWorld "Linux").inherited w')).result =
        .ok (some (⟨.root, []⟩ : Path)) := by
  have hstart := appWorld_startsDirectly "Linux"
  have hplain : Text.has ':' "/opt/app/bin/run.pyz" = false := by decide
  obtain ⟨id, w', c, hrun, hheld, hhome, -, -⟩ := hstart.prepare_publishes hplain
  have hfound : ((appWorld "Linux").host.locateHome ((appWorld "Linux").inherited
      ((prepare (appWorld "Linux").environment true).execute (appWorld "Linux")).2)).result =
        .ok (some (⟨.root, []⟩ : Path)) := by decide +kernel
  rw [hrun] at hfound
  exact ⟨⟨hstart, hplain⟩, id, w', c, hrun, hheld, hhome, hfound⟩

end Launch

end Launcher
