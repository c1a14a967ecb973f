-- SUMMARY: Discovery always ends, with a home unless the launcher has no canonical path; aliases of a launcher lead to one home.
import Launcher.Home
import Launcher.Proofs.FileSystem.Settling

/-!
# The discovery of the home

A packaged launch takes its home from the launcher, and any other launch from its environment. A
launcher without a canonical path leaves the home unknown; nothing else does, and discovery never
fails. The launcher that the search path names may be an alias: links may lead to it, by absolute
and by relative targets, in chains and with `..` behind them. The home is two levels above the entry
that they lead to in the end, so it is the same for all aliases of one launcher.
-/
namespace Launcher

open FileSystem

/-! ## Two kinds of launches -/

/-- The home of a launch that is not packaged: the override, or else the parent of the working
    directory. -/
def Environment.ownHome (env : Environment) (cwd : String) : Path :=
  match env.homeOverride with
  | some override =>
    if override ≠ "" then .ofText override else ((Path.ofText env.cwd).absolute cwd).parent
  | none => ((Path.ofText env.cwd).absolute cwd).parent

namespace Host

variable {h : Host} {env : Environment} {tokens : List String}

theorem locateHome_packaged (htokens : searchTokens env.searchPath env.separator = .ok tokens)
    (hpackaged : isPackagedLaunch tokens.length env.platform = true) :
    (h.locateHome env).result = (h.homeOfLauncher (tokens.headD "")).result := by
  unfold locateHome
  simp only [htokens, Noted.bind_result, Noted.of_result, Except.bind, hpackaged, if_true,
    Noted.say_result, Noted.pure_result]
  cases (h.homeOfLauncher (tokens.headD "")).result <;> rfl

theorem locateHome_unpackaged (htokens : searchTokens env.searchPath env.separator = .ok tokens)
    (hpackaged : isPackagedLaunch tokens.length env.platform = false) :
    (h.locateHome env).result = .ok (some (env.ownHome h.cwd)) := by
  unfold locateHome Environment.ownHome
  simp only [htokens, Noted.bind_result, Noted.of_result, Except.bind, hpackaged,
    Bool.false_eq_true, if_false]
  cases env.homeOverride with
  | none => rfl
  | some override => by_cases hempty : override = "" <;> simp [hempty, Except.bind]

end Host

/-! ## Discovery without NUL -/

/-- Neither the working directory of the process nor the target of a link holds a NUL. -/
structure Host.NulFree (h : Host) : Prop where
  cwd : Text.has '\x00' h.cwd = false
  targets : h.files.TargetsAvoid '\x00'

/-- No text that discovery reads from the environment holds a NUL. -/
structure Environment.NulFree (env : Environment) : Prop where
  searchPath : Text.has '\x00' env.searchPath = false
  separator : Text.has '\x00' env.separator = false
  homeOverride : ∀ override, env.homeOverride = some override → Text.has '\x00' override = false
  cwd : Text.has '\x00' env.cwd = false

theorem Environment.NulFree.ownHome {env : Environment} (henv : env.NulFree) {cwd : String}
    (hcwd : Text.has '\x00' cwd = false) : (env.ownHome cwd).NulFree := by
  have hfolder : ((Path.ofText env.cwd).absolute cwd).parent.NulFree :=
    ((Path.nulFree_ofText hcwd).under (Path.nulFree_ofText henv.cwd)).parent
  unfold Environment.ownHome
  split
  case h_1 override hoverride =>
    split
    · exact Path.nulFree_ofText (henv.homeOverride override hoverride)
    · exact hfolder
  case h_2 => exact hfolder

theorem Text.has_headD_words {c : Char} {sep text : String} (h : has c text = false) :
    has c ((words sep text).headD "") = false := by
  cases hwords : words sep text with
  | nil => rfl
  | cons token tokens =>
    have hmem : token ∈ words sep text := by simp [hwords]
    exact has_of_mem_pieces h (List.mem_filter.mp hmem).1

namespace Host

variable {h : Host} {env : Environment}

/-- The launch is a packaged one, and its launcher has no canonical path. -/
def LauncherIsLost (h : Host) (env : Environment) : Prop :=
  ∃ tokens fault, searchTokens env.searchPath env.separator = .ok tokens ∧
    isPackagedLaunch tokens.length env.platform = true ∧
    h.canonical (.ofText (tokens.headD "")) = .error fault

/-- The home of a launcher is two levels above its canonical path, and not known without one. -/
theorem homeOfLauncher_result (hhost : h.NulFree) {launcher : String}
    (hlauncher : Text.has '\x00' launcher = false) :
    (∃ p, h.canonical (.ofText launcher) = .ok p ∧ p.NulFree ∧
      (h.homeOfLauncher launcher).result = .ok (some p.parent.parent)) ∨
    (∃ fault, h.canonical (.ofText launcher) = .error fault ∧
      (h.homeOfLauncher launcher).result = .ok none) := by
  unfold homeOfLauncher
  obtain ⟨p, hp, hnul⟩ | hfault | ⟨text, hfault⟩ :=
    canonical_cases hhost.targets hhost.cwd (Path.nulFree_ofText hlauncher)
  · exact .inl ⟨p, hp, hnul, by simp [hp]⟩
  · exact .inr ⟨_, hfault, by simp [hfault, Except.bind]⟩
  · exact .inr ⟨_, hfault, by simp [hfault, Except.bind]⟩

/-- Discovery never fails, and finds a home unless the launcher of a packaged launch is lost. -/
theorem locateHome_result (hhost : h.NulFree) (henv : env.NulFree) (hsep : env.separator ≠ "") :
    ∃ home, (h.locateHome env).result = .ok home ∧ (∀ p, home = some p → p.NulFree) ∧
      (home = none ↔ h.LauncherIsLost env) := by
  have htokens : searchTokens env.searchPath env.separator =
      .ok (Text.words env.separator env.searchPath) := by simp [searchTokens, hsep]
  have hlost : h.LauncherIsLost env ↔
      isPackagedLaunch (Text.words env.separator env.searchPath).length env.platform = true ∧
      ∃ fault, h.canonical (.ofText ((Text.words env.separator env.searchPath).headD "")) =
        .error fault := by
    simp [LauncherIsLost, htokens]
  cases hpackaged : isPackagedLaunch (Text.words env.separator env.searchPath).length env.platform with
  | false =>
    refine ⟨_, locateHome_unpackaged htokens hpackaged, ?_, by simp [hlost, hpackaged]⟩
    rintro _ ⟨⟩
    exact henv.ownHome hhost.cwd
  | true =>
    rw [locateHome_packaged htokens hpackaged, hlost]
    obtain ⟨p, hp, hnul, hhome⟩ | ⟨fault, hfault, hhome⟩ :=
      homeOfLauncher_result hhost (Text.has_headD_words henv.searchPath)
    · have hfound : ¬ ∃ fault, h.canonical
          (.ofText ((Text.words env.separator env.searchPath).headD "")) = .error fault := by
        rw [hp]
        simp
      refine ⟨_, hhome, ?_, ⟨by simp, fun hlost => absurd hlost.2 hfound⟩⟩
      rintro _ ⟨⟩
      exact hnul.parent.parent
    · exact ⟨none, hhome, by simp, ⟨fun _ => ⟨hpackaged, fault, hfault⟩, fun _ => rfl⟩⟩

end Host

/-! ## Aliases of a launcher -/

/-- From a canonical working directory, a packaged launch names a launcher that leads to the entry at
    a location. -/
structure Host.LaunchedFrom (h : Host) (env : Environment) (launcher : String) (at_ : Location) :
    Prop where
  cwd : ∃ here, h.cwd = (⟨.root, here⟩ : Path).text ∧ h.files.IsCanonical here
  tokens : ∃ rest, searchTokens env.searchPath env.separator = .ok (launcher :: rest) ∧
    isPackagedLaunch (launcher :: rest).length env.platform = true
  found : h.locate true (Path.ofText launcher).text = .ok at_

namespace Host

variable {h : Host} {env : Environment} {launcher : String} {at_ : Location}

theorem LaunchedFrom.canonical (hlaunch : h.LaunchedFrom env launcher at_)
    (havoid : h.files.Avoids '\x00') :
    h.canonical (.ofText launcher) = .ok ⟨.root, at_⟩ ∧ h.files.IsCanonical at_ := by
  obtain ⟨here, hcwd, hcanonical⟩ := hlaunch.cwd
  exact canonical_of_locate havoid hcwd hcanonical hlaunch.found

theorem LaunchedFrom.locateHome (hlaunch : h.LaunchedFrom env launcher at_)
    (havoid : h.files.Avoids '\x00') :
    (h.locateHome env).result = .ok (some (⟨.root, at_⟩ : Path).parent.parent) := by
  obtain ⟨rest, htokens, hpackaged⟩ := hlaunch.tokens
  rw [locateHome_packaged htokens hpackaged, List.headD_cons, homeOfLauncher,
    (hlaunch.canonical havoid).1]
  rfl

/-- The path without links leads to the entry as well, if no directory above the working directory
    keeps it from that. -/
theorem LaunchedFrom.walk (hlaunch : h.LaunchedFrom env launcher at_)
    (hopen : (Path.ofText launcher).isAbsolute = true ∨ ∃ here, h.locate true h.cwd = .ok here) :
    h.walk true ⟨true, at_⟩ = .ok at_ := by
  obtain ⟨cwd, hcwd, hcanonical⟩ := hlaunch.cwd
  obtain ⟨start, hstart, k, -, hreach⟩ := reaches_of_locate hlaunch.found
  obtain ⟨hstart, -, -⟩ := start_of_isCanonical hcwd hcanonical hstart
  rw [Path.startsWith_text (separable_ofText launcher)] at hstart
  have hfrom : h.files.Treads [] start start := by
    by_cases habsolute : (Path.ofText launcher).anchor ≠ .relative
    · rw [hstart, if_pos (by simpa using habsolute)]
      exact .start
    · obtain ⟨here, hhere⟩ := hopen.resolve_left (mt Path.isAbsolute_iff.mp habsolute)
      rw [hstart, if_neg (by simpa using habsolute)]
      exact treads_cwd hcwd hcanonical hhere
  obtain ⟨onLink, hwalk⟩ := walk_eq_walkWith h.files true linkLimit
  change h.files.walk true linkLimit [] at_ = _
  rw [hwalk]
  simpa [walkWith] using (hreach.treads hfrom).walkWith onLink true []

/-- The home of a packaged launch is two levels above the entry that its launcher leads to. That
    entry is spelled by a path without links, and so is the home. The path leads to the entry as well,
    unless the launcher is a relative one and its process may not look up where it stands itself.
    Launches through launchers that lead to one entry find one home, whatever else their environments
    hold. -/
theorem locateHome_follows_links (h : Host) (env : Environment) (launcher : String) (at_ : Location)
    (havoid : h.files.Avoids '\x00') (hlaunch : h.LaunchedFrom env launcher at_) :
    (h.locateHome env).result = .ok (some (⟨.root, at_⟩ : Path).parent.parent) ∧
    ((Path.ofText launcher).isAbsolute = true ∨ (∃ here, h.locate true h.cwd = .ok here) →
      h.walk true ⟨true, at_⟩ = .ok at_) ∧
    h.files.IsCanonical at_ ∧ h.files.IsCanonical (⟨.root, at_⟩ : Path).parent.parent.parts ∧
    ∀ h' env' launcher', h'.files = h.files → LaunchedFrom h' env' launcher' at_ →
      (h'.locateHome env').result = (h.locateHome env).result := by
  have hcanonical := (hlaunch.canonical havoid).2
  refine ⟨hlaunch.locateHome havoid, hlaunch.walk, hcanonical, hcanonical.dropLast.dropLast, ?_⟩
  intro h' env' launcher' hfiles hlaunch'
  rw [hlaunch.locateHome havoid, hlaunch'.locateHome (hfiles ▸ havoid)]

/-- An installation whose launcher is started through a link in the working directory. The target of
    that is absolute and goes up behind another link, whose target is relative. -/
def aliasHost : Host where
  cwd := "/work"
  files :=
    { entries :=
        [(["opt"], .plainDirectory), (["opt", "app"], .plainDirectory),
          (["opt", "app", "bin"], .plainDirectory),
          (["opt", "app", "bin", "run.pyz"], { kind := .file .malformed }),
          (["opt", "alias"], { kind := .link "app/bin" }), (["work"], .plainDirectory),
          (["work", "start"], { kind := .link "/opt/alias/../bin/run.pyz" }),
          (["vault"], { kind := .directory false }), (["vault", "work"], .plainDirectory),
          (["vault", "work", "begin"], { kind := .link "/opt/app/bin/run.pyz" })]
      distinct := by decide
      named := by decide }

/-- The same files, seen from below a directory that names can no longer be looked up in. -/
def vaultHost : Host := { aliasHost with cwd := "/vault/work" }

/-- The launches from both working directories find the home. -/
theorem locateHome_follows_links_alias :
    (aliasHost.files.Avoids '\x00' ∧
      aliasHost.LaunchedFrom { searchPath := "start" } "start" ["opt", "app", "bin", "run.pyz"]) ∧
    (aliasHost.locateHome { searchPath := "start" }).result =
      .ok (some (⟨.root, ["opt", "app"]⟩ : Path)) ∧
    aliasHost.walk true ⟨true, ["opt", "app", "bin", "run.pyz"]⟩ =
      .ok ["opt", "app", "bin", "run.pyz"] ∧
    vaultHost.locate true vaultHost.cwd = .error (.errno .denied) ∧
    vaultHost.LaunchedFrom { searchPath := "begin" } "begin" ["opt", "app", "bin", "run.pyz"] ∧
    (vaultHost.locateHome { searchPath := "begin" }).result =
      .ok (some (⟨.root, ["opt", "app"]⟩ : Path)) := by
  have havoid : aliasHost.files.Avoids '\x00' := by unfold FileSystem.Avoids; decide
  have hwork : aliasHost.files.node? ([] ++ ["work"]) = some .plainDirectory := rfl
  have hvault : aliasHost.files.node? ([] ++ ["vault"]) = some { kind := .directory false } := rfl
  have hbelow : aliasHost.files.node? (["vault"] ++ ["work"]) = some .plainDirectory := rfl
  have hroot : aliasHost.files.IsCanonical [] := isCanonical_root _
  have hlaunch : aliasHost.LaunchedFrom { searchPath := "start" } "start"
      ["opt", "app", "bin", "run.pyz"] :=
    ⟨⟨["work"], by decide, hroot.concat hwork rfl⟩, ⟨[], by decide, by decide⟩, by decide +kernel⟩
  have hlaunch' : vaultHost.LaunchedFrom { searchPath := "begin" } "begin"
      ["opt", "app", "bin", "run.pyz"] :=
    ⟨⟨["vault", "work"], by decide, (hroot.concat hvault rfl).concat hbelow rfl⟩,
      ⟨[], by decide, by decide⟩, by decide +kernel⟩
  obtain ⟨hhome, hwalk, -, -, hsame⟩ :=
    locateHome_follows_links aliasHost { searchPath := "start" } "start" _ havoid hlaunch
  refine ⟨⟨havoid, hlaunch⟩, hhome, hwalk (.inr ⟨["work"], by decide +kernel⟩), by decide +kernel,
    hlaunch', ?_⟩
  rw [hsame vaultHost { searchPath := "begin" } "begin" rfl hlaunch']
  exact hhome

end Host

end Launcher
