-- SUMMARY: The home of a launcher that is started directly, and what a separator in its text does to it.
import Launcher.Proofs.Launch.Startup

/-!
# Direct starts

Where no search path is published, the text that a process was started with is taken for one. A text
without a separator is the only entry, so the launch is a packaged one, and the home is two levels
above the entry that the text leads to. A separator in the text cuts it to pieces, and no piece is the
launcher: a home is looked for as if the pieces had been published.
-/
namespace Launcher

open FileSystem

/-- No search path is published. From a canonical working directory, the process was started with a
    launcher that leads to the entry at a location. -/
structure World.StartsDirectly (w : World) (launcher : String) (at_ : Location) : Prop where
  unpublished : w.vars.get? searchPathVariable = none
  program : w.arguments.head? = some launcher
  found : w.host.locate true launcher = .ok at_
  nulFree : w.host.NulFree
  cwd : ∃ here, w.host.cwd = (⟨.root, here⟩ : Path).text ∧ w.host.files.IsCanonical here

/-- The home of a launcher that leads to the entry at a location. -/
def homeAbove (at_ : Location) : Path := (⟨.root, at_⟩ : Path).parent.parent

theorem toList_colon : ":".toList = [':'] := rfl

/-- A launcher with the separator in its text is none of the entries that it is taken for. -/
theorem not_mem_words_of_has {launcher : String} (hhas : Text.has ':' launcher = true) :
    launcher ∉ Text.words ":" launcher := by
  intro hmem
  rw [Text.has_of_mem_words toList_colon hmem] at hhas
  cases hhas

namespace World.StartsDirectly

variable {w : World} {launcher : String} {at_ : Location}

theorem ne_empty (hstart : w.StartsDirectly launcher at_) : launcher ≠ "" := by
  rintro rfl
  have hfound := hstart.found
  simp [Host.locate, Text.has] at hfound

theorem searchPath (hstart : w.StartsDirectly launcher at_) : w.environment.searchPath = launcher := by
  simp [World.environment, Environment.ofProcess, hstart.unpublished, hstart.program]

/-- The launcher is the text that discovery cuts up. -/
theorem tokens (hstart : w.StartsDirectly launcher at_) :
    searchTokens w.environment.searchPath w.environment.separator = .ok (Text.words ":" launcher) := by
  rw [hstart.searchPath]
  rfl

theorem canonical (hstart : w.StartsDirectly launcher at_) :
    w.host.canonical (.ofText launcher) = .ok ⟨.root, at_⟩ ∧ (homeAbove at_).NulFree ∧
      w.host.files.IsCanonical at_ := by
  obtain ⟨here, hcwd, hcanonical⟩ := hstart.cwd
  obtain ⟨hcanon, hfree, hat⟩ := Host.canonical_ofText hstart.nulFree.targets hstart.nulFree.cwd
    hcwd hcanonical hstart.found
  exact ⟨hcanon, hfree.parent.parent, hat⟩

theorem homeOfLauncher (hstart : w.StartsDirectly launcher at_) :
    (w.host.homeOfLauncher launcher).result = .ok (some (homeAbove at_)) := by
  rw [Host.homeOfLauncher, hstart.canonical.1]
  rfl

/-- A launcher without the separator in its text is alone on the search path. -/
theorem locateHome (hstart : w.StartsDirectly launcher at_) (hplain : Text.has ':' launcher = false) :
    (w.host.locateHome w.environment).result = .ok (some (homeAbove at_)) := by
  have htokens := hstart.tokens
  rw [Text.words_eq_singleton toList_colon hstart.ne_empty hplain] at htokens
  rw [Host.locateHome_packaged htokens (by rfl)]
  exact hstart.homeOfLauncher

end World.StartsDirectly

namespace Launch

/-- Start-up ends with a context that has the home which discovery finds. -/
theorem execute_prepare_of_home {w : World} {env : Environment} {home : Path}
    (hhome : (w.host.locateHome env).result = .ok (some home)) (hfree : home.NulFree)
    (shares : Bool) :
    ∃ id w' c, (prepare env shares).execute w = (.ok id, w') ∧ w'.context? id = some c ∧
      c.home = some home := by
  obtain ⟨a, ha, -⟩ := w.host.assemble_result env.platform archiveSuffixes
    fun p hp => Option.some.inj hp ▸ hfree
  obtain ⟨id, w', hrun, hheld⟩ := execute_prepare_of_ok hhome ha shares
  exact ⟨id, w', _, hrun, hheld, rfl⟩

/-- A launcher that is started directly has the canonical path of the entry that it leads to. If no
    separator is in its text, start-up ends with a context, and the home is two levels above that
    entry, whatever the override, the working directory and the operating system are. A separator in
    its text cuts it up: then the home is that of the first piece if the number of pieces makes a
    packaged launch, and otherwise the one that the environment has of its own. -/
theorem prepare_starts_directly (w : World) (launcher : String) (at_ : Location)
    (hstart : w.StartsDirectly launcher at_) :
    w.host.canonical (.ofText launcher) = .ok ⟨.root, at_⟩ ∧
    (Text.has ':' launcher = false →
      ∃ id w' c, (prepare w.environment true).execute w = (.ok id, w') ∧ w'.context? id = some c ∧
        c.home = some (homeAbove at_)) ∧
    (Text.has ':' launcher = true →
      ∃ tokens, searchTokens w.environment.searchPath w.environment.separator = .ok tokens ∧
        launcher ∉ tokens ∧
        (w.host.locateHome w.environment).result =
          if isPackagedLaunch tokens.length w.environment.platform
          then (w.host.homeOfLauncher (tokens.headD "")).result
          else .ok (some (w.environment.ownHome w.host.cwd))) := by
  refine ⟨hstart.canonical.1, ?_, ?_⟩
  · intro hplain
    exact execute_prepare_of_home (hstart.locateHome hplain) hstart.canonical.2.1 true
  · intro hhas
    refine ⟨_, hstart.tokens, not_mem_words_of_has hhas, ?_⟩
    split
    case isTrue hpackaged => exact Host.locateHome_packaged hstart.tokens hpackaged
    case isFalse hpackaged =>
      exact Host.locateHome_unpackaged hstart.tokens (Bool.eq_false_iff.mpr hpackaged)

/-- A process that was started with a link to a launcher. -/
def aliasWorld : World where
  host := Host.aliasHost
  arguments := ["start"]
  style := .ofVariables [] (.ofInt 0)

theorem aliasWorld_startsDirectly :
    aliasWorld.StartsDirectly "start" ["opt", "app", "bin", "run.pyz"] where
  unpublished := rfl
  program := rfl
  found := by decide +kernel
  nulFree := ⟨by decide, by decide⟩
  cwd := by
    have hwork : Host.aliasHost.files.node? ([] ++ ["work"]) = some .plainDirectory := rfl
    exact ⟨["work"], by decide, (isCanonical_root _).concat hwork rfl⟩

theorem prepare_starts_directly_alias :
    aliasWorld.StartsDirectly "start" ["opt", "app", "bin", "run.pyz"] ∧
    ∃ id w' c, (prepare aliasWorld.environment true).execute aliasWorld = (.ok id, w') ∧
      w'.context? id = some c ∧ c.home = some (⟨.root, ["opt", "app"]⟩ : Path) := by
  obtain ⟨-, hplain, -⟩ := prepare_starts_directly aliasWorld "start" _ aliasWorld_startsDirectly
  exact ⟨aliasWorld_startsDirectly, hplain (by decide)⟩

/-- A process that was started with a launcher below a directory with the separator in its name. -/
def colonWorld : World where
  host :=
    { cwd := "/"
      files :=
        { entries :=
            [(["opt"], .plainDirectory), (["opt", "my:app"], .plainDirectory),
              (["opt", "my:app", "bin"], .plainDirectory),
              (["opt", "my:app", "bin", "run.pyz"], { kind := .file .malformed })]
          distinct := by decide
          named := by decide } }
  arguments := ["/opt/my:app/bin/run.pyz"]
  style := .ofVariables [] (.ofInt 0)

/-- The launcher leads to its file, and the home is the parent of the working directory. -/
theorem prepare_splits_launcher :
    colonWorld.StartsDirectly "/opt/my:app/bin/run.pyz" ["opt", "my:app", "bin", "run.pyz"] ∧
    ∃ id w' c, (prepare colonWorld.environment true).execute colonWorld = (.ok id, w') ∧
      w'.context? id = some c ∧ c.home = some (⟨.root, []⟩ : Path) ∧
      homeAbove ["opt", "my:app", "bin", "run.pyz"] ≠ ⟨.root, []⟩ := by
  have hstart : colonWorld.StartsDirectly "/opt/my:app/bin/run.pyz"
      ["opt", "my:app", "bin", "run.pyz"] :=
    ⟨rfl, rfl, by decide +kernel, ⟨by decide, by decide⟩, [], by decide, isCanonical_root _⟩
  have hhome : (colonWorld.host.locateHome colonWorld.environment).result =
      .ok (some (⟨.root, []⟩ : Path)) := by
    rw [Host.locateHome_unpackaged hstart.tokens (by decide)]
    decide
  obtain ⟨id, w', c, hrun, hheld, hfound⟩ :=
    execute_prepare_of_home hhome (Path.nulFree_iff.mpr (by simp)) true
  exact ⟨hstart, id, w', c, hrun, hheld, hfound, by decide⟩

end Launch

end Launcher
