-- SUMMARY: Which homes are absolute: all but those of an override that is relative.
import Launcher.Proofs.Home.Discovery

/-!
# Absolute homes

A home that starts at a root is the same directory wherever the process goes. A canonical path starts
at a root when the working directory does, and so does the parent of the working directory. An override
is taken as it is given, so a relative one makes a home that moves with the working directory.
-/
namespace Launcher

/-! ## Paths that stay where they are -/

namespace Path

variable {p : Path}

theorem isAbsolute_parent : p.parent.isAbsolute = p.isAbsolute := rfl

/-- A path is absolute if it is the same from every working directory, and only then. -/
theorem isAbsolute_iff_absolute_eq :
    p.isAbsolute = true ↔ ∀ cwd cwd', p.absolute cwd = p.absolute cwd' := by
  constructor
  · intro habsolute cwd cwd'
    rw [absolute_of_isAbsolute habsolute, absolute_of_isAbsolute habsolute]
  · intro hsame
    cases habsolute : p.isAbsolute with
    | true => rfl
    | false =>
      have hparts : (p.absolute "/a").parts = (p.absolute "/b").parts := by rw [hsame "/a" "/b"]
      simp only [absolute, under, habsolute, Bool.false_eq_true, if_false, descend,
        List.append_cancel_right_eq] at hparts
      exact absurd hparts (by decide)

end Path

namespace Host

variable {h : Host} {p q : Path}

theorem toList_joinText_of_root {a b : String} {rest : List Char} (ha : a.toList = '/' :: rest)
    (hb : Text.startsWith b "/" = false) : ∃ more, (joinText a b).toList = '/' :: more := by
  unfold joinText
  rw [if_neg (by simp [hb])]
  split <;> simp [ha]

/-- A text settles to an absolute path where the working directory is absolute. -/
theorem isAbsolute_settle (hcwd : (Path.ofText h.cwd).isAbsolute = true) (text : String) :
    (h.settle text).isAbsolute = true := by
  obtain ⟨whole, hwhole⟩ : ∃ whole, (if Text.startsWith text "/" then text
    else joinText h.cwd text) = whole := ⟨_, rfl⟩
  have hroot : ∃ rest, whole.toList = '/' :: rest := by
    rw [← hwhole]
    split
    case isTrue hstart =>
      obtain ⟨rest, hrest⟩ := List.head?_eq_some_iff.mp (startsWith_separator_iff.mp hstart)
      exact ⟨rest, hrest⟩
    case isFalse hstart =>
      obtain ⟨rest, hrest⟩ := Path.isAbsolute_ofText.mp hcwd
      exact toList_joinText_of_root hrest (by simpa using hstart)
  rw [settle_eq h hwhole]
  exact Path.isAbsolute_ofText.mpr hroot

theorem isAbsolute_canonical (hcwd : (Path.ofText h.cwd).isAbsolute = true)
    (hok : h.canonical p = .ok q) : q.isAbsolute = true := by
  unfold canonical at hok
  split at hok
  · cases hok
  simp only at hok
  split at hok
  · cases hok
  · cases hok
  · cases hok
    exact isAbsolute_settle hcwd _

end Host

/-! ## Homes -/

namespace Environment

variable {env : Environment} {cwd : String}

/-- The launch is not a packaged one, and it has an override that is relative. -/
structure TakesRelative (env : Environment) (override : String) : Prop where
  unpackaged : ∃ tokens, searchTokens env.searchPath env.separator = .ok tokens ∧
    isPackagedLaunch tokens.length env.platform = false
  homeOverride : env.homeOverride = some override
  nonempty : override ≠ ""
  relative : (Path.ofText override).isAbsolute = false

/-- The home that an environment has of its own starts at a root, or it is the override. -/
theorem ownHome_cases (hcwd : (Path.ofText cwd).isAbsolute = true) :
    (env.ownHome cwd).isAbsolute = true ∨
      ∃ override, env.homeOverride = some override ∧ override ≠ "" ∧
        env.ownHome cwd = .ofText override := by
  have hparent : ((Path.ofText env.cwd).absolute cwd).parent.isAbsolute = true := by
    rw [Path.isAbsolute_parent]
    exact Path.isAbsolute_absolute.mpr (.inr hcwd)
  unfold ownHome
  split
  case h_1 override hoverride =>
    split
    case isTrue hne => exact .inr ⟨override, hoverride, hne, rfl⟩
    case isFalse => exact .inl hparent
  case h_2 => exact .inl hparent

theorem TakesRelative.ownHome {override : String} (h : env.TakesRelative override) (cwd : String) :
    env.ownHome cwd = .ofText override := by
  simp [Environment.ownHome, h.homeOverride, h.nonempty]

end Environment

namespace Host

variable {h : Host} {env : Environment}

/-- The home of a packaged launch is absolute. -/
theorem isAbsolute_homeOfLauncher (hhost : h.NulFree)
    (hcwd : (Path.ofText h.cwd).isAbsolute = true) {launcher : String}
    (hlauncher : Text.has '\x00' launcher = false) {p : Path}
    (hhome : (h.homeOfLauncher launcher).result = .ok (some p)) : p.isAbsolute = true := by
  obtain ⟨q, hq, -, hfound⟩ | ⟨fault, -, hlost⟩ := homeOfLauncher_result hhost hlauncher
  · rw [hfound] at hhome
    cases hhome
    rw [Path.isAbsolute_parent, Path.isAbsolute_parent]
    exact isAbsolute_canonical hcwd hq
  · rw [hlost] at hhome
    cases hhome

/-- A home that is not absolute is an override that is relative. -/
theorem isAbsolute_or_takesRelative (hhost : h.NulFree) (henv : env.NulFree)
    (hcwd : (Path.ofText h.cwd).isAbsolute = true) {p : Path}
    (hhome : (h.locateHome env).result = .ok (some p)) :
    p.isAbsolute = true ∨ ∃ override, env.TakesRelative override ∧ p = .ofText override := by
  cases htokens : searchTokens env.searchPath env.separator with
  | error f => simp [locateHome, htokens, Except.bind] at hhome
  | ok tokens =>
    cases hpackaged : isPackagedLaunch tokens.length env.platform with
    | true =>
      rw [locateHome_packaged htokens hpackaged] at hhome
      have hnul : Text.has '\x00' (tokens.headD "") = false := by
        unfold searchTokens at htokens
        split at htokens
        · cases htokens
        · cases htokens
          exact Text.has_headD_words henv.searchPath
      exact .inl (isAbsolute_homeOfLauncher hhost hcwd hnul hhome)
    | false =>
      rw [locateHome_unpackaged htokens hpackaged] at hhome
      cases hhome
      obtain habsolute | ⟨override, hoverride, hne, hown⟩ := env.ownHome_cases hcwd
      · exact .inl habsolute
      · cases habsolute : (Path.ofText override).isAbsolute with
        | true => exact .inl (by rw [hown, habsolute])
        | false =>
          exact .inr ⟨override, ⟨⟨tokens, htokens, hpackaged⟩, hoverride, hne, habsolute⟩, hown⟩

/-- Discovery ends with a home or without one, unless the separator is empty. A home is absolute, and
    then it is the same from every working directory, but for one case: where an override that is
    relative is taken, the home is the override as it is given. -/
theorem locateHome_absolute_iff (h : Host) (env : Environment) (hhost : h.NulFree)
    (henv : env.NulFree) (hcwd : (Path.ofText h.cwd).isAbsolute = true) :
    (env.separator = "" ∧ (h.locateHome env).result = .error (Error.emptySeparator : Error)) ∨
    ∃ home, (h.locateHome env).result = .ok home ∧
      ∀ p, home = some p →
        (p.isAbsolute = true ↔ ¬ ∃ override, env.TakesRelative override) ∧
        (p.isAbsolute = true ↔ ∀ cwd cwd', p.absolute cwd = p.absolute cwd') ∧
        ∀ override, env.TakesRelative override → p = .ofText override := by
  by_cases hsep : env.separator = ""
  · exact .inl ⟨hsep, by simp [locateHome, searchTokens, hsep, Except.bind]⟩
  obtain ⟨home, hhome, -, -⟩ := locateHome_result hhost henv hsep
  refine .inr ⟨home, hhome, ?_⟩
  rintro p rfl
  have htaken : ∀ override, env.TakesRelative override → p = .ofText override := by
    intro override htakes
    obtain ⟨tokens, htokens, hpackaged⟩ := htakes.unpackaged
    rw [locateHome_unpackaged htokens hpackaged, htakes.ownHome] at hhome
    cases hhome
    rfl
  refine ⟨⟨?_, ?_⟩, Path.isAbsolute_iff_absolute_eq, htaken⟩
  · rintro habsolute ⟨override, htakes⟩
    rw [htaken override htakes, htakes.relative] at habsolute
    cases habsolute
  · intro hnone
    obtain habsolute | ⟨override, htakes, -⟩ :=
      isAbsolute_or_takesRelative hhost henv hcwd hhome
    · exact habsolute
    · exact absurd ⟨override, htakes⟩ hnone

/-- The environment of a launch with three entries and a relative override. -/
def overriddenEnvironment : Environment :=
  { searchPath := "a:b:c", homeOverride := some "custom" }

theorem locateHome_absolute_iff_overridden :
    (aliasHost.NulFree ∧ overriddenEnvironment.NulFree ∧
      (Path.ofText aliasHost.cwd).isAbsolute = true) ∧
    ∃ p, (aliasHost.locateHome overriddenEnvironment).result = .ok (some p) ∧
      ¬ ∀ cwd cwd', p.absolute cwd = p.absolute cwd' := by
  have hhost : aliasHost.NulFree := ⟨by decide, by decide⟩
  have henv : overriddenEnvironment.NulFree := by
    refine ⟨by decide, by decide, ?_, by decide⟩
    rintro _ ⟨⟩
    decide
  have hcwd : (Path.ofText aliasHost.cwd).isAbsolute = true := by decide
  have htakes : overriddenEnvironment.TakesRelative "custom" :=
    ⟨⟨["a", "b", "c"], by decide, by decide⟩, rfl, by decide, by decide⟩
  obtain ⟨hempty, -⟩ | ⟨home, hhome, hp⟩ :=
    locateHome_absolute_iff aliasHost overriddenEnvironment hhost henv hcwd
  · exact absurd hempty (by decide)
  have hfound : home = some (.ofText "custom") := by
    have hresult : (aliasHost.locateHome overriddenEnvironment).result =
        .ok (some (.ofText "custom")) := by decide
    rw [hhome] at hresult
    exact Except.ok.inj hresult
  obtain ⟨hiff, hsame, -⟩ := hp _ hfound
  refine ⟨⟨hhost, henv, hcwd⟩, _, hfound ▸ hhome, ?_⟩
  rw [← hsame, hiff]
  exact fun hnone => hnone ⟨"custom", htakes⟩

/-- A relative override is another directory from every working directory. -/
theorem locateHome_moves_with_override :
    (aliasHost.locateHome overriddenEnvironment).result = .ok (some (.ofText "custom")) ∧
      (Path.ofText "custom").isAbsolute = false ∧
      (Path.ofText "custom").absolute "/work" ≠ (Path.ofText "custom").absolute "/srv" := by
  refine ⟨by decide, by decide, by decide⟩

end Host

end Launcher
