-- SUMMARY: Configuring logging by a level leaves the default handler once, behind the others, and no later configuration brings in a second one.
import Launcher.Proofs.Logging.Tame

/-!
# One default handler

Configuring logging by a level takes away every handler that goes by the name of the default one,
however many there are, and puts the default one behind the others. It has done so when it finds out
that the level is bad. A configuration file without a section for handlers brings no handler in. So
from the first configuration by a level on, no number of those comes to a second default handler.
-/
namespace Launcher

open Launch

/-! ## Handlers by their names -/

/-- The handler goes by the name of the default one. -/
def Handler.isDefault (h : Handler) : Bool := h.name = some defaultHandlerName

namespace Logging

variable {before after : Logging}

/-- The handlers of the root that go by the name of the default one. -/
def defaults (l : Logging) : List Handler := l.handlers.filter Handler.isDefault

/-- The other handlers of the root. -/
def others (l : Logging) : List Handler := l.handlers.filter fun h => !h.isDefault

/-- One handler goes by the name of the default one, and it stands last. The others are those that
    there were before, in their order. -/
structure DefaultLast (before after : Logging) : Prop where
  last : after.handlers = after.others ++ [defaultHandler]
  once : after.defaults = [defaultHandler]
  others : after.others = before.others

theorem isDefault_defaultHandler : defaultHandler.isDefault = true := by decide

theorem installDefault_handlers (l : Logging) :
    l.installDefault.handlers = l.others ++ [defaultHandler] := by
  simp [installDefault, others, Handler.isDefault]

theorem defaultLast_of_handlers (h : after.handlers = before.installDefault.handlers) :
    before.DefaultLast after := by
  rw [installDefault_handlers] at h
  have hothers : after.others = before.others := by
    simp [others, h, isDefault_defaultHandler, List.filter_filter]
  refine ⟨by rw [h, hothers], ?_, hothers⟩
  have hnone : before.others.filter Handler.isDefault = [] := by
    simp [others]
  rw [defaults, h, List.filter_append, hnone]
  rfl

theorem DefaultLast.defaults_le (h : before.DefaultLast after) : after.defaults.length ≤ 1 := by
  rw [h.once]
  exact Nat.le_refl 1

end Logging

/-! ## Configuration files -/

/-- The value names a configuration file: there is a regular file at the path that it gives, with or
    without `file:` in front. -/
def Host.NamesFile (h : Host) (value : PathValue) : Prop :=
  ∃ text n, value = .text text ∧ Host.configText text ≠ "" ∧
    h.stat (Path.ofText (Host.configText text)).text = .ok n ∧ n.isFile = true

theorem Host.exists_stat_of_test {h : Host} {text : String} {p : Node → Bool}
    (htest : h.test text p = .ok true) : ∃ n, h.stat text = .ok n ∧ p n = true := by
  unfold test at htest
  split at htest
  case h_1 n hstat =>
    exact ⟨n, hstat, Except.ok.inj htest⟩
  · cases htest
  · split at htest <;> cases htest

theorem Host.namesFile_of_configFile? {h : Host} {value : PathValue} {p : Path}
    (hfile : h.configFile? value = .ok (some p)) : h.NamesFile value := by
  unfold configFile? at hfile
  split at hfile
  case h_1 text =>
    simp only at hfile
    split at hfile
    · cases hfile
    case isFalse hne =>
      split at hfile
      · cases hfile
      · cases hfile
      case h_3 htrue =>
        obtain ⟨n, hstat, hn⟩ := exists_stat_of_test htrue
        exact ⟨text, n, rfl, hne, hstat, hn⟩
  · cases hfile
  · cases hfile
  · cases hfile

namespace World

variable {w w' : World}

/-! ## Moves that bring no handler in -/

theorem handlers_sublist_setContext (w : World) (id : Nat) (c : Context) :
    (w.setContext id c).logging.handlers.Sublist w.logging.handlers := by
  obtain ⟨_, _, heq⟩ := w.setContext_eq id c
  simp only [heq, List.Sublist.refl]

theorem Move.handlers_sublist (h : Move Logging.FewerHandlers w w') :
    w'.logging.handlers.Sublist w.logging.handlers := by
  cases h with
  | logged logs =>
    obtain ⟨_, _, rfl⟩ := logs
    exact .refl _
  | happened quiet => exact .refl _
  | configured logging allowed => exact allowed
  | imported imports finders current => exact .refl _
  | loaded held e => exact handlers_sublist_setContext w _ _
  | published held e => exact handlers_sublist_setContext w _ _

theorem Moves.handlers_sublist (h : Moves Logging.FewerHandlers w w') :
    w'.logging.handlers.Sublist w.logging.handlers :=
  h.of_move (r := fun w w' => w'.logging.handlers.Sublist w.logging.handlers)
    (fun _ => .refl _) (fun h h' => h'.trans h) Move.handlers_sublist

end World

/-- Applying a configuration file without a section for handlers, however that ends, adds no default
    handler to those that there are. -/
theorem Launch.defaults_le_applyConfig {w : World} {n : Nat} {value : PathValue}
    (hvalue : WithoutHandlers w.host value) (hw : w.logging.defaults.length ≤ n) :
    ((applyConfig value).execute w).2.logging.defaults.length ≤ n := by
  have htame : TameAt Logging.FewerHandlers w (applyConfig value) :=
    tameAt_applyConfig fun p c hfile hread names hnames => by
      rw [hnames (hvalue p c hfile hread)]
      exact Logging.permits_fewerHandlers
  have hsublist := htame.1.handlers_sublist
  exact Nat.le_trans (hsublist.filter Handler.isDefault).length_le hw

/-! ## Configuring logging -/

/-- Configuring logging is refused for a value that names a file which may not be looked up or that
    is no path, or it is the application of the file, or it goes by the level. -/
theorem Launch.configureLogging_cases (level : Json) (config : Option PathValue) (w : World) :
    (∃ value f, config = some value ∧ w.host.configFile? value = .error f ∧
      (configureLogging level config).execute w = (.error (.fault f), w)) ∨
    (∃ value, config = some value ∧ w.host.NamesFile value ∧
      (configureLogging level config).execute w = (applyConfig value).execute w) ∨
    (configureLogging level config).execute w = (configureLogging level none).execute w := by
  cases config with
  | none => exact .inr (.inr rfl)
  | some value =>
    cases hfile : w.host.configFile? value with
    | error f =>
      refine .inl ⟨value, f, rfl, hfile, ?_⟩
      simp [configureLogging, applyConfig, execute_bind, hfile, lift]
    | ok file =>
      cases file with
      | none =>
        refine .inr (.inr ?_)
        simp [configureLogging, applyConfig, execute_bind, hfile, lift]
      | some p =>
        refine .inr (.inl ⟨value, rfl, Host.namesFile_of_configFile? hfile, ?_⟩)
        simp [configureLogging, applyConfig, execute_bind, hfile, lift]

/-- Going by the level, configuring logging leaves the default handler once, behind the others. A
    good level becomes that of the root, and a bad one ends the call with the root's as it was. -/
theorem Launch.configureLogging_none_installs {level : Json} {ending : Except Raised Bool}
    {w w' : World} (hrun : (configureLogging level none).execute w = (ending, w')) :
    ((∃ root, Level.ofJson (Level.upperCase level) = .ok root ∧ ending = .ok false ∧
        w'.logging.root = root) ∨
      ∃ f, Level.ofJson (Level.upperCase level) = .error f ∧ ending = .error (.fault f) ∧
        w'.logging.root = w.logging.root) ∧
    w.logging.DefaultLast w'.logging := by
  rw [execute_configureLogging_none] at hrun
  cases hlevel : Level.ofJson (Level.upperCase level) with
  | ok root =>
    rw [hlevel] at hrun
    cases hrun
    exact ⟨.inl ⟨root, rfl, rfl, rfl⟩, Logging.defaultLast_of_handlers rfl⟩
  | error f =>
    rw [hlevel] at hrun
    cases hrun
    exact ⟨.inr ⟨f, rfl, rfl, rfl⟩, Logging.defaultLast_of_handlers rfl⟩

/-! ## Configuring logging again and again -/

namespace World

/-- What is done about logging in a process at a time: it is configured, by a call that may name a
    file without a section for handlers, however that ends, or anything happens that leaves the
    handlers of the root as they are. -/
inductive Configures (w : World) : World → Prop
  | byLevel (level : Json) (config : Option PathValue)
    (plain : ∀ value, config = some value → WithoutHandlers w.host value) :
    Configures w ((configureLogging level config).execute w).2
  | byFile (value : PathValue) (plain : WithoutHandlers w.host value) :
    Configures w ((applyConfig value).execute w).2
  | aside {w' : World} (handlers : w'.logging.handlers = w.logging.handlers) : Configures w w'

variable {w w' : World}

/-- Where there is at most one default handler, configuring logging leaves at most one. -/
theorem Configures.defaults_le (h : w.Configures w') (hw : w.logging.defaults.length ≤ 1) :
    w'.logging.defaults.length ≤ 1 := by
  cases h with
  | byLevel level config plain =>
    obtain ⟨value, f, -, -, hrun⟩ | ⟨value, hvalue, -, hrun⟩ | hrun :=
      configureLogging_cases level config w
    · rwa [hrun]
    · rw [hrun]
      exact defaults_le_applyConfig (plain value hvalue) hw
    · rw [hrun]
      obtain ⟨-, hlast⟩ := configureLogging_none_installs (Prod.eta _).symm
      exact hlast.defaults_le
  | byFile value plain => exact defaults_le_applyConfig plain hw
  | aside handlers =>
    rwa [Logging.defaults, handlers]

/-- So do any number of configurations. -/
theorem defaults_le_of_configures (h : Relation.ReflTransGen Configures w w')
    (hw : w.logging.defaults.length ≤ 1) : w'.logging.defaults.length ≤ 1 := by
  induction h with
  | refl => exact hw
  | tail _ hlast ih => exact hlast.defaults_le ih

end World

/-- Whatever handlers the root has in a process, configuring logging with no file, or with a value
    that names none, leaves one handler by the name of the default one. It stands last, behind the
    others as they were, also when the call ends with what is wrong with the level, and then the level
    of the root is what it was. From then on no configuration, by whatever files without a section for
    handlers and however it ends, comes to a second one. A value that is no path, or whose path may
    not be looked up, is refused before anything is done. -/
theorem default_handler_once {w w' : World} {level : Json} {config : Option PathValue}
    {ending : Except Raised Bool} (hfile : ∀ value, config = some value → ¬ w.host.NamesFile value)
    (hrun : (configureLogging level config).execute w = (ending, w')) :
    (∃ value f, config = some value ∧ w.host.configFile? value = .error f ∧
      ending = .error (.fault f) ∧ w' = w) ∨
    ((∃ root, Level.ofJson (Level.upperCase level) = .ok root ∧ ending = .ok false ∧
        w'.logging.root = root) ∨
      ∃ f, Level.ofJson (Level.upperCase level) = .error f ∧ ending = .error (.fault f) ∧
        w'.logging.root = w.logging.root) ∧
    w.logging.DefaultLast w'.logging ∧
    ∀ later, Relation.ReflTransGen World.Configures w' later → later.logging.defaults.length ≤ 1 := by
  obtain ⟨value, f, hvalue, hrefused, hcase⟩ | ⟨value, hvalue, hnames, -⟩ | hcase :=
    configureLogging_cases level config w
  · rw [hcase] at hrun
    cases hrun
    exact .inl ⟨value, f, hvalue, hrefused, rfl, rfl⟩
  · exact absurd hnames (hfile value hvalue)
  · rw [hcase] at hrun
    obtain ⟨hends, hlast⟩ := configureLogging_none_installs hrun
    refine .inr ⟨hends, hlast, fun later hlater => World.defaults_le_of_configures hlater ?_⟩
    exact hlast.defaults_le

/-- A process whose root has two handlers by the name of the default one, among others. -/
def crowdedWorld : World where
  host :=
    { cwd := "/"
      files :=
        { entries := [(["etc"], .plainDirectory)]
          distinct := by decide
          named := by decide } }
  style := .ofVariables [] (.ofInt 0)
  logging :=
    { Logging.initial with
      handlers := [defaultHandler, ⟨some "file", .silent⟩, ⟨some defaultHandlerName, .silent⟩,
        ⟨none, .silent⟩] }

/-- A value that names a file where there is none. -/
def absentConfig : PathValue := .text "file:/etc/logging.yaml"

theorem default_handler_once_crowded :
    (∀ value, some absentConfig = some value → ¬ crowdedWorld.host.NamesFile value) ∧
    ∃ f w', (configureLogging (.string "loud") (some absentConfig)).execute crowdedWorld =
        (.error (.fault f), w') ∧
      w'.logging.root = .number 30 ∧
      w'.logging.handlers = [⟨some "file", .silent⟩, ⟨none, .silent⟩, defaultHandler] ∧
      ((applyConfig absentConfig).execute w').2.logging.defaults.length ≤ 1 := by
  have hfile : ∀ value, some absentConfig = some value → ¬ crowdedWorld.host.NamesFile value := by
    rintro _ ⟨⟩ ⟨_, n, ⟨⟩, -, hstat, -⟩
    have habsent : crowdedWorld.host.stat "/etc/logging.yaml" = .error (.errno .notFound) := by rfl
    cases habsent.symm.trans hstat
  have hlevel : Level.ofJson (Level.upperCase (.string "loud")) =
      .error (Error.unknownLevel "LOUD" : Error) := by rfl
  have hplain : WithoutHandlers ((configureLogging (.string "loud") (some absentConfig)).execute
      crowdedWorld).2.host absentConfig :=
    fun p c hnames _ => absurd (Host.namesFile_of_configFile? hnames) (hfile _ rfl)
  refine ⟨hfile, ?_⟩
  obtain ⟨value, f, hvalue, hrefused, -⟩ | ⟨⟨root, hok, -⟩ | ⟨f, -, hends, hroot⟩, hlast, hlater⟩ :=
    default_handler_once hfile (Prod.eta ((configureLogging (.string "loud") _).execute _)).symm
  · cases hvalue
    cases hrefused
  · cases hlevel.symm.trans hok
  · refine ⟨f, _, Prod.ext hends rfl, hroot, ?_, hlater _ (.single (.byFile absentConfig hplain))⟩
    rw [hlast.last, hlast.others]
    rfl

end Launcher
