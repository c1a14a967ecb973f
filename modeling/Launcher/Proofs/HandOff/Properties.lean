-- SUMMARY: The launcher writes two variables only, and the one that names the logging configuration leads back to the file in the home.
import Launcher.Proofs.Assembly.Preparation
import Launcher.Proofs.HandOff.Stages
import Launcher.Proofs.Home.Reading

/-!
# What the launcher writes to properties

Properties are the variables of the process, or a mapping of a context of its own. Extending a
context publishes its search path under one name, and whatever else a tame computation does writes
nothing. A run without failures names the logging configuration of a known home under another name,
unless one is named there. What it writes is read back as the path of that file, however the home is
spelled.
-/
namespace Launcher

open Launch

/-! ## Writing under a few names -/

namespace World

variable {w w' w'' : World} {id : Nat} {c : Context} {ns more : List String}

/-- The variables of the process, or the properties of a context. -/
def propertiesOf (w : World) : Option Nat → Option Properties
  | none => some w.vars
  | some id => (w.context? id).map fun c => c.env.properties

theorem propertiesOf_held {held : HeldContext} (hheld : w.contexts[id]? = some held) :
    w.propertiesOf (some id) =
      some (if held.sharesVariables then w.vars else held.context.env.properties) := by
  unfold propertiesOf context?
  simp only [hheld, Option.map_some]
  split <;> rfl

/-- From the first world to the second, all properties keep what they have under other names. -/
def WritesOnly (ns : List String) (w w' : World) : Prop :=
  ∀ owner ps, w.propertiesOf owner = some ps →
    ∃ ps', w'.propertiesOf owner = some ps' ∧ ∀ key ∉ ns, ps'.get? key = ps.get? key

theorem WritesOnly.refl (ns : List String) (w : World) : w.WritesOnly ns w :=
  fun _ ps hps => ⟨ps, hps, fun _ _ => rfl⟩

theorem WritesOnly.trans (h : w.WritesOnly ns w') (h' : w'.WritesOnly ns w'') :
    w.WritesOnly ns w'' := by
  intro owner ps hps
  obtain ⟨ps', hps', hkeys⟩ := h owner ps hps
  obtain ⟨ps'', hps'', hkeys'⟩ := h' owner ps' hps'
  exact ⟨ps'', hps'', fun key hkey => (hkeys' key hkey).trans (hkeys key hkey)⟩

theorem WritesOnly.mono (h : w.WritesOnly ns w') (hsub : ns ⊆ more) : w.WritesOnly more w' := by
  intro owner ps hps
  obtain ⟨ps', hps', hkeys⟩ := h owner ps hps
  exact ⟨ps', hps', fun key hkey => hkeys key fun hmem => hkey (hsub hmem)⟩

/-- What keeps the variables and the contexts writes nothing. -/
theorem WritesOnly.of_same (hvars : w'.vars = w.vars) (hcontexts : w'.contexts = w.contexts) :
    w.WritesOnly ns w' := by
  intro owner ps hps
  refine ⟨ps, ?_, fun _ _ => rfl⟩
  rw [← hps]
  cases owner with
  | none => simp only [propertiesOf, hvars]
  | some id => simp only [propertiesOf, context?, hcontexts, hvars]

/-- A context that is set changes the properties that were its own, and no others. -/
theorem propertiesOf_setContext (hc : w.context? id = some c) (new : Context) (owner : Option Nat) :
    (w.setContext id new).propertiesOf owner = w.propertiesOf owner ∨
    (w.propertiesOf owner = some c.env.properties ∧
      (w.setContext id new).propertiesOf owner = some new.env.properties) := by
  by_cases hown : owner = some id
  · subst hown
    exact .inr ⟨by simp [propertiesOf, hc], by simp [propertiesOf, context?_setContext hc new]⟩
  unfold context? at hc
  cases hheld : w.contexts[id]? with
  | none => simp [hheld] at hc
  | some held =>
    obtain ⟨context, shares⟩ := held
    cases shares with
    | false =>
      left
      cases owner with
      | none => simp [propertiesOf, setContext, hheld]
      | some other =>
        have hne : id ≠ other := fun heq => hown (heq ▸ rfl)
        simp [propertiesOf, setContext, hheld, context?, List.getElem?_set_ne hne]
    | true =>
      have hvars : c.env.properties = w.vars := by
        rw [hheld] at hc
        cases hc
        rfl
      cases owner with
      | none => exact .inr (by simp [propertiesOf, setContext, hheld, hvars])
      | some other =>
        have hne : id ≠ other := fun heq => hown (heq ▸ rfl)
        cases hother : w.contexts[other]? with
        | none => simp [propertiesOf, setContext, hheld, context?, List.getElem?_set_ne hne, hother]
        | some held =>
          obtain ⟨d, sharesToo⟩ := held
          cases sharesToo <;>
            simp [propertiesOf, setContext, hheld, context?, List.getElem?_set_ne hne, hother, hvars]

theorem WritesOnly.setContext (hc : w.context? id = some c) {new : Context}
    (hnew : ∀ key ∉ ns, new.env.properties.get? key = c.env.properties.get? key) :
    w.WritesOnly ns (w.setContext id new) := by
  intro owner ps hps
  obtain hsame | ⟨hold, hset⟩ := propertiesOf_setContext hc new owner
  · exact ⟨ps, hsame.trans hps, fun _ _ => rfl⟩
  · obtain rfl : c.env.properties = ps := Option.some.inj (hold.symm.trans hps)
    exact ⟨_, hset, hnew⟩

theorem Logs.writesOnly (h : w.Logs w') : w.WritesOnly ns w' := by
  obtain ⟨_, _, rfl⟩ := h
  exact .of_same rfl rfl

end World

theorem Properties.get?_set_of_not_mem {ps : Properties} {name key : String} (value : String)
    (hkey : key ∉ [name]) : (ps.set name value).get? key = ps.get? key := by
  rw [get?_set, if_neg (by simpa using hkey)]

/-- A published extension writes the search path. -/
theorem Context.addPath_get? (c : Context) (e : Extension) {key : String}
    (hkey : key ∉ [searchPathVariable]) :
    (c.addPath e).env.properties.get? key = c.env.properties.get? key := by
  unfold addPath
  cases e.fault with
  | none => exact Properties.get?_set_of_not_mem _ hkey
  | some f => rfl

/-! ## Homes that were read -/

/-- All homes of contexts were read from texts. -/
def World.HomesRead (w : World) : Prop :=
  ∀ held ∈ w.contexts, ∀ home, held.context.home = some home → ∃ text, home = .ofText text

theorem Path.isNormal_iff {p : Path} : p.IsNormal ↔ ∃ text, p = ofText text := by
  constructor
  · intro hp
    exact ⟨p.text, hp.ofText_text.symm⟩
  · rintro ⟨text, rfl⟩
    exact isNormal_ofText text

namespace World

variable {w w' : World} {id : Nat} {c : Context}

theorem HomesRead.isNormal (h : w.HomesRead) (hc : w.context? id = some c) {home : Path}
    (hhome : c.home = some home) : home.IsNormal := by
  unfold context? at hc
  cases hheld : w.contexts[id]? with
  | none => simp [hheld] at hc
  | some held =>
    have hmem : held ∈ w.contexts := List.mem_of_getElem? hheld
    have hsame : c.home = held.context.home := by
      rw [hheld] at hc
      cases hc
      simp only
      split <;> rfl
    exact Path.isNormal_iff.mpr (h held hmem home (hsame ▸ hhome))

theorem HomesRead.setContext (h : w.HomesRead) (hc : w.context? id = some c) {new : Context}
    (hnew : new.home = c.home) : (w.setContext id new).HomesRead := by
  unfold World.setContext
  split
  · exact h
  · intro other hother home hhome
    obtain hmem | rfl := List.mem_or_eq_of_mem_set hother
    · exact h other hmem home hhome
    · exact Path.isNormal_iff.mp (h.isNormal hc (hnew ▸ hhome))

theorem HomesRead.of_contexts (h : w.HomesRead) (hcontexts : w'.contexts = w.contexts) :
    w'.HomesRead := by
  rw [HomesRead, hcontexts]
  exact h

end World

/-! ## Tame computations -/

namespace World

variable {w w' : World}

/-- What the launcher does to properties and homes when it publishes search paths. -/
structure Publishes (w w' : World) : Prop where
  writesOnly : w.WritesOnly [searchPathVariable] w'
  homesRead : w.HomesRead → w'.HomesRead

theorem Publishes.refl (w : World) : w.Publishes w := ⟨.refl _ w, id⟩

theorem Publishes.trans {w'' : World} (h : w.Publishes w') (h' : w'.Publishes w'') :
    w.Publishes w'' :=
  ⟨h.writesOnly.trans h'.writesOnly, h'.homesRead ∘ h.homesRead⟩

theorem Publishes.of_same (hvars : w'.vars = w.vars) (hcontexts : w'.contexts = w.contexts) :
    w.Publishes w' :=
  ⟨.of_same hvars hcontexts, fun h => h.of_contexts hcontexts⟩

theorem Logs.publishes (h : w.Logs w') : w.Publishes w' := by
  obtain ⟨_, _, rfl⟩ := h
  exact .of_same rfl rfl

theorem Publishes.setContext {id : Nat} {c : Context} (hc : w.context? id = some c) {new : Context}
    (hkeys : ∀ key ∉ [searchPathVariable],
      new.env.properties.get? key = c.env.properties.get? key)
    (hhome : new.home = c.home) : w.Publishes (w.setContext id new) :=
  ⟨.setContext hc hkeys, fun h => h.setContext hc hhome⟩

variable {rule : Logging → Logging → Prop}

theorem Move.publishes (h : Move rule w w') : w.Publishes w' := by
  cases h with
  | logged logs => exact logs.publishes
  | happened quiet => exact .of_same rfl rfl
  | configured logging allowed => exact .of_same rfl rfl
  | imported imports finders current => exact .of_same rfl rfl
  | loaded held e => exact .setContext held (fun _ _ => rfl) rfl
  | published held e =>
    refine .setContext held (fun key hkey => Context.addPath_get? _ e hkey) ?_
    unfold Context.addPath
    cases e.fault <;> rfl

theorem Moves.publishes (h : Moves rule w w') : w.Publishes w' :=
  h.of_move Publishes.refl Publishes.trans Move.publishes

end World

namespace Launch

variable {w : World} {id : Nat} {c : Context} {x : Launch α} {f : α → Launch β}
  {handle : Raised → Launch α}

/-- Carried out in any world, the computation publishes search paths at most. -/
def Publishing (x : Launch α) : Prop := ∀ w : World, w.Publishes (x.execute w).2

theorem Tame.publishing (hx : Tame Logging.Free x) : Publishing x := fun w => (hx w).1.publishes

theorem Publishing.bind (hx : Publishing x) (hf : ∀ a, Publishing (f a)) : Publishing (x >>= f) := by
  intro w
  have hfirst := hx w
  rw [execute_bind]
  match hrun : x.execute w with
  | (.ok a, w') =>
    rw [hrun] at hfirst
    exact hfirst.trans (hf a w')
  | (.error r, w') =>
    rw [hrun] at hfirst
    exact hfirst

theorem publishing_modify {change : World → World} (h : ∀ w : World, w.Publishes (change w)) :
    Publishing (modify change : Launch Unit) := h

/-- What is done about an early end continues what came before. -/
theorem publishes_tryCatch {base : World} (hx : base.Publishes (x.execute w).2)
    (hhandle : ∀ r, Publishing (handle r)) :
    base.Publishes ((tryCatch x handle).execute w).2 := by
  rw [execute_tryCatch]
  match hrun : x.execute w with
  | (.ok a, w') =>
    rw [hrun] at hx
    exact hx
  | (.error r, w') =>
    rw [hrun] at hx
    exact hx.trans (hhandle r w')

theorem publishing_resolve (id : Nat) (name : String) : Publishing (resolve id name) := by
  unfold resolve
  cases EntryPoint.ofName? name with
  | none => exact (tame_fail _).publishing
  | some e =>
    have hactivate : Publishing (activate id) := publishing_modify fun _ => .of_same rfl rfl
    exact .bind hactivate fun _ => (tame_find e name).publishing

theorem publishing_start (name : String) (product : Product) (args : List String) :
    Publishing (start name product args) := by
  refine .bind (tame_startOf name product).publishing fun ⟨label, actions⟩ => ?_
  have hhappen : Publishing (happen (.started label args)) :=
    publishing_modify fun _ => .of_same rfl rfl
  exact .bind hhappen fun _ => (tame_performActions label actions).publishing

/-! ## Naming the logging configuration -/

/-- The text that names the logging configuration of a home. -/
def logConfigText (home : Path) : String := "file:" ++ (home.descend ["bin", logConfigName]).text

/-- A context with this home, whose properties do not name a logging configuration. -/
structure LacksLogConfig (c : Context) (home : Path) : Prop where
  home : c.home = some home
  absent : (c.env.properties.get? logConfigVariable).getD "" = ""

theorem nameLogConfig_cases (c : Context) :
    (nameLogConfig c = c ∧ ∀ home, ¬ LacksLogConfig c home) ∨
    ∃ home, LacksLogConfig c home ∧
      (nameLogConfig c).env.properties =
        c.env.properties.set logConfigVariable (logConfigText home) ∧
      (nameLogConfig c).home = c.home := by
  unfold nameLogConfig
  split
  case h_1 hnone =>
    refine .inl ⟨rfl, fun home hlacks => ?_⟩
    rw [hlacks.home] at hnone
    cases hnone
  case h_2 home hhome =>
    split
    case isTrue hnamed => exact .inl ⟨rfl, fun _ hlacks => hnamed hlacks.absent⟩
    case isFalse hempty => exact .inr ⟨home, ⟨hhome, not_not.mp hempty⟩, rfl, rfl⟩

/-- Apply the configuration in a file, if there is such a file. The answer says whether there is
    one. -/
def applyConfigAt (p : Path) : Launch Bool := do
  let h := (← get).host
  if ← lift (h.isFile p) then
    (← lift (h.readConfig p)).apply
    pure true
  else pure false

/-- The text that names the configuration of a home makes the file in that home be looked at, and no
    other, whatever the home is called. -/
theorem applyConfig_logConfigText {home : Path} (hhome : home.IsNormal) :
    applyConfig (.text (logConfigText home)) = applyConfigAt (home.descend ["bin", logConfigName]) := by
  have hnormal : (home.descend ["bin", logConfigName]).IsNormal :=
    hhome.descend (by unfold Separable; decide) (by decide)
  have htext : Host.configText (logConfigText home) = (home.descend ["bin", logConfigName]).text := by
    simp [Host.configText, logConfigText, Text.after?, Text.afterLead]
  have hne : (home.descend ["bin", logConfigName]).text ≠ "" := by
    intro hempty
    have hpath := hnormal.ofText_text
    rw [hempty] at hpath
    have hparts : home.parts ++ ["bin", logConfigName] = [] := congrArg Path.parts hpath.symm
    simp at hparts
  unfold applyConfig applyConfigAt
  refine bind_congr fun w => ?_
  simp only [Host.configFile?, htext, if_neg hne, hnormal.ofText_text]
  cases w.host.isFile (home.descend ["bin", logConfigName]) with
  | error f => rfl
  | ok found => cases found <;> rfl

/-! ## The run -/

theorem publishing_proceed (id : Nat) (name home : String) (args : List String) :
    Publishing (proceed id name home args) := by
  refine .bind (tame_configureByProperties id).publishing fun _ => ?_
  refine .bind (publishing_modify fun w => (w.logs_notify _ none).publishes) fun _ => ?_
  refine .bind (publishing_resolve id name) fun factory => ?_
  exact .bind (tame_call factory).publishing fun product => publishing_start name product args

/-- Behind the naming of the configuration, a run without failures publishes search paths at most. -/
theorem publishes_runApplication (hc : w.context? id = some c) (hfailures : c.failures = [])
    (args : List String) (entryPoint : Option String) (r : Reporting) :
    (named w id c).Publishes ((runApplication id args entryPoint r).execute w).2 := by
  have hrefused : ¬ c.failures ≠ [] := by simp [hfailures]
  have hreport (text : String) : Publishing (report r text) := publishing_modify fun w => by
    obtain ⟨err, reports, heq⟩ := reported_eq w r text
    rw [heq]
    exact .of_same rfl rfl
  rw [runApplication, execute_bind, execute_context hc]
  simp only [if_neg hrefused]
  refine publishes_tryCatch ?_ fun raised => ?_
  · have hproceed := publishing_proceed id (runName c entryPoint) c.homeDisplay args (named w id c)
    rw [execute_bind, execute_handOff hc]
    rcases hrun : (proceed id (runName c entryPoint) c.homeDisplay args).execute (named w id c) with
      ⟨_ | _, w'⟩
    all_goals
      rw [hrun] at hproceed
      exact hproceed
  · cases raised with
    | fault f =>
      simp only
      split
      · refine .bind (publishing_modify fun w => (w.logs_notify _ (some f)).publishes) fun _ => ?_
        exact .bind (hreport _) fun _ => .bind (hreport _) fun _ => (tame_pure _).publishing
      · exact (tame_fail f).publishing
    | exit code => exact fun w => .refl w
    | interrupt => exact fun w => .refl w
    | abort => exact fun w => .refl w

end Launch

/-- From the first world to the second, a run of a context without failures has named the logging
    configuration of its home, which is not named in the properties of the context before. The
    text that it has written is read back as the path in the home, and nothing else was written
    but search paths. -/
structure World.NamesLogConfig (w : World) (id : Nat) (home : Path) (w' : World) : Prop where
  before : ∃ c, w.context? id = some c ∧ c.failures = [] ∧ LacksLogConfig c home
  after : ∃ c, w'.context? id = some c ∧
    c.env.properties.get? logConfigVariable = some (logConfigText home)
  reads : applyConfig (.text (logConfigText home)) =
    applyConfigAt (home.descend ["bin", logConfigName])
  writesOnly : w.WritesOnly [searchPathVariable, logConfigVariable] w'
  everywhere : ∀ owner ps ps', w.propertiesOf owner = some ps → w'.propertiesOf owner = some ps' →
    ps'.get? logConfigVariable = ps.get? logConfigVariable ∨
    ((ps.get? logConfigVariable).getD "" = "" ∧
      ps'.get? logConfigVariable = some (logConfigText home))
  homesRead : w'.HomesRead

namespace Launch

variable {w : World} {id : Nat} {c : Context}

theorem logConfigVariable_not_mem : logConfigVariable ∉ [searchPathVariable] := by decide

/-- What a run does that publishes search paths at most behind the naming of the configuration. -/
theorem namesLogConfig_of_publishes {w' : World} {home : Path} (hhomes : w.HomesRead)
    (hc : w.context? id = some c) (hfailures : c.failures = []) (hlacks : LacksLogConfig c home)
    (hnames : (nameLogConfig c).env.properties =
      c.env.properties.set logConfigVariable (logConfigText home))
    (hhome : (nameLogConfig c).home = c.home)
    (hpublishes : (named w id c).Publishes w') : w.NamesLogConfig id home w' := by
  have hcharge : (w.underCharge id).context? id = some c := hc
  have hset : (named w id c).context? id = some (nameLogConfig c) :=
    World.context?_setContext hcharge _
  have hwritten : (nameLogConfig c).env.properties.get? logConfigVariable =
      some (logConfigText home) := by
    rw [hnames, Properties.get?_set_self]
  have hnamed : w.WritesOnly [logConfigVariable] (named w id c) :=
    .trans (.of_same rfl rfl) (.setContext hcharge fun key hkey => by
      rw [hnames, Properties.get?_set_of_not_mem _ hkey])
  refine ⟨⟨c, hc, hfailures, hlacks⟩, ?_,
    applyConfig_logConfigText (hhomes.isNormal hc hlacks.home), ?_, ?_, ?_⟩
  · obtain ⟨ps', hps', hkept⟩ := hpublishes.writesOnly (some id) _
      (by rw [World.propertiesOf, hset, Option.map_some])
    obtain ⟨c', hc', rfl⟩ := Option.map_eq_some_iff.mp hps'
    exact ⟨c', hc', (hkept _ logConfigVariable_not_mem).trans hwritten⟩
  · exact (hnamed.mono (by simp)).trans (hpublishes.writesOnly.mono (by simp))
  · intro owner ps ps' hps hps'
    have hkept (ps₁ : Properties) (hps₁ : (named w id c).propertiesOf owner = some ps₁) :
        ps'.get? logConfigVariable = ps₁.get? logConfigVariable := by
      obtain ⟨ps'', hps'', hkeys⟩ := hpublishes.writesOnly owner ps₁ hps₁
      obtain rfl : ps'' = ps' := Option.some.inj (hps''.symm.trans hps')
      exact hkeys _ logConfigVariable_not_mem
    obtain hsame | ⟨hold, hnew⟩ :=
      World.propertiesOf_setContext hcharge (nameLogConfig c) owner
    · exact .inl (hkept ps (hsame.trans hps))
    · obtain rfl : c.env.properties = ps := Option.some.inj (hold.symm.trans hps)
      exact .inr ⟨hlacks.absent, (hkept _ hnew).trans hwritten⟩
  · have hcharged : (w.underCharge id).HomesRead := hhomes.of_contexts rfl
    exact hpublishes.homesRead (hcharged.setContext hcharge hhome)

/-- A run names the logging configuration of the home, if it is one of a context without failures
    that lacks it, and publishes search paths at most otherwise. -/
theorem runApplication_cases (hhomes : w.HomesRead) (id : Nat) (args : List String)
    (entryPoint : Option String) (r : Reporting) :
    (w.Publishes ((runApplication id args entryPoint r).execute w).2 ∧
      ∀ c home, w.context? id = some c → c.failures = [] → ¬ LacksLogConfig c home) ∨
    ∃ home, w.NamesLogConfig id home ((runApplication id args entryPoint r).execute w).2 := by
  cases hc : w.context? id with
  | none =>
    have hnone : (runApplication id args entryPoint r).execute w =
        (.error (.fault (Error.notHandedOff : Error)), w) := by
      simp [runApplication, context, execute_bind, hc]
    rw [hnone]
    exact .inl ⟨.refl w, fun c home hheld => absurd hheld (by simp)⟩
  | some c =>
    by_cases hfailures : c.failures = []
    · have hpublishes := publishes_runApplication hc hfailures args entryPoint r
      obtain ⟨hsame, hnone⟩ | ⟨home, hlacks, hnames, hhome⟩ := nameLogConfig_cases c
      · refine .inl ⟨World.Publishes.trans ?_ hpublishes, fun c' home hheld _ => ?_⟩
        · have hcharge : (w.underCharge id).context? id = some c := hc
          have hcharged : w.Publishes (w.underCharge id) := .of_same rfl rfl
          exact hcharged.trans (.setContext hcharge (fun _ _ => by rw [hsame]) (by rw [hsame]))
        · obtain rfl := Option.some.inj hheld
          exact hnone home
      · exact .inr ⟨home, namesLogConfig_of_publishes hhomes hc hfailures hlacks hnames hhome hpublishes⟩
    · obtain ⟨err, reports, heq⟩ := reported_eq w r (failureHeader ++ "\n" ++ formatFailures c.failures)
      rw [execute_runApplication_refused hc hfailures, heq]
      refine .inl ⟨.of_same rfl rfl, fun c' home hheld hnone => ?_⟩
      obtain rfl := Option.some.inj hheld
      exact absurd hnone hfailures

end Launch

/-! ## Preparing -/

/-- A context that is prepared has the home that discovery finds. -/
theorem Host.locateHome_of_prepare {h : Host} {env : Environment} {c : Context}
    (hok : (h.prepare env).result = .ok c) : (h.locateHome env).result = .ok c.home := by
  unfold prepare at hok
  simp only [Noted.bind_result, Noted.say_result, Noted.pure_result] at hok
  cases hhome : (h.locateHome env).result with
  | error f => simp [hhome, Except.bind] at hok
  | ok home =>
    cases ha : (h.assemble home env.platform archiveSuffixes).result with
    | error f => simp [hhome, ha, Except.bind] at hok
    | ok a =>
      simp only [hhome, ha, Except.bind, Except.ok.injEq] at hok
      rw [← hok]
      rfl

/-- A context that is held brings no change to the properties that were there, but for the search path
    where they are its own from then on. -/
theorem World.publishes_hold {w : World} {c : Context} {shares : Bool}
    (hshares : shares = true → ∀ key ∉ [searchPathVariable],
      c.env.properties.get? key = w.vars.get? key)
    (hhome : ∀ home, c.home = some home → home.IsNormal) : w.Publishes (w.hold c shares).2 where
  writesOnly := by
    intro owner ps hps
    cases owner with
    | none =>
      obtain rfl : w.vars = ps := Option.some.inj hps
      cases shares with
      | false => exact ⟨_, rfl, fun _ _ => rfl⟩
      | true => exact ⟨_, rfl, hshares rfl⟩
    | some id =>
      cases hheld : w.contexts[id]? with
      | none => simp [propertiesOf, context?, hheld] at hps
      | some held =>
        have hlt : id < w.contexts.length := (List.getElem?_eq_some_iff.mp hheld).1
        have hstill : (w.hold c shares).2.contexts[id]? = some held := by
          rw [← hheld]
          exact List.getElem?_append_left hlt
        rw [propertiesOf_held hheld] at hps
        rw [propertiesOf_held hstill]
        obtain rfl := Option.some.inj hps
        refine ⟨_, rfl, fun key hkey => ?_⟩
        -- a context that shares the variables reads them as they are now
        cases held.sharesVariables with
        | false => rfl
        | true =>
          cases shares with
          | false => rfl
          | true => exact hshares rfl key hkey
  homesRead := by
    intro hhomes held hheld home hfound
    obtain hmem | hlast := List.mem_append.mp hheld
    · exact hhomes held hmem home hfound
    · obtain rfl := List.mem_singleton.mp hlast
      exact Path.isNormal_iff.mp (hhome home hfound)

namespace Launch

variable {w : World}

/-- Prepare a context from what the process finds about itself, or in an environment that is given
    and has properties of its own. -/
def prepareIn : Option Environment → Launch Nat
  | none => do prepare (← get).environment true
  | some env => prepare env false

/-- The properties that a context is prepared with. -/
def propertiesGiven (w : World) (given : Option Environment) : Properties :=
  match given with
  | none => w.vars
  | some env => env.properties

/-- Preparing a context publishes its search path in the properties that it is prepared with. If it
    fails, nothing is written at all. -/
theorem publishes_prepareIn (w : World) (given : Option Environment) :
    w.Publishes ((prepareIn given).execute w).2 ∧
    ∀ id w', (prepareIn given).execute w = (.ok id, w') → ∃ ps, w'.propertiesOf (some id) = some ps ∧
      ∀ key ∉ [searchPathVariable], ps.get? key = (propertiesGiven w given).get? key := by
  obtain ⟨env, shares, hrun, hgiven, hshares⟩ : ∃ env shares,
      (prepareIn given).execute w = (prepare env shares).execute w ∧
      propertiesGiven w given = env.properties ∧ (shares = true → env.properties = w.vars) := by
    cases given with
    | none =>
      refine ⟨w.environment, true, ?_, rfl, fun _ => rfl⟩
      simp only [prepareIn, execute_bind, execute_get]
    | some env => exact ⟨env, false, rfl, rfl, by simp⟩
  rw [hrun, hgiven]
  have hlogs := w.logs_notifyAll (w.host.prepare env).notices
  cases hc : (w.host.prepare env).result with
  | error f =>
    have hfailed : (prepare env shares).execute w =
        (.error (.fault f), w.notifyAll (w.host.prepare env).notices) := by
      simp [prepare, noted, execute_bind, lift, hc]
    rw [hfailed]
    exact ⟨hlogs.publishes, by simp⟩
  | ok c =>
    have hkeys : ∀ key ∉ [searchPathVariable], c.env.properties.get? key = env.properties.get? key := by
      obtain ⟨home, a, -, rfl⟩ := Host.prepare_eq_ok hc
      exact fun key hkey => Properties.get?_set_of_not_mem _ hkey
    have hhome : ∀ home, c.home = some home → home.IsNormal := fun home hsome =>
      Host.isNormal_of_locateHome (hsome ▸ Host.locateHome_of_prepare hc)
    have hvars : (w.notifyAll (w.host.prepare env).notices).vars = w.vars := by
      obtain ⟨_, _, hlogged⟩ := hlogs
      rw [hlogged]
    rw [execute_prepare_eq hc]
    refine ⟨hlogs.publishes.trans (World.publishes_hold (fun htrue key hkey => ?_) hhome), ?_⟩
    · rw [hkeys key hkey, hshares htrue, hvars]
    · intro id w' hheld
      cases hheld
      refine ⟨c.env.properties, ?_, hkeys⟩
      rw [World.propertiesOf, World.context?_hold, Option.map_some]

end Launch

/-! ## Duties -/

/-- What the launcher does for a process: it prepares contexts, extends them and runs them. -/
inductive Duty where
  | prepare (given : Option Environment)
  | addPath (id : Nat) (value : PathValue)
  | addUrl (id : Nat) (target : Target)
  | run (id : Nat) (args : List String) (entryPoint : Option String) (r : Reporting)

namespace Duty

/-- The world that is left when a duty is done, whether it ends well or early. -/
def after (w : World) : Duty → World
  | prepare given => ((prepareIn given).execute w).2
  | addPath id value => ((Launch.addPath id value).execute w).2
  | addUrl id target => ((Launch.addUrl id target).execute w).2
  | run id args entryPoint r => ((runApplication id args entryPoint r).execute w).2

/-- A duty names the logging configuration of a home, if it is a run of a context without failures
    that lacks it, and publishes search paths at most otherwise. -/
theorem after_cases {w : World} (hhomes : w.HomesRead) (duty : Duty) :
    (w.Publishes (duty.after w) ∧ ∀ id args entryPoint r c home, duty = run id args entryPoint r →
      w.context? id = some c → c.failures = [] → ¬ LacksLogConfig c home) ∨
    ∃ id args entryPoint r home, duty = run id args entryPoint r ∧
      w.NamesLogConfig id home (duty.after w) := by
  cases duty with
  | prepare given => exact .inl ⟨(publishes_prepareIn w given).1, by simp⟩
  | addPath id value => exact .inl ⟨(tame_addPath id value).publishing w, by simp⟩
  | addUrl id target => exact .inl ⟨(tame_addUrl id target).publishing w, by simp⟩
  | run id args entryPoint r =>
    obtain ⟨hpublishes, hnone⟩ | ⟨home, hnames⟩ :=
      runApplication_cases hhomes id args entryPoint r
    · refine .inl ⟨hpublishes, ?_⟩
      rintro _ _ _ _ c home ⟨⟩
      exact hnone c home
    · exact .inr ⟨id, args, entryPoint, r, home, rfl, hnames⟩

/-- The world after duties that are done one after another. -/
def afterAll (w : World) (duties : List Duty) : World := duties.foldl (fun w duty => duty.after w) w

theorem writesOnly_afterAll {w : World} (hhomes : w.HomesRead) (duties : List Duty) :
    (afterAll w duties).HomesRead ∧
      w.WritesOnly [searchPathVariable, logConfigVariable] (afterAll w duties) := by
  induction duties generalizing w with
  | nil => exact ⟨hhomes, .refl _ w⟩
  | cons duty duties ih =>
    obtain ⟨hread, hwrites⟩ : (duty.after w).HomesRead ∧
        w.WritesOnly [searchPathVariable, logConfigVariable] (duty.after w) := by
      obtain ⟨hpublishes, -⟩ | ⟨_, _, _, _, _, -, hnames⟩ := after_cases hhomes duty
      · exact ⟨hpublishes.homesRead hhomes, hpublishes.writesOnly.mono (by simp)⟩
      · exact ⟨hnames.homesRead, hnames.writesOnly⟩
    obtain ⟨hlast, hrest⟩ := ih hread
    exact ⟨hlast, hwrites.trans hrest⟩

end Duty

/-- Whatever the launcher does, the variables of the process and the properties of every context keep
    what they have under all names but two, and a context starts with the properties that it was
    prepared with, but for its search path. The name of the logging configuration is written by a
    run alone, and by it exactly if its context has no failures and a known home, and no such name.
    What it writes makes the configuration be looked for at `bin/logging.yaml` in that home, and
    nowhere else. -/
theorem launcher_writes_two_variables {w : World} (hhomes : w.HomesRead) (duties : List Duty) :
    w.WritesOnly [searchPathVariable, logConfigVariable] (Duty.afterAll w duties) ∧
    (∀ given id w', (prepareIn given).execute (Duty.afterAll w duties) = (.ok id, w') →
      ∃ ps, w'.propertiesOf (some id) = some ps ∧ ∀ key ∉ [searchPathVariable],
        ps.get? key = (propertiesGiven (Duty.afterAll w duties) given).get? key) ∧
    ∀ duty : Duty,
      ((Duty.afterAll w duties).WritesOnly [searchPathVariable]
          (duty.after (Duty.afterAll w duties)) ∧
        ∀ id args entryPoint r c home, duty = .run id args entryPoint r →
          (Duty.afterAll w duties).context? id = some c → c.failures = [] →
          ¬ LacksLogConfig c home) ∨
      ∃ id args entryPoint r home, duty = .run id args entryPoint r ∧
        (Duty.afterAll w duties).NamesLogConfig id home (duty.after (Duty.afterAll w duties)) := by
  obtain ⟨hread, hwrites⟩ := Duty.writesOnly_afterAll hhomes duties
  refine ⟨hwrites, fun given => (publishes_prepareIn _ given).2, fun duty => ?_⟩
  obtain ⟨hpublishes, hnone⟩ | hnames := duty.after_cases hread
  · exact .inl ⟨hpublishes.writesOnly, hnone⟩
  · exact .inr hnames

/-- A process whose context has a relative home that starts like a location and has blanks and a
    percent sign in it. -/
def spacedWorld : World where
  host := { cwd := "/work", files := .empty }
  vars := [("LANG", "C")]
  style := .ofVariables [] (.ofInt 0)
  contexts := [⟨{ env := {}, home := some (.ofText "file:my 100% home"), path := {} }, true⟩]

theorem launcher_writes_two_variables_spaced :
    spacedWorld.HomesRead ∧
    ∃ c, (Duty.after spacedWorld (.run 0 [] none .collected)).context? 0 = some c ∧
      c.env.properties.get? logConfigVariable =
        some "file:file:my 100% home/bin/logging.yaml" ∧
      applyConfig (.text "file:file:my 100% home/bin/logging.yaml") =
        applyConfigAt ⟨.relative, ["file:my 100% home", "bin", "logging.yaml"]⟩ := by
  have hhomes : spacedWorld.HomesRead := by
    intro held hheld home hhome
    obtain rfl := List.mem_singleton.mp hheld
    exact ⟨_, (Option.some.inj hhome).symm⟩
  obtain ⟨-, -, hduty⟩ := launcher_writes_two_variables hhomes []
  obtain ⟨-, hnone⟩ | ⟨_, _, _, _, _, hrun, hnames⟩ := hduty (.run 0 [] none .collected)
  · exact absurd ⟨rfl, rfl⟩ (hnone 0 [] none .collected _ (.ofText "file:my 100% home") rfl rfl rfl)
  · cases hrun
    obtain ⟨c₀, hc₀, -, hlacks⟩ := hnames.before
    obtain rfl := Option.some.inj hc₀
    obtain rfl := Option.some.inj hlacks.home
    obtain ⟨c, hc, hwritten⟩ := hnames.after
    exact ⟨hhomes, c, hc, hwritten, hnames.reads⟩

end Launcher
