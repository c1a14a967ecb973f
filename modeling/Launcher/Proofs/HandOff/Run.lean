-- SUMMARY: Running an application: refusal with one report, or a hand-off under the charge of the context and what its end becomes.
import Launcher.Proofs.HandOff.Course

/-!
# The run as a state machine

A run of a context with failures is refused with one report. Any other run hands off. From its
first step on the context is in charge, so application code never runs under another charge; the
application is started at most once; and the end of the hand-off decides on the exit status and the
reports.
-/
namespace Launcher

/-! ## Starts -/

/-- The starts among what happened. -/
def startsOf (os : List Occurrence) : List Occurrence := os.filter fun o => o.event.isStart

/-- What is steady under a charge happens under it, and starts nothing. -/
theorem World.Steady.under {w w' : World} {id : Nat} (h : w.Steady w')
    (hcharge : w.standing.InCharge id) :
    ∃ more, w'.output.occurrences = w.output.occurrences ++ more ∧
      (∀ o ∈ more, o.standing.InCharge id) ∧ startsOf more = [] := by
  obtain ⟨more, hmore, hall⟩ := h.occurrences
  refine ⟨more, hmore, ?_, ?_⟩
  · intro o ho
    exact (hall o ho).1 ▸ hcharge
  · refine List.filter_eq_nil_iff.mpr fun o ho => ?_
    simp [(hall o ho).2]

namespace Launch

variable {w w' w'' : World} {id : Nat} {name : String} {args : List String}

/-! ## Reports -/

/-- From the first world to the second, exactly these reports were given. -/
def Reported (r : Reporting) (texts : List String) (w w' : World) : Prop :=
  match r with
  | .collected => w'.output.reports = w.output.reports ++ texts ∧ w'.output.err = w.output.err
  | .standardError => w'.output.reports = w.output.reports ∧
    w'.output.err = w.output.err ++ String.join (texts.map fun t => Text.dropControls t ++ "\n")

theorem Reported.of_same {r : Reporting} (hreports : w'.output.reports = w.output.reports)
    (herr : w'.output.err = w.output.err) : Reported r [] w w' := by
  cases r with
  | collected => exact ⟨by rw [hreports, List.append_nil], herr⟩
  | standardError => exact ⟨hreports, by simp [herr]⟩

theorem Reported.logs {r : Reporting} {texts : List String} (h : Reported r texts w w')
    (hlogs : w'.Logs w'') : Reported r texts w w'' := by
  obtain ⟨_, _, rfl⟩ := hlogs
  cases r <;> exact h

theorem Reported.report {r : Reporting} {texts : List String} (h : Reported r texts w w')
    (text : String) : Reported r (texts ++ [text]) w (reported w' r text) := by
  cases r with
  | collected =>
    obtain ⟨hreports, herr⟩ := h
    refine ⟨?_, herr⟩
    simp [reported, World.collect, hreports]
  | standardError =>
    obtain ⟨hreports, herr⟩ := h
    refine ⟨hreports, ?_⟩
    simp [reported, World.printError, herr, String.append_assoc]

/-- A report changes what has been put out, and nothing else. -/
theorem reported_eq (w : World) (r : Reporting) (text : String) :
    ∃ err reports, reported w r text = { w with output := { w.output with err, reports } } := by
  cases r <;> exact ⟨_, _, rfl⟩

theorem reported_standing (w : World) (r : Reporting) (text : String) :
    (reported w r text).standing = w.standing := by
  cases r <;> rfl

theorem reported_occurrences (w : World) (r : Reporting) (text : String) :
    (reported w r text).output.occurrences = w.output.occurrences := by
  cases r <;> rfl

/-! ## The hand-off -/

/-- A hand-off, how it ends, and what it leaves: it ends at one of its stages, with the context in
    charge at every one of them and whenever something happens, no report, and at most one start,
    with the arguments given, of the instance that was made, can be started and has that `start`. A
    hand-off without a start ends early. -/
structure HandsOff (id : Nat) (name : String) (args : List String) (c : Context) (w : World)
    (ending : Except Raised Unit) (w' : World) : Prop where
  ends : EndsAt id name args c w ending w'
  charged : ∀ p w₁, Reaches id name c w p w₁ → w₁.standing.InCharge id
  standing : w'.standing = (w.underCharge id).standing
  occurrences : ∃ more, w'.output.occurrences = w.output.occurrences ++ more ∧
    (∀ o ∈ more, o.standing.InCharge id) ∧
    ((startsOf more = [] ∧ ∃ raised, ending = .error raised) ∨
      ∃ label className body actions w₁,
        Reaches id name c w (.ready label className body actions) w₁ ∧
        startsOf more = [⟨.started label args, w'.standing⟩])
  reports : w'.output.reports = w.output.reports
  err : w'.output.err = w.output.err
  noAbort : ending ≠ .error .abort

variable {c : Context} {ending : Except Raised Unit}

theorem blamed_ne_abort {e : EntryPoint} {raised : Raised} (h : raised ≠ .abort) :
    blamed e name raised ≠ .abort := by
  cases raised with
  | fault f =>
    simp only [blamed]
    split <;> simp
  | exit code => simp [blamed]
  | interrupt => simp [blamed]
  | abort => exact absurd rfl h

/-- A hand-off ends early before the start, with the charge as it was, or starts what it made. -/
theorem EndsAt.cases (h : EndsAt id name args c w ending w') :
    (∃ raised, ending = .error raised ∧ raised ≠ .abort ∧ (w.underCharge id).Steady w') ∨
    ∃ label className body actions w₁, Reaches id name c w (.ready label className body actions) w₁ ∧
      (performActions label actions).execute (w₁.happen (.started label args)) = (ending, w') := by
  cases h with
  | configuring hreach hconfigures =>
    obtain ⟨hsteady, habort⟩ := hconfigures.steady
    exact .inl ⟨_, rfl, fun h => habort (congrArg _ h), hreach.steady.trans hsteady⟩
  | misnamed hreach _ => exact .inl ⟨_, rfl, by simp, hreach.steady⟩
  | @importing e raised w₁ _ hreach _ himport =>
    have hcharge : w₁.standing.InCharge id := hreach.steady.standing ▸ w.inCharge_underCharge id
    have hactivate : w₁.Steady { w₁ with imports := w₁.imports.activate id } :=
      (steadyAt_activate hcharge).1
    obtain ⟨hsteady, habort⟩ := (tame_importModule _).steady_of_execute himport
    exact .inl ⟨_, rfl, fun h => habort (congrArg _ h), hreach.steady.trans (hactivate.trans hsteady)⟩
  | lookingUp hreach hbreaks =>
    obtain ⟨hsteady, habort⟩ :=
      (tame_walk _ _).steady_of_execute (execute_walk_error_iff.mpr hbreaks)
    exact .inl ⟨_, rfl, blamed_ne_abort fun h => habort (congrArg _ h), hreach.steady.trans hsteady⟩
  | making hreach hcall =>
    obtain ⟨hsteady, habort⟩ := (tame_call _).steady_of_execute hcall
    exact .inl ⟨_, rfl, fun h => habort (congrArg _ h), hreach.steady.trans hsteady⟩
  | plain hreach => exact .inl ⟨_, rfl, by simp, hreach.steady⟩
  | checking hreach hcan =>
    obtain ⟨hsteady, habort⟩ := (tame_canStart _ _ _).steady_of_execute hcan
    exact .inl ⟨_, rfl, fun h => habort (congrArg _ h), hreach.steady.trans hsteady⟩
  | refused hreach hcan =>
    obtain ⟨hsteady, -⟩ := (tame_canStart _ _ _).steady_of_execute hcan
    exact .inl ⟨_, rfl, by simp, hreach.steady.trans hsteady⟩
  | lost hreach hentry =>
    obtain ⟨hsteady, habort⟩ := (tame_entryOf _ _ _ _).steady_of_execute hentry
    exact .inl ⟨_, rfl, fun h => habort (congrArg _ h), hreach.steady.trans hsteady⟩
  | unfit hreach hentry =>
    obtain ⟨hsteady, -⟩ := (tame_entryOf _ _ _ _).steady_of_execute hentry
    exact .inl ⟨_, rfl, by simp, hreach.steady.trans hsteady⟩
  | unset hreach hentry =>
    obtain ⟨hsteady, -⟩ := (tame_entryOf _ _ _ _).steady_of_execute hentry
    exact .inl ⟨_, rfl, by simp, hreach.steady.trans hsteady⟩
  | started hreach hrun => exact .inr ⟨_, _, _, _, _, hreach, hrun⟩

/-- Every hand-off is of this kind. -/
theorem handsOff (hc : w.context? id = some c)
    (hrun : (handOff id name args).execute w = (ending, w')) : HandsOff id name args c w ending w' := by
  have hends := endsAt_of_execute hc hrun
  have hcharge := w.inCharge_underCharge id
  have hcharged : ∀ p w₁, Reaches id name c w p w₁ → w₁.standing.InCharge id :=
    fun p w₁ hreach => hreach.steady.standing ▸ hcharge
  obtain ⟨raised, rfl, habort, hsteady⟩ | ⟨label, className, body, actions, w₁, hreach, hperform⟩ :=
    hends.cases
  · obtain ⟨more, hmore, hall, hnone⟩ := hsteady.under hcharge
    exact
      { ends := hends
        charged := hcharged
        standing := hsteady.standing
        occurrences := ⟨more, hmore, hall, .inl ⟨hnone, raised, rfl⟩⟩
        reports := hsteady.reports
        err := hsteady.err
        noAbort := by simpa using habort }
  · have hready := hreach.steady
    obtain ⟨hsteady, habort⟩ := (tame_performActions label actions).steady_of_execute hperform
    have hcharge₁ : w₁.standing.InCharge id := hcharged _ _ hreach
    have hcharge' : (w₁.happen (.started label args)).standing.InCharge id := hcharge₁
    obtain ⟨before, hbefore, hallBefore, hnoneBefore⟩ := hready.under hcharge
    obtain ⟨after, hafter, hallAfter, hnoneAfter⟩ := hsteady.under hcharge'
    refine
      { ends := hends
        charged := hcharged
        standing := hsteady.standing.trans hready.standing
        -- the start stands between what the stages before it did and what its actions did
        occurrences := ⟨before ++ ⟨.started label args, w₁.standing⟩ :: after, ?_, ?_,
          .inr ⟨label, className, body, actions, w₁, hreach, ?_⟩⟩
        reports := hsteady.reports.trans hready.reports
        err := hsteady.err.trans hready.err
        noAbort := habort }
    · rw [hafter, World.happen, hbefore]
      simp [World.underCharge]
    · intro o ho
      rcases List.mem_append.mp ho with ho | ho
      · exact hallBefore o ho
      rcases List.mem_cons.mp ho with rfl | ho
      · exact hcharge'
      · exact hallAfter o ho
    · have hstanding : w'.standing = w₁.standing := hsteady.standing
      unfold startsOf at hnoneBefore hnoneAfter ⊢
      simp [List.filter_cons, hnoneBefore, hnoneAfter, hstanding]

/-! ## The run -/

/-- The entry point of a run: the one that is asked for, or else the one that the properties name, or
    else the usual one. An empty name names none. -/
inductive RunsAs (c : Context) : Option String → String → Prop
  | asked {name : String} : name ≠ "" → RunsAs c (some name) name
  | configured {entryPoint : Option String} {name : String} :
    entryPoint.getD "" = "" → c.env.properties.get? "BOOTDRIVER_ENTRY_POINT" = some name → name ≠ "" →
      RunsAs c entryPoint name
  | usual {entryPoint : Option String} :
    entryPoint.getD "" = "" →
    (c.env.properties.get? "BOOTDRIVER_ENTRY_POINT").getD "" = "" →
      RunsAs c entryPoint "app.main:Application"

theorem runsAs_entryPointName {entryPoint : Option String} (hnone : entryPoint.getD "" = "") :
    RunsAs c entryPoint (entryPointName c.env.properties) := by
  unfold entryPointName
  cases hnamed : c.env.properties.get? entryPointVariable with
  | none => exact .usual hnone (by rw [← entryPointVariable, hnamed]; rfl)
  | some name =>
    by_cases hempty : name = ""
    · simp only [if_pos hempty]
      exact .usual hnone (by rw [← entryPointVariable, hnamed]; exact hempty)
    · simp only [if_neg hempty]
      exact .configured hnone hnamed hempty

theorem runsAs_runName (c : Context) (entryPoint : Option String) :
    RunsAs c entryPoint (runName c entryPoint) := by
  unfold runName
  cases entryPoint with
  | none => exact runsAs_entryPointName rfl
  | some name =>
    by_cases hempty : name = ""
    · simp only [if_pos hempty]
      exact runsAs_entryPointName hempty
    · simp only [if_neg hempty]
      exact .asked hempty

/-- What a run makes of the end of its hand-off: an exit status and reports, or an early end that
    passes through. -/
inductive Concludes (r : Reporting) (home : String) (w : World) :
    Except Raised Unit → Except Raised Int → World → Prop
  | finished {w' : World} : Reported r [] w w' → Concludes r home w (.ok ()) (.ok 0) w'
  | failed {w' : World} (f : Fault) :
    f.isA .exception = true →
    Reported r [f.trace, "Installation directory was detected as: " ++ home] w w' →
      Concludes r home w (.error (.fault f)) (.ok 1) w'
  | escaped {w' : World} (f : Fault) :
    f.isA .exception = false → Reported r [] w w' →
      Concludes r home w (.error (.fault f)) (.error (.fault f)) w'
  | exited {w' : World} (code : Json) :
    Reported r [] w w' → Concludes r home w (.error (.exit code)) (.error (.exit code)) w'
  | interrupted {w' : World} :
    Reported r [] w w' → Concludes r home w (.error .interrupt) (.error .interrupt) w'

variable {r : Reporting}

theorem execute_runApplication_refused (hc : w.context? id = some c) (hfailures : c.failures ≠ [])
    (args : List String) (entryPoint : Option String) (r : Reporting) :
    (runApplication id args entryPoint r).execute w =
      (.ok 1, reported w r (failureHeader ++ "\n" ++ formatFailures c.failures)) := by
  simp only [runApplication, execute_bind, execute_context hc, if_pos hfailures, report,
    execute_modify, execute_pure]

/-- A run without failures concludes what its hand-off ended in. -/
theorem runApplication_concludes (hc : w.context? id = some c) (hfailures : c.failures = [])
    {entryPoint : Option String} {handed : Except Raised Unit} {w₁ : World}
    (hrun : (handOff id (runName c entryPoint) args).execute w = (handed, w₁)) :
    ∃ ending w', (runApplication id args entryPoint r).execute w = (ending, w') ∧
      Concludes r c.homeDisplay w handed ending w' ∧ w'.standing = w₁.standing ∧
      w'.output.occurrences = w₁.output.occurrences := by
  have hhands := handsOff hc hrun
  have hnone : Reported r [] w w₁ := .of_same hhands.reports hhands.err
  have hrefused : ¬ c.failures ≠ [] := by simp [hfailures]
  have hwhole : (runApplication id args entryPoint r).execute w =
      (rescue .exception (do handOff id (runName c entryPoint) args; pure 0) fun f => do
        modify (·.notify (.handOffFailed (runName c entryPoint)) (some f))
        report r f.trace
        report r (homeReport c.homeDisplay)
        pure 1).execute w := by
    simp only [runApplication, execute_bind, execute_context hc, if_neg hrefused]
  rw [hwhole, execute_rescue, execute_bind, hrun]
  cases handed with
  | ok => exact ⟨.ok 0, w₁, rfl, .finished hnone, rfl, rfl⟩
  | error raised =>
    cases raised with
    | fault f =>
      simp only
      split
      case isTrue hf =>
        have hlogs := w₁.logs_notify (.handOffFailed (runName c entryPoint)) (some f)
        have hreported := ((hnone.logs hlogs).report f.trace).report (homeReport c.homeDisplay)
        refine ⟨.ok 1, _, rfl, .failed f hf hreported, ?_, ?_⟩
        · rw [reported_standing, reported_standing, hlogs.steady.standing]
        · rw [reported_occurrences, reported_occurrences, hlogs.occurrences]
      case isFalse hf =>
        exact ⟨_, w₁, rfl, .escaped f (Bool.eq_false_iff.mpr hf) hnone, rfl, rfl⟩
    | exit code => exact ⟨.error (.exit code), w₁, rfl, .exited code hnone, rfl, rfl⟩
    | interrupt => exact ⟨.error .interrupt, w₁, rfl, .interrupted hnone, rfl, rfl⟩
    | abort => exact absurd rfl hhands.noAbort

/-- A run of a context with failures gives one report, the header and one trace after the other in
    the order of the failures, ends with the status one, and changes nothing else. Any other run
    hands off to its entry point, stage by stage: the context is in charge at every stage, whenever
    something happens and when the run ends, and its application is started at most once, with the
    arguments given. A hand-off that finishes gives the status zero and no report; an error at any
    stage gives the status one and two reports, its trace and the home; any other early end passes
    through without a report. -/
theorem runApplication_states (hc : w.context? id = some c) (args : List String)
    (entryPoint : Option String) (r : Reporting) :
    ∃ ending w', (runApplication id args entryPoint r).execute w = (ending, w') ∧
      (c.failures ≠ [] → ending = .ok 1 ∧
        Reported r ["Configuration error during init, see exceptions:\n" ++
          "\n".intercalate (c.failures.map Fault.trace)] w w' ∧
        ∃ err reports, w' = { w with output := { w.output with err, reports } }) ∧
      (c.failures = [] → ∃ name handed w₁, RunsAs c entryPoint name ∧
        HandsOff id name args c w handed w₁ ∧
        Concludes r c.homeDisplay w handed ending w' ∧ w'.standing.InCharge id ∧
        w'.output.occurrences = w₁.output.occurrences) := by
  by_cases hfailures : c.failures = []
  · rcases hhand : (handOff id (runName c entryPoint) args).execute w with ⟨handed, w₁⟩
    obtain ⟨ending, w', hrun, hconcludes, hstanding, hoccurrences⟩ :=
      runApplication_concludes (r := r) hc hfailures hhand
    have hhands := handsOff hc hhand
    refine ⟨ending, w', hrun, fun h => absurd hfailures h, fun _ => ?_⟩
    refine ⟨_, handed, w₁, runsAs_runName c entryPoint, hhands, hconcludes, ?_, hoccurrences⟩
    rw [hstanding, hhands.standing]
    exact w.inCharge_underCharge id
  · have hrun := execute_runApplication_refused hc hfailures args entryPoint r
    refine ⟨_, _, hrun, fun _ => ⟨rfl, ?_, reported_eq w r _⟩, fun h => absurd h hfailures⟩
    exact (Reported.of_same rfl rfl).report _

/-- A class whose `start` reports a text. -/
def greeter : ClassBody := .mk none (some (.method [.note "started"])) [] [] []

/-- A class whose `start` raises an error. -/
def breaker : ClassBody :=
  .mk none (some (.method [.raise (Error.raised .value "out of order" : Error)])) [] [] []

/-- A context whose loader has one directory. -/
def greeterContext : Context where
  env := {}
  home := none
  path := { locators := [⟨"/app", "file:///app"⟩] }

/-- A process with that context, and two applications in the directory. -/
def greeterWorld : World where
  host :=
    { cwd := "/work"
      files :=
        { entries :=
            [(["app"],
              { kind := .directory true
                modules :=
                  [("app", {}),
                   ("app.main", { attributes := [("Application", .class greeter),
                     ("Breaker", .class breaker)] })] })]
          distinct := by decide
          named := by decide } }
  style := .ofVariables [] (.ofInt 0)
  contexts := [⟨greeterContext, false⟩]

/-- A context with two failures. -/
def troubledContext : Context :=
  { greeterContext with
    failures :=
      [{ error := .archiveFailed "no locator for a.zip" none, causes := [.noLocation "/lib/a.zip"] },
        { error := .archiveFailed "no locator for b.zip" none, causes := [.noLocation "/lib/b.zip"] }] }

/-- The same process with that context. -/
def troubledWorld : World := { greeterWorld with contexts := [⟨troubledContext, false⟩] }

/-- The exit status of a run, what has happened and the reports. -/
def outcome (run : Except Raised Int × World) : Option Int × List Event × List String :=
  (run.1.toOption, run.2.output.occurrences.map Occurrence.event, run.2.output.reports)

/-- The greeter is started once, under its context, and ends with the status zero and no report; the
    breaker ends with the status one, its trace and the home; and nothing happens in a run that is
    refused, whose one report has a trace for each of the failures. -/
theorem runApplication_states_greeter :
    (greeterWorld.context? 0 = some greeterContext ∧ greeterContext.failures = []) ∧
    (∃ w₁ w', (runApplication 0 ["x"] none .collected).execute greeterWorld = (.ok 0, w') ∧
      HandsOff 0 "app.main:Application" ["x"] greeterContext greeterWorld (.ok ()) w₁ ∧
      w'.output.occurrences.map Occurrence.event =
        [.loaded "app", .loaded "app.main", .started "app.main:Application" ["x"],
          .noted "app.main:Application" "started"] ∧
      w'.output.reports = [] ∧ w'.standing.InCharge 0) ∧
    (∃ w', (runApplication 0 [] (some "app.main:Breaker") .collected).execute greeterWorld =
        (.ok 1, w') ∧
      w'.output.occurrences.map Occurrence.event =
        [.loaded "app", .loaded "app.main", .started "app.main:Breaker" []] ∧
      w'.output.reports =
        ["ValueError: out of order\n", "Installation directory was detected as: <unknown>"] ∧
      w'.standing.InCharge 0) ∧
    (troubledWorld.context? 0 = some troubledContext ∧
      ∃ w', (runApplication 0 ["x"] none .collected).execute troubledWorld = (.ok 1, w') ∧
        w'.output.occurrences = [] ∧
        w'.output.reports =
          ["Configuration error during init, see exceptions:\n" ++
            "bootdriver.errors.MalformedLocatorError: Cannot build locator for '/lib/a.zip'\n" ++
            "\nThe above exception was the direct cause of the following exception:\n\n" ++
            "bootdriver.errors.ArchiveLoadError: no locator for a.zip\n" ++ "\n" ++
            "bootdriver.errors.MalformedLocatorError: Cannot build locator for '/lib/b.zip'\n" ++
            "\nThe above exception was the direct cause of the following exception:\n\n" ++
            "bootdriver.errors.ArchiveLoadError: no locator for b.zip\n"]) := by
  have hc : greeterWorld.context? 0 = some greeterContext := rfl
  have hfailures : greeterContext.failures = [] := rfl
  have htroubled : troubledWorld.context? 0 = some troubledContext := rfl
  refine ⟨⟨hc, hfailures⟩, ?_, ?_, htroubled, ?_⟩
  · have houtcome : outcome ((runApplication 0 ["x"] none .collected).execute greeterWorld) =
        (some 0, [.loaded "app", .loaded "app.main", .started "app.main:Application" ["x"],
          .noted "app.main:Application" "started"], []) := by decide +kernel
    obtain ⟨ending, w', hrun, -, hhanded⟩ := runApplication_states hc ["x"] none .collected
    obtain ⟨name, handed, w₁, hname, hhands, hconcludes, hcharge, -⟩ := hhanded hfailures
    obtain rfl : name = "app.main:Application" := by
      cases hname with
      | configured _ hnamed _ => cases hnamed
      | usual _ _ => rfl
    rw [hrun] at houtcome
    obtain ⟨hstatus, hevents, hreports⟩ : ending.toOption = some 0 ∧ _ ∧ _ := by
      simpa [outcome] using houtcome
    cases hconcludes with
    | finished _ => exact ⟨w₁, w', hrun, hhands, hevents, hreports, hcharge⟩
    | failed f _ _ => cases hstatus
    | escaped f _ _ => cases hstatus
    | exited code _ => cases hstatus
    | interrupted _ => cases hstatus
  · have houtcome : outcome
        ((runApplication 0 [] (some "app.main:Breaker") .collected).execute greeterWorld) =
        (some 1, [.loaded "app", .loaded "app.main", .started "app.main:Breaker" []],
          ["ValueError: out of order\n", "Installation directory was detected as: <unknown>"]) := by
      decide +kernel
    obtain ⟨ending, w', hrun, -, hhanded⟩ :=
      runApplication_states hc [] (some "app.main:Breaker") .collected
    obtain ⟨name, handed, w₁, -, -, hconcludes, hcharge, -⟩ := hhanded hfailures
    rw [hrun] at houtcome
    obtain ⟨hstatus, hevents, hreports⟩ : ending.toOption = some 1 ∧ _ ∧ _ := by
      simpa [outcome] using houtcome
    cases hconcludes with
    | failed f _ _ => exact ⟨w', hrun, hevents, hreports, hcharge⟩
    | finished _ => cases hstatus
    | escaped f _ _ => cases hstatus
    | exited code _ => cases hstatus
    | interrupted _ => cases hstatus
  · obtain ⟨ending, w', hrun, hrefused, -⟩ := runApplication_states htroubled ["x"] none .collected
    obtain ⟨rfl, ⟨hreports, -⟩, err, reports, rfl⟩ := hrefused (by decide)
    refine ⟨_, hrun, rfl, ?_⟩
    rw [hreports]
    decide +kernel

end Launch

end Launcher
