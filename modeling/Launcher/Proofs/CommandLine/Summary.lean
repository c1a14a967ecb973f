-- SUMMARY: The search path command prints one document about the context that a launch would use, and leaves the process alone.
import Launcher.CommandLine.Paths
import Launcher.Proofs.Assembly.Preparation
import Launcher.Proofs.CommandLine.Status
import Launcher.Proofs.HandOff.Run
import Launcher.Proofs.Json.RoundTrip

/-!
# The summary as a document

Discovery and assembly are the same for the command as for a launch, and whatever they have to say
is below the level that the command sets. So nothing but the document is printed. The document is
read back as what the context holds, and the exit status says whether a run would be refused.
-/
namespace Launcher

/-! ## Silence -/

/-- The loggers that notices go to. -/
def Notice.sources : List String :=
  ["bootdriver.scanner", "bootdriver.loader", "bootdriver.classpath", "bootdriver.home",
    "bootdriver.driver"]

theorem Notice.source_mem_sources (n : Notice) : n.source ∈ sources := by
  cases n <;> simp [source, sources]

theorem Severity.rank_le (s : Severity) : s.rank ≤ 40 := by
  cases s <;> decide

namespace Logging

variable {l : Logging}

/-- The loggers that notices go to start without a level and without a logger above them. -/
theorem initial_logger? :
    ∀ name ∈ Notice.sources,
      (initial.logger? name).map (fun logger => (logger.level, logger.parent)) =
        some (.unset, none) := by
  decide +kernel

/-- Where no logger has been configured, notices go by the level of the root. -/
theorem effective_source (hknown : l.known = initial.known) (n : Notice) :
    l.effective n.source = l.root.rank := by
  obtain ⟨logger, hlogger, hfields⟩ :=
    Option.map_eq_some_iff.mp (initial_logger? n.source n.source_mem_sources)
  obtain ⟨hlevel, hparent⟩ := Prod.mk.inj hfields
  have hfound : l.logger? n.source = some logger := by rw [← hlogger, logger?, logger?, hknown]
  simp [effective, hfound, effectiveFrom, hlevel, hparent, Level.unset]

/-- No notice passes a root that lets only the gravest records pass. -/
theorem isEnabled_source (hknown : l.known = initial.known) (hroot : 40 < l.root.rank)
    (n : Notice) : l.isEnabled n.source n.severity.rank = false := by
  have hrank := n.severity.rank_le
  have hbelow : ¬ l.root.rank ≤ n.severity.rank := by omega
  simp [isEnabled, effective_source hknown, hbelow]

end Logging

namespace World

variable {w : World}

/-- No notice passes. -/
def Quiet (w : World) : Prop := ∀ n : Notice, w.logging.isEnabled n.source n.severity.rank = false

theorem Quiet.notifyAll_out (hquiet : w.Quiet) (ns : List Notice) :
    (w.notifyAll ns).output.out = w.output.out := by
  unfold notifyAll
  induction ns generalizing w with
  | nil => rfl
  | cons n ns ih =>
    have hlogging : (w.notify n none).logging = w.logging := by
      obtain ⟨out, records, heq⟩ := w.logs_notify n none
      rw [heq]
    have hkept : (w.notify n none).Quiet := fun m => hlogging ▸ hquiet m
    rw [List.foldl_cons, ih hkept]
    exact log_out_of_not_isEnabled (hquiet n)

/-- The process when logging was set up for the gravest records alone. -/
def muted (w : World) : World :=
  { w with logging := { w.logging.installDefault with root := .number 50 } }

theorem quiet_muted (hknown : w.logging.known = Logging.initial.known) : w.muted.Quiet :=
  Logging.isEnabled_source hknown (show (40 : Int) < 50 by decide)

/-- No logger has been configured, and nothing was handed off. -/
structure Fresh (w : World) : Prop where
  loggers : w.logging.known = Logging.initial.known
  registered : w.registered = none

end World

/-! ## The document -/

namespace Json

/-- The text is one document, from its opening brace to its closing one, and is read back as the
    value. -/
structure IsDocument (text : String) (v : Json) : Prop where
  opens : ∃ r, text.toList = '{' :: r
  closes : ∃ r, text.toList = r ++ ['}']
  reads : ofText? text = some v

theorem writeFieldLines_closes (depth : Nat) (fs : List (String × Json)) :
    ∃ r, writeFieldLines depth fs = r ++ ['}'] := by
  induction fs with
  | nil => exact ⟨_, rfl⟩
  | cons f fs ih =>
    obtain ⟨r, hr⟩ := ih
    obtain ⟨k, v⟩ := f
    rw [writeFieldLines, hr, ← List.append_assoc]
    exact ⟨_, rfl⟩

/-- An object is written as one document. -/
theorem isDocument_toLines (k : String) (v : Json) (fs : List (String × Json)) :
    IsDocument (toLines (.object ((k, v) :: fs))) (.object ((k, v) :: fs)) where
  opens := by
    rw [toLines, String.toList_ofList, writeLines]
    exact ⟨_, rfl⟩
  closes := by
    obtain ⟨r, hr⟩ := writeFieldLines_closes 0 fs
    rw [toLines, String.toList_ofList, writeLines, hr, ← List.append_assoc]
    exact ⟨_, rfl⟩
  reads := (ofText?_toLines _).1

end Json

namespace CommandLine

open Launch

/-! ## The command -/

variable {w w₁ : World} {id : Nat} {c : Context}

theorem execute_readPathsRequest_json (w : World) :
    (readPathsRequest ["--json"]).execute w = (.ok { json := true }, w) := rfl

theorem execute_configureLogging_critical (w : World) :
    (configureLogging (.string "CRITICAL") none).execute w = (.ok false, w.muted) := rfl

/-- The command prints the summary of the context that discovery and assembly come to. -/
theorem execute_paths_json (hc : (w.host.prepare w.environment).result = .ok c) :
    (paths ["--json"]).execute w =
      (.ok (if c.failures = [] then 0 else 1),
        (w.muted.notifyAll (w.host.prepare w.environment).notices).print
          ((Summary.ofContext c).toJson.toLines ++ "\n")) := by
  have hmuted : w.muted.host.prepare w.muted.environment = w.host.prepare w.environment := rfl
  simp only [paths, execute_bind, execute_readPathsRequest_json, PathsRequest.level, if_true,
    execute_configureLogging_critical, execute_get, noted, execute_modify, hmuted, hc, lift,
    execute_pure, Summary.print]

/-- A run is refused: it ends with the status one before anything was handed off. -/
def Refuses (id : Nat) (args : List String) (entryPoint : Option String) (r : Reporting)
    (w : World) : Prop :=
  ∃ w', (runApplication id args entryPoint r).execute w = (.ok 1, w') ∧
    w'.standing = w.standing ∧ w'.output.occurrences = w.output.occurrences

/-- Where nothing was handed off, a run is refused exactly when its context has failures. -/
theorem refuses_iff (hc : w.context? id = some c) (hregistered : w.registered = none)
    (args : List String) (entryPoint : Option String) (r : Reporting) :
    Refuses id args entryPoint r w ↔ c.failures ≠ [] := by
  constructor
  · rintro ⟨w', hrun, hstanding, -⟩ hnone
    -- without failures the run puts its context in charge, and before it none was registered
    rcases hhand : (handOff id (runName c entryPoint) args).execute w with ⟨handed, w₁⟩
    obtain ⟨_, _, hrun', -, hcharged, -⟩ := runApplication_concludes (r := r) hc hnone hhand
    rw [hrun] at hrun'
    cases hrun'
    have hheld : some id = w.registered :=
      congrArg Standing.registered
        ((handsOff hc hhand).standing.symm.trans (hcharged.symm.trans hstanding))
    rw [hregistered] at hheld
    cases hheld
  · intro hfailures
    refine ⟨_, execute_runApplication_refused hc hfailures args entryPoint r, ?_, ?_⟩
    · exact reported_standing w r _
    · exact reported_occurrences w r _

/-- In a process where nothing was configured or handed off and for which start-up ends with a
    context, the command prints one document and the end of its line, and nothing else. The document
    is read back as what the context of that start-up holds. The exit status is one exactly when the
    context has failures, and that is when a run of it is refused before anything is handed off. The
    variables, the finders, the current loader and the registered context are as they were. -/
theorem paths_json_tells (hfresh : w.Fresh)
    (hstart : (prepare w.environment true).execute w = (.ok id, w₁)) :
    ∃ c text w', w₁.context? id = some c ∧
      (paths ["--json"]).execute w = (.ok (if c.failures = [] then 0 else 1), w') ∧
      w'.output.out = w.output.out ++ (text ++ "\n") ∧ w'.output.err = w.output.err ∧
      Json.IsDocument text
        (.object [("home", .string c.homeDisplay), ("search_path", .string c.path.value),
          ("locators", .strings (c.path.locators.map Locator.path)),
          ("failures", .strings (c.failures.map Fault.message)),
          ("diagnostics", .strings c.diagnostics)]) ∧
      (∀ args entryPoint r, Refuses id args entryPoint r w₁ ↔ c.failures ≠ []) ∧
      w'.vars = w.vars ∧ w'.standing = w.standing ∧ w'.imports = w.imports ∧
      w'.contexts = w.contexts := by
  obtain ⟨c, hc, hheld⟩ := execute_prepare hstart
  have hquiet := World.quiet_muted hfresh.loggers
  have hout := hquiet.notifyAll_out (w.host.prepare w.environment).notices
  obtain ⟨out, records, hlogs⟩ := w.muted.logs_notifyAll (w.host.prepare w.environment).notices
  -- start-up holds a context and does not register it
  have hregistered : w₁.registered = none := by
    rw [execute_prepare_eq hc] at hstart
    cases hstart
    obtain ⟨out, records, hlogs⟩ := w.logs_notifyAll (w.host.prepare w.environment).notices
    rw [hlogs]
    exact hfresh.registered
  refine ⟨c, _, _, hheld, execute_paths_json hc, ?_, ?_, Json.isDocument_toLines _ _ _,
    refuses_iff hheld hregistered, ?_⟩
  · rw [World.print, hout]
    rfl
  · rw [World.print, hlogs]
    rfl
  · rw [World.print, hlogs]
    exact ⟨rfl, rfl, rfl, rfl⟩

/-- A process with an archive whose name is not plain, and one with a NUL in its name. -/
def oddWorld : World where
  host :=
    { cwd := "/work"
      files :=
        { entries :=
            [(["opt"], .plainDirectory), (["opt", "lib"], .plainDirectory),
              (["opt", "lib", "a\"é𝄞\n.zip"], { kind := .file .malformed }),
              (["opt", "lib", "ext"], .plainDirectory),
              (["opt", "lib", "ext", "b\x00.zip"], { kind := .file .malformed })]
          distinct := by decide
          named := by decide } }
  vars := [(homeVariable, "/opt")]
  style := .ofVariables [] (.ofInt 0)

/-- The process when its context has been prepared. -/
def oddWorldPrepared : World := ((prepare oddWorld.environment true).execute oddWorld).2

theorem paths_json_tells_odd :
    (oddWorld.Fresh ∧ (prepare oddWorld.environment true).execute oddWorld = (.ok 0, oddWorldPrepared)) ∧
    ∃ c text w', oddWorldPrepared.context? 0 = some c ∧
      (paths ["--json"]).execute oddWorld = (.ok 1, w') ∧ w'.output.out = text ++ "\n" ∧
      (∃ r, text.toList = '{' :: r) ∧ Refuses 0 [] none .collected oddWorldPrepared := by
  have hfresh : oddWorld.Fresh := ⟨rfl, rfl⟩
  have hok : ((prepare oddWorld.environment true).execute oddWorld).1.toOption = some 0 := by
    decide +kernel
  have hfailures : (oddWorldPrepared.context? 0).map (·.failures.length) = some 1 := by
    decide +kernel
  have hstart := execute_of_toOption hok
  obtain ⟨c, text, w', hheld, hrun, hout, -, hdocument, hrefuses, -⟩ :=
    paths_json_tells hfresh hstart
  have hsome : c.failures ≠ [] := by
    rw [oddWorldPrepared, hheld] at hfailures
    exact List.ne_nil_of_length_eq_add_one (Option.some.inj hfailures)
  rw [if_neg hsome] at hrun
  refine ⟨⟨hfresh, hstart⟩, c, text, w', hheld, hrun, ?_, hdocument.opens, ?_⟩
  · simpa [oddWorld] using hout
  · exact (hrefuses [] none .collected).mpr hsome

end CommandLine

end Launcher
