-- SUMMARY: What an entry point refers to: the attributes of its module are walked to their end, however the name is written.
import Launcher.Proofs.EntryPoint.Naming

/-!
# The attributes of an entry point

Behind the module of an entry point stand attributes, which are looked up one after another. A
look-up can do anything that code can do, and end in any way. The last attribute is what the entry
point refers to, unless one of them is missing: then the entry point is at fault. Any other end on
the way is left as it is. A single attribute can as well be written behind a dot; that makes no
difference to what is found or refused.
-/
namespace Launcher

namespace Launch

open EntryPoint

variable {id : Nat} {w w' w'' : World} {name : String} {names : List String}
  {o next last : Object} {raised : Raised} {e : EntryPoint}

/-! ## One look-up -/

/-- What an object has by itself under a name, or the error of not having it. -/
def ownAnswer (i : Imports) (o : Object) (name : String) : Except Raised Object :=
  (i.ownAttribute o name).mapError fun e : Error => .fault e

theorem execute_check_own (i : Imports) (o : Object) (name : String) (w : World) :
    (check (i.ownAttribute o name)).execute w = (ownAnswer i o name, w) := by
  unfold ownAnswer
  cases i.ownAttribute o name <;> rfl

/-- A look-up that nobody watches gives what the object has by itself, and does nothing. -/
theorem execute_attributeOf_unwatched (h : w.imports.watch? o name = none) :
    (attributeOf o name).execute w = (ownAnswer w.imports o name, w) := by
  simp only [attributeOf, importer, lookUp, alert, execute_bind, execute_get, execute_pure, h,
    execute_check_own]

/-- A look-up that is watched begins with what the watcher does. If that ends early, in whatever
    way, so does the look-up. -/
theorem execute_attributeOf_watched {label : String} {actions : List Action}
    (h : w.imports.watch? o name = some (label, actions)) :
    (attributeOf o name).execute w =
      match (performActions label actions).execute w with
      | (.ok (), w) => (ownAnswer w.imports o name, w)
      | (.error raised, w) => (.error raised, w) := by
  simp only [attributeOf, performActions, importer, lookUp, alert, execute_bind, execute_get,
    execute_pure, h]
  rcases (Action.performAll (importWithin (w.importDepth + 1)) label actions).execute w with
    ⟨raised | _, w'⟩
  · rfl
  · simp only [execute_check_own]

/-! ## One attribute after another -/

/-- Looked up one after another, the names lead from an object to another one. -/
inductive Leads : World → Object → List String → Object → World → Prop
  | here {w : World} {o : Object} : Leads w o [] o w
  | step {w w' w'' : World} {o next last : Object} {name : String} {names : List String} :
    (attributeOf o name).execute w = (.ok next, w') → Leads w' next names last w'' →
      Leads w o (name :: names) last w''

/-- Looked up one after another, the names lead to one whose look-up ends early. -/
inductive Breaks : World → Object → List String → Raised → World → Prop
  | here {w w' : World} {o : Object} {name : String} {names : List String} {raised : Raised} :
    (attributeOf o name).execute w = (.error raised, w') → Breaks w o (name :: names) raised w'
  | step {w w' w'' : World} {o next : Object} {name : String} {names : List String}
    {raised : Raised} :
    (attributeOf o name).execute w = (.ok next, w') → Breaks w' next names raised w'' →
      Breaks w o (name :: names) raised w''

theorem execute_walk_cons (o : Object) (name : String) (names : List String) (w : World) :
    (walk o (name :: names)).execute w =
      match (attributeOf o name).execute w with
      | (.ok next, w) => (walk next names).execute w
      | (.error raised, w) => (.error raised, w) := by
  rw [walk, execute_bind]
  rcases (attributeOf o name).execute w with ⟨_ | _, _⟩ <;> rfl

theorem execute_walk_ok_iff : (walk o names).execute w = (.ok last, w') ↔ Leads w o names last w' := by
  induction names generalizing o w with
  | nil =>
    constructor
    · rintro ⟨⟩
      exact .here
    · rintro ⟨⟩
      rfl
  | cons name names ih =>
    rw [execute_walk_cons]
    constructor
    · intro hwalk
      rcases hnext : (attributeOf o name).execute w with ⟨raised | next, w₁⟩
      · rw [hnext] at hwalk
        cases hwalk
      · rw [hnext] at hwalk
        exact .step hnext (ih.mp hwalk)
    · intro hleads
      cases hleads with
      | step hnext hleads =>
        rw [hnext]
        exact ih.mpr hleads

theorem execute_walk_error_iff :
    (walk o names).execute w = (.error raised, w') ↔ Breaks w o names raised w' := by
  induction names generalizing o w with
  | nil =>
    constructor
    · rintro ⟨⟩
    · rintro ⟨⟩
  | cons name names ih =>
    rw [execute_walk_cons]
    constructor
    · intro hwalk
      rcases hnext : (attributeOf o name).execute w with ⟨raised | next, w₁⟩
      · rw [hnext] at hwalk
        cases hwalk
        exact .here hnext
      · rw [hnext] at hwalk
        exact .step hnext (ih.mp hwalk)
    · intro hbreaks
      cases hbreaks with
      | here herror => rw [herror]
      | step hnext hbreaks =>
        rw [hnext]
        exact ih.mpr hbreaks

/-! ## Resolving -/

/-- The end is that of a look-up of something that is not there. -/
def IsMissing (raised : Raised) : Prop := ∃ f, raised = .fault f ∧ f.isA .missingAttribute = true

/-- How resolving ends once the module of an entry point is imported. The object that its attributes
    lead to is the answer. The entry point is at fault just if one of them is missing: then the error
    of that look-up, with what led to it, stands behind the fault. Any other end of a look-up is left
    as it is, and nothing is done after it. -/
structure EndsWalk (w : World) (name : String) (e : EntryPoint) (names : List String)
    (answer : Except Raised Object) (after : World) : Prop where
  found : ∀ o w', (answer = .ok o ∧ after = w') ↔ Leads w (.module e.moduleName) names o w'
  broken : (∃ raised, answer = .error raised) ↔
    ∃ raised w', Breaks w (.module e.moduleName) names raised w'
  atFault : (∃ raised, answer = .error raised ∧
      ¬ Breaks w (.module e.moduleName) names raised after) ↔
    ∃ raised w', Breaks w (.module e.moduleName) names raised w' ∧ IsMissing raised
  missing : ∀ f w', Breaks w (.module e.moduleName) names (.fault f) w' →
    f.isA .missingAttribute = true →
    answer = .error (.fault (.because (.missingEntryPoint e.moduleName e.path name) f)) ∧ after = w'
  other : ∀ raised w', Breaks w (.module e.moduleName) names raised w' → ¬ IsMissing raised →
    answer = .error raised ∧ after = w'

theorem blamed_of_missing {f : Fault} (h : f.isA .missingAttribute = true) :
    blamed e name (.fault f) = .fault (.because (.missingEntryPoint e.moduleName e.path name) f) :=
  if_pos h

theorem blamed_of_other (h : ¬ IsMissing raised) : blamed e name raised = raised := by
  cases raised with
  | fault f => exact if_neg fun hf => h ⟨f, rfl, hf⟩
  | _ => rfl

/-- An entry point that is at fault has one more error in its chain than the look-up ended in. -/
theorem blamed_ne_of_missing (h : IsMissing raised) : blamed e name raised ≠ raised := by
  obtain ⟨f, rfl, hf⟩ := h
  rw [blamed_of_missing hf]
  intro heq
  have hcauses : f.error :: f.causes = f.causes := congrArg Fault.causes (Raised.fault.inj heq)
  simp at hcauses

theorem endsWalk (name : String) {answer : Except Raised Object} {after : World}
    (h : (walk (.module e.moduleName) e.attributes).execute w = (answer, after)) :
    EndsWalk w name e e.attributes (answer.mapError (blamed e name)) after := by
  cases answer with
  | ok o =>
    -- names that lead somewhere do not break
    have hwhole {raised : Raised} {w' : World} :
        ¬ Breaks w (.module e.moduleName) e.attributes raised w' := by
      rw [← execute_walk_error_iff, h]
      simp
    change EndsWalk w name e e.attributes (.ok o) after
    constructor
    · intro o' w'
      rw [← execute_walk_ok_iff, h]
      simp
    · simp [hwhole]
    · simp [hwhole]
    · exact fun f w' hbreaks => absurd hbreaks hwhole
    · exact fun raised w' hbreaks => absurd hbreaks hwhole
  | error raised =>
    have hbreaks : Breaks w (.module e.moduleName) e.attributes raised after :=
      execute_walk_error_iff.mp h
    have hunique {raised' : Raised} {w' : World}
        (h' : Breaks w (.module e.moduleName) e.attributes raised' w') :
        raised' = raised ∧ w' = after := by
      rw [← execute_walk_error_iff, h] at h'
      cases h'
      exact ⟨rfl, rfl⟩
    change EndsWalk w name e e.attributes (.error (blamed e name raised)) after
    constructor
    · intro o' w'
      rw [← execute_walk_ok_iff, h]
      simp
    · exact ⟨fun _ => ⟨raised, after, hbreaks⟩, fun _ => ⟨_, rfl⟩⟩
    · constructor
      · rintro ⟨_, ⟨⟩, hnew⟩
        refine ⟨raised, after, hbreaks, Classical.byContradiction fun hother => ?_⟩
        rw [blamed_of_other hother] at hnew
        exact hnew hbreaks
      · rintro ⟨raised', w', h', hmissing⟩
        obtain ⟨rfl, rfl⟩ := hunique h'
        exact ⟨_, rfl, fun hnew => blamed_ne_of_missing hmissing (hunique hnew).1⟩
    · intro f w' h' hmissing
      obtain ⟨rfl, rfl⟩ := hunique h'
      exact ⟨by rw [blamed_of_missing hmissing], rfl⟩
    · intro raised' w' h' hother
      obtain ⟨rfl, rfl⟩ := hunique h'
      exact ⟨by rw [blamed_of_other hother], rfl⟩

/-- Two ends are alike: they give the same object, or errors of one kind and message with the same
    errors behind them, or they end the process in the same way. -/
inductive Alike : Except Raised Object → Except Raised Object → Prop
  | found (o : Object) : Alike (.ok o) (.ok o)
  | fault {f f' : Fault} : f.error.kind = f'.error.kind → f.message = f'.message →
    f.causes = f'.causes → Alike (.error (.fault f)) (.error (.fault f'))
  | raised (r : Raised) : Alike (.error r) (.error r)

/-- An entry point is at fault in the same way whatever its name looks like. -/
theorem alike_blamed (e : EntryPoint) (name name' : String) (answer : Except Raised Object) :
    Alike (answer.mapError (blamed e name)) (answer.mapError (blamed e name')) := by
  cases answer with
  | ok o => exact .found o
  | error raised =>
    change Alike (.error (blamed e name raised)) (.error (blamed e name' raised))
    by_cases hmissing : IsMissing raised
    · obtain ⟨f, rfl, hf⟩ := hmissing
      rw [blamed_of_missing hf, blamed_of_missing hf]
      exact .fault rfl rfl rfl
    · rw [blamed_of_other hmissing, blamed_of_other hmissing]
      exact .raised raised

/-- Two names of one entry point are resolved alike, and leave the same world. -/
theorem alike_resolve {name' : String} (h : Named name e) (h' : Named name' e) :
    Alike ((resolve id name).execute w).1 ((resolve id name').execute w).1 ∧
      ((resolve id name).execute w).2 = ((resolve id name').execute w).2 := by
  have hproceeds : Proceeds id name e w := proceeds_of_ofName? (ofName?_of_named h)
  have hproceeds' : Proceeds id name' e w := proceeds_of_ofName? (ofName?_of_named h')
  obtain ⟨ending, w', himport, hrun⟩ := hproceeds
  obtain ⟨ending', w'', himport', hrun'⟩ := hproceeds'
  rw [himport] at himport'
  cases himport'
  rw [hrun, hrun']
  cases ending with
  | error raised => exact ⟨.raised raised, rfl⟩
  | ok origin => exact ⟨alike_blamed e name name' _, rfl⟩

/-- A module and names behind a colon are resolved by importing the module, with the loader active,
    and looking the names up one after another from there. An import that ends early ends the whole
    as it is. A single name can as well stand behind a dot: both are resolved alike, and leave the
    same world, so the same state of importing. -/
theorem resolve_walks_attributes (id : Nat) (w : World) {moduleName : String}
    (hmodule : moduleName ≠ "") (hcolon : Text.has ':' moduleName = false) :
    (∀ names : List String, (∀ n ∈ names, Text.has '.' n = false ∧ Text.has ':' n = false) →
      ".".intercalate names ≠ "" →
      let name := moduleName ++ ":" ++ ".".intercalate names
      ∃ ending w', (importModule moduleName).execute { w with imports := w.imports.activate id } =
          (ending, w') ∧
        (∀ raised, ending = .error raised → (resolve id name).execute w = (.error raised, w')) ∧
        (∀ origin, ending = .ok origin → ∃ answer after,
          (resolve id name).execute w = (answer, after) ∧
          EndsWalk w' name ⟨moduleName, ".".intercalate names⟩ names answer after)) ∧
    (∀ single : String, single ≠ "" → Text.has '.' single = false → Text.has ':' single = false →
      Alike ((resolve id (moduleName ++ "." ++ single)).execute w).1
          ((resolve id (moduleName ++ ":" ++ single)).execute w).1 ∧
        ((resolve id (moduleName ++ "." ++ single)).execute w).2 =
          ((resolve id (moduleName ++ ":" ++ single)).execute w).2) := by
  constructor
  · intro names hnames hpath name
    have hnonempty : names ≠ [] := by
      rintro rfl
      exact hpath rfl
    have hattributes : EntryPoint.attributes ⟨moduleName, ".".intercalate names⟩ = names :=
      Text.pieces_intercalate (by rfl) hnonempty fun n hn => (hnames n hn).1
    have hnamed : Named name ⟨moduleName, ".".intercalate names⟩ :=
      ⟨.colon hcolon, hmodule, hpath⟩
    have hproceeds : Proceeds id name ⟨moduleName, ".".intercalate names⟩ w :=
      proceeds_of_ofName? (ofName?_of_named hnamed)
    obtain ⟨ending, w', himport, hrun⟩ := hproceeds
    refine ⟨ending, w', himport, ?_, ?_⟩
    · rintro raised rfl
      exact hrun
    · rintro origin rfl
      refine ⟨_, _, hrun, ?_⟩
      have hends := endsWalk name (w := w') (e := ⟨moduleName, ".".intercalate names⟩) rfl
      rw [hattributes] at hends ⊢
      exact hends
  · intro single hne hdot hsingle
    have hdotted : Named (moduleName ++ "." ++ single) ⟨moduleName, single⟩ :=
      ⟨.dot hcolon hsingle hdot, hmodule, hne⟩
    exact alike_resolve hdotted ⟨.colon hcolon, hmodule, hne⟩

/-- A class inside a class, with watchers: looking one attribute up is refused, another asks for the
    process to end, and a third seems not to be there. -/
def toolBody : ClassBody :=
  .mk none none
    [("Part", .class (.mk none none [("size", .value (.int 3)), ("hidden", .value (.int 4))]
      [("broken", [.raise (Error.raised .value "out of order" : Error)]), ("last", [.exit (.int 7)]),
        ("hidden", [.raise (Error.raised .missingAttribute "nothing" : Error)])] []))] [] []

/-- A process with an archive that holds a module in a package, with that class. -/
def kitWorld : World where
  host :=
    { cwd := "/"
      files :=
        { entries :=
            [(["kit.zip"],
              { kind := .file .malformed
                modules :=
                  [("app", {}), ("app.kit", { attributes := [("Tool", .class toolBody)] })] })]
          distinct := by decide
          named := by decide } }
  style := .ofVariables [] (.ofInt 0)
  contexts :=
    [⟨{ env := {}, home := none, path := { locators := [⟨"/kit.zip", "file:///kit.zip"⟩] } }, false⟩]

/-- That process when the module is imported. -/
def kitLoaded : World :=
  ((importModule "app.kit").execute { kitWorld with imports := kitWorld.imports.activate 0 }).2

/-- The fault that an answer is, if it is one. -/
def faultOf : Except Raised Object → Option Fault
  | .error (.fault f) => some f
  | _ => none

/-- Is the answer the whole number three? -/
def isThree : Except Raised Object → Bool
  | .ok (.value (.int 3) _) => true
  | _ => false

/-- Does the answer ask to exit with seven? -/
def exitsWithSeven : Except Raised Object → Bool
  | .error (.exit (.int 7)) => true
  | _ => false

theorem breaks_of_faultOf {f : Fault} (h : faultOf ((walk o names).execute w).1 = some f) :
    ∃ w', Breaks w o names (.fault f) w' := by
  unfold faultOf at h
  split at h
  case h_1 f' hanswer =>
    cases h
    exact ⟨_, execute_walk_error_iff.mp (Prod.ext hanswer rfl)⟩
  · cases h

theorem breaks_of_exitsWithSeven (h : exitsWithSeven ((walk o names).execute w).1 = true) :
    ∃ w', Breaks w o names (.exit (.int 7)) w' := by
  unfold exitsWithSeven at h
  split at h
  case h_1 hanswer => exact ⟨_, execute_walk_error_iff.mp (Prod.ext hanswer rfl)⟩
  · cases h

theorem resolve_walks_attributes_kit :
    ("app.kit" ≠ "" ∧ Text.has ':' "app.kit" = false) ∧
    (importModule "app.kit").execute { kitWorld with imports := kitWorld.imports.activate 0 } =
      (.ok "/kit.zip", kitLoaded) ∧
    (∃ o w', Leads kitLoaded (.module "app.kit") ["Tool", "Part", "size"] o w' ∧
      isThree (.ok o) = true ∧
      (resolve 0 "app.kit:Tool.Part.size").execute kitWorld = (.ok o, w')) ∧
    (∃ w', (resolve 0 "app.kit:Tool.Part.broken").execute kitWorld =
      (.error (.fault (Error.raised .value "out of order" : Error)), w')) ∧
    (∃ w', (resolve 0 "app.kit:Tool.Part.last").execute kitWorld = (.error (.exit (.int 7)), w')) ∧
    (∃ w', (resolve 0 "app.kit:Tool.Part.hidden").execute kitWorld =
      (.error (.fault (.because
        (.missingEntryPoint "app.kit" "Tool.Part.hidden" "app.kit:Tool.Part.hidden")
        (Error.raised .missingAttribute "nothing" : Error))), w')) ∧
    ((resolve 0 "app.kit.Tool").execute kitWorld).2 =
      ((resolve 0 "app.kit:Tool").execute kitWorld).2 := by
  have hmodule : "app.kit" ≠ "" := by decide
  have hcolon : Text.has ':' "app.kit" = false := by decide
  have himport : (importModule "app.kit").execute
      { kitWorld with imports := kitWorld.imports.activate 0 } = (.ok "/kit.zip", kitLoaded) := by
    have horigin : ((importModule "app.kit").execute
        { kitWorld with imports := kitWorld.imports.activate 0 }).1.toOption = some "/kit.zip" := by
      decide +kernel
    refine Prod.ext ?_ rfl
    revert horigin
    cases ((importModule "app.kit").execute
      { kitWorld with imports := kitWorld.imports.activate 0 }).1 <;> simp [Except.toOption]
  obtain ⟨hwalk, hsingle⟩ := resolve_walks_attributes 0 kitWorld hmodule hcolon
  have hends (names : List String) (name path : String)
      (hnames : ∀ n ∈ names, Text.has '.' n = false ∧ Text.has ':' n = false)
      (hpath : ".".intercalate names = path) (hne : path ≠ "")
      (hname : "app.kit" ++ ":" ++ path = name) :
      ∃ answer after, (resolve 0 name).execute kitWorld = (answer, after) ∧
        EndsWalk kitLoaded name ⟨"app.kit", path⟩ names answer after := by
    subst hpath hname
    obtain ⟨ending, w', hsame, -, hends⟩ := hwalk names hnames hne
    rw [himport] at hsame
    cases hsame
    exact hends _ rfl
  refine ⟨⟨hmodule, hcolon⟩, himport, ?_, ?_, ?_, ?_,
    (hsingle "Tool" (by decide) (by decide) (by decide)).2⟩
  · obtain ⟨answer, after, hrun, hwalked⟩ := hends ["Tool", "Part", "size"]
      "app.kit:Tool.Part.size" "Tool.Part.size" (by decide) (by decide) (by decide) (by decide)
    have hthree : isThree ((resolve 0 "app.kit:Tool.Part.size").execute kitWorld).1 = true := by
      decide +kernel
    rw [hrun] at hthree
    cases answer with
    | error raised => cases hthree
    | ok o => exact ⟨o, after, (hwalked.found o after).mp ⟨rfl, rfl⟩, hthree, hrun⟩
  · obtain ⟨answer, after, hrun, hwalked⟩ := hends ["Tool", "Part", "broken"]
      "app.kit:Tool.Part.broken" "Tool.Part.broken" (by decide) (by decide) (by decide) (by decide)
    obtain ⟨w', hbreaks⟩ : ∃ w', Breaks kitLoaded (.module "app.kit") ["Tool", "Part", "broken"]
        (.fault (Error.raised .value "out of order" : Error)) w' :=
      breaks_of_faultOf (by decide +kernel)
    have hother : ¬ IsMissing (.fault (Error.raised .value "out of order" : Error)) := by
      rintro ⟨_, ⟨⟩, hkind⟩
      cases hkind
    obtain ⟨rfl, rfl⟩ := hwalked.other _ w' hbreaks hother
    exact ⟨after, hrun⟩
  · obtain ⟨answer, after, hrun, hwalked⟩ := hends ["Tool", "Part", "last"]
      "app.kit:Tool.Part.last" "Tool.Part.last" (by decide) (by decide) (by decide) (by decide)
    obtain ⟨w', hbreaks⟩ : ∃ w', Breaks kitLoaded (.module "app.kit") ["Tool", "Part", "last"]
        (.exit (.int 7)) w' :=
      breaks_of_exitsWithSeven (by decide +kernel)
    have hother : ¬ IsMissing (.exit (.int 7)) := by
      rintro ⟨_, ⟨⟩, -⟩
    obtain ⟨rfl, rfl⟩ := hwalked.other _ w' hbreaks hother
    exact ⟨after, hrun⟩
  · obtain ⟨answer, after, hrun, hwalked⟩ := hends ["Tool", "Part", "hidden"]
      "app.kit:Tool.Part.hidden" "Tool.Part.hidden" (by decide) (by decide) (by decide) (by decide)
    obtain ⟨w', hbreaks⟩ : ∃ w', Breaks kitLoaded (.module "app.kit") ["Tool", "Part", "hidden"]
        (.fault (Error.raised .missingAttribute "nothing" : Error)) w' :=
      breaks_of_faultOf (by decide +kernel)
    obtain ⟨rfl, rfl⟩ := hwalked.missing _ w' hbreaks (by decide)
    exact ⟨after, hrun⟩

end Launch

end Launcher
