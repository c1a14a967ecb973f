-- SUMMARY: The stages of a hand-off at which application code runs; what ends one of them ends the hand-off.
import Launcher.Proofs.HandOff.Run

/-!
# The stages of a hand-off

Application code runs when its modules are loaded, when its product is made, and when that is
started. Nothing between these stages and the run takes hold of an early end: a module that is left
while it is loading is forgotten, and the end is passed on as it is.
-/
namespace Launcher

open Launch

/-! ## Loading -/

/-- The world in which the body of a module is performed. -/
def World.loading (w : World) (name origin : String) (isPackage : Bool) : World :=
  ({ w with imports := w.imports.setModule name (.new name origin isPackage) }).happen (.loaded name)

/-- The paths at which a module is looked for, by the module above it. -/
def placesOf (importer : String → Launch String) (name : String) :
    Option String → Launch (List String)
  | none => do pure (← get).searchPaths
  | some parentName => do
    let listed ← pathOfParent importer name parentName
    let record ← lookUp importer (.module parentName) "__spec__"
    let paths := (← check listed.places).getD (← get).searchPaths
    let h := (← get).host
    if (h.provider? paths name).isSome then checkRecord importer record
    pure paths

/-- A module above which there is none is looked for by one finder after another: the first one that
    finds it says where it comes from. -/
theorem World.provided?_searchPaths (w : World) (name : String) :
    w.host.provided? w.searchPaths name =
      w.imports.finders.findSome? fun finder => w.host.provided? (w.pathsOf finder) name := by
  unfold searchPaths
  induction w.imports.finders with
  | nil => rfl
  | cons finder finders ih =>
    rw [List.findSome?_cons, ← ih, List.flatMap_cons, Host.provided?, List.findSome?_append]
    change (w.host.provided? (w.pathsOf finder) name).or _ = _
    cases w.host.provided? (w.pathsOf finder) name <;> rfl

/-- Importing the names, longest first, performs the body of a module that ends early. The ones
    above it have been imported, and none of the names that it is above. -/
inductive BodyRaises (importer : String → Launch String) : List String → World → Raised → Prop
  | above {name : String} {above : List String} {w : World} {raised : Raised} :
    w.imports.module? name = none → BodyRaises importer above w raised →
      BodyRaises importer (name :: above) w raised
  | own {name origin : String} {above paths : List String} {w w₁ w₂ w₃ : World} {body : ModuleBody}
    {isPackage : Bool} {raised : Raised} :
    w.imports.module? name = none →
    (importChain importer above).execute w = (.ok (), w₁) → w₁.imports.module? name = none →
    (placesOf importer name above.head?).execute w₁ = (.ok paths, w₂) →
    w₂.host.provided? paths name = some (origin, body, isPackage) →
    (Action.performAll importer name body.init).execute (w₂.loading name origin isPackage) =
      (.error raised, w₃) →
      BodyRaises importer (name :: above) w raised

section Loading

variable {importer : String → Launch String} {name : String} {paths : List String}
  {raised : Raised} {w w' : World}

theorem findAndLoadBelow_eq (importer : String → Launch String) (parentName name : String) :
    findAndLoadBelow importer parentName name = (do
      let paths ← placesOf importer name (some parentName)
      findAndLoad importer paths name
      bindSubmodule parentName name) := by
  unfold findAndLoadBelow placesOf
  simp only [bind_assoc]
  refine bind_congr fun listed => bind_congr fun record => bind_congr fun places => ?_
  refine bind_congr fun _ => bind_congr fun _ => ?_
  split <;> simp only [bind_assoc, pure_bind]

theorem execute_findAndLoad_raised {origin : String} {body : ModuleBody} {isPackage : Bool}
    (hprovided : w.host.provided? paths name = some (origin, body, isPackage))
    (hbody : (Action.performAll importer name body.init).execute (w.loading name origin isPackage) =
      (.error raised, w')) :
    ∃ w'', (findAndLoad importer paths name).execute w = (.error raised, w'') := by
  refine ⟨{ w' with imports := w'.imports.forget name }, ?_⟩
  unfold World.loading at hbody
  simp only [findAndLoad, execute_bind, execute_get, hprovided, loadModule, changeImports, happen,
    execute_modify, execute_tryCatch, hbody, execute_throw]

/-- An import ends as the body of a module that it performs. -/
theorem BodyRaises.execute {names : List String} (h : BodyRaises importer names w raised) :
    ∃ w', (importChain importer names).execute w = (.error raised, w') := by
  induction h with
  | above hnew _ ih =>
    obtain ⟨w', hrun⟩ := ih
    exact ⟨w', by simp [importChain, execute_bind, hnew, hrun]⟩
  | @own name origin above paths w w₁ w₂ _ body isPackage raised hnew habove hstill hplaces
      hprovided hbody =>
    obtain ⟨w', hrun⟩ := execute_findAndLoad_raised hprovided hbody
    refine ⟨w', ?_⟩
    cases hhead : above.head? with
    | none =>
      rw [hhead] at hplaces
      cases hplaces
      simp [importChain, execute_bind, hnew, habove, hstill, hhead, hrun]
    | some parentName =>
      rw [hhead] at hplaces
      simp [importChain, execute_bind, hnew, habove, hstill, hhead, findAndLoadBelow_eq, hplaces, hrun]

theorem importNames_eq (name : String) : ∃ above, importNames name = name :: above := by
  have hhead : ∀ n (cs : List Char), ∃ above, lineage n cs = cs :: above := by
    intro n cs
    cases n with
    | zero => exact ⟨[], rfl⟩
    | succ n =>
      unfold lineage
      split
      · exact ⟨[], rfl⟩
      · exact ⟨[], rfl⟩
      · exact ⟨_, rfl⟩
  obtain ⟨above, habove⟩ := hhead name.length name.toList
  exact ⟨above.map String.ofList, by simp [importNames, habove]⟩

theorem BodyRaises.new {above : List String} (h : BodyRaises importer (name :: above) w raised) :
    w.imports.module? name = none := by
  cases h with
  | above hnew _ => exact hnew
  | own hnew _ _ _ _ _ => exact hnew

/-- Importing a name ends as the body of a module that is performed for it. -/
theorem BodyRaises.execute_importModule (hname : name ≠ "")
    (hrelative : Text.startsWith name "." = false)
    (h : BodyRaises (importWithin w.importDepth) (importNames name) w raised) :
    ∃ w', (importModule name).execute w = (.error raised, w') := by
  obtain ⟨w', hrun⟩ := h.execute
  obtain ⟨above, habove⟩ := importNames_eq name
  have hnew : w.imports.module? name = none := (habove ▸ h).new
  refine ⟨w', ?_⟩
  simp only [importModule, Launcher.importer, execute_bind, execute_get, execute_pure, importWithin,
    if_neg hname, hrelative, Bool.false_eq_true, if_false, hnew, Option.isSome_none, hrun]

end Loading

/-! ## The hand-off -/

/-- How the application ends the hand-off: early, while one of its modules is loading or when its
    entry point is called, or in whatever way its start ends. -/
inductive ApplicationEnds (id : Nat) (name : String) (args : List String) (c : Context) (w : World) :
    Except Raised Unit → Prop
  | loading {e : EntryPoint} {w₁ : World} {raised : Raised} :
    Reaches id name c w .announced w₁ →
    EntryPoint.ofName? name = some e → Text.startsWith e.moduleName "." = false →
    BodyRaises (importWithin w₁.importDepth) (importNames e.moduleName)
      { w₁ with imports := w₁.imports.activate id } raised →
      ApplicationEnds id name args c w (.error raised)
  | making {factory : Object} {w₁ w₂ : World} {raised : Raised} :
    Reaches id name c w (.found factory) w₁ →
    (call factory).execute w₁ = (.error raised, w₂) →
      ApplicationEnds id name args c w (.error raised)
  | starting {label className : String} {body : ClassBody} {actions : List Action}
    {w₁ w₂ : World} {ending : Except Raised Unit} :
    Reaches id name c w (.ready label className body actions) w₁ →
    (performActions label actions).execute (w₁.happen (.started label args)) = (ending, w₂) →
      ApplicationEnds id name args c w ending

variable {id : Nat} {name : String} {args : List String} {c : Context} {w : World}

theorem EntryPoint.moduleName_ne_empty {e : EntryPoint} (he : ofName? name = some e) :
    e.moduleName ≠ "" := by
  unfold ofName? at he
  simp only at he
  split at he
  · cases he
  · cases he
    simp_all

/-- What ends the application early ends the hand-off, in the same way, and so does its start. -/
theorem ApplicationEnds.execute {ending : Except Raised Unit} (hc : w.context? id = some c)
    (h : ApplicationEnds id name args c w ending) :
    ∃ w', (handOff id name args).execute w = (ending, w') := by
  cases h with
  | @loading e w₁ raised hreach hentry hrelative hbody =>
    obtain ⟨w', himport⟩ := BodyRaises.execute_importModule
      (w := { w₁ with imports := w₁.imports.activate id })
      (EntryPoint.moduleName_ne_empty hentry) hrelative hbody
    exact ⟨w', (EndsAt.importing hreach hentry himport).execute hc⟩
  | making hreach hcall => exact ⟨_, (EndsAt.making hreach hcall).execute hc⟩
  | starting hreach hperform => exact ⟨_, (EndsAt.started hreach hperform).execute hc⟩

end Launcher
