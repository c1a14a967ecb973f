-- SUMMARY: Importing is tame, whatever the imported modules do.
import Launcher.Import.Dotted
import Launcher.Proofs.Launch.Tame

/-!
# Importing is tame

The actions of application code never touch who is in charge, so neither does loading a module,
nor anything else on the way of an import. An action that imports goes back to importing; the
depth that modules may load inside one another is what the proof goes down on.
-/
namespace Launcher

namespace Imports

variable {i i' : Imports} {moduleName name : String} {o : Object}

theorem setAttribute_keeps (h : i.setAttribute moduleName name o = .ok i') :
    i'.finders = i.finders ∧ i'.current = i.current := by
  unfold setAttribute at h
  split at h
  · cases h
  split at h
  · cases h
  · cases h
    exact ⟨changeModule_finders .., changeModule_current ..⟩

end Imports

open Launch

variable {rule : Logging → Logging → Prop} {importer : String → Launch String} {label name : String}

/-! ## Actions -/

namespace Action

theorem tame_perform (himporter : ∀ name, Tame rule (importer name)) (action : Action) :
    Tame rule (action.perform importer label) := by
  induction action with
  | addPath value =>
    refine .bind tame_registered fun id => ?_
    exact .bind (tame_addPath id value) fun _ => tame_happen rfl
  | addUrl value =>
    refine .bind tame_registered fun id => ?_
    exact .bind (tame_addUrl id (.path value)) fun _ => tame_happen rfl
  | getHome =>
    refine .bind tame_registered fun id => ?_
    exact .bind (tame_context id) fun c => tame_happen rfl
  | locators =>
    refine .bind tame_registered fun id => ?_
    exact .bind (tame_context id) fun c => tame_happen rfl
  | importing name => exact .bind (himporter name) fun origin => tame_happen rfl
  | note text => exact tame_happen rfl
  | raise f => exact tame_fail f
  | exit code => exact tame_throw (by simp)
  | interrupt => exact tame_throw (by simp)
  | attempt action ih =>
    exact .rescue ih fun f => tame_happen rfl

theorem tame_performAll (himporter : ∀ name, Tame rule (importer name)) (actions : List Action) :
    Tame rule (performAll importer label actions) := by
  induction actions with
  | nil => exact tame_pure ()
  | cons action actions ih => exact .bind (tame_perform himporter action) fun _ => ih

end Action

/-! ## Looking attributes up -/

theorem Launch.tame_lookUp (himporter : ∀ name, Tame rule (importer name)) (o : Object)
    (name : String) : Tame rule (lookUp importer o name) := by
  refine .bind (.bind tame_get fun w => ?_) fun _ => .bind tame_get fun w' => tame_check _
  split
  · exact Action.tame_performAll himporter _
  · exact tame_pure ()

/-! ## Loading -/

theorem tame_setModuleAttribute (moduleName name : String) (a : Attribute) :
    Tame rule (setModuleAttribute moduleName name a) := by
  unfold setModuleAttribute
  cases ClassBody.makingError? name a with
  | some e => exact tame_fail e
  | none =>
    refine .get_bind fun w => ?_
    cases hset : w.imports.setAttribute moduleName name (.ofAttribute moduleName [name] a) with
    | ok imports =>
      obtain ⟨hfinders, hcurrent⟩ := Imports.setAttribute_keeps hset
      exact .changeImports hfinders hcurrent
    | error e => exact tame_fail e w

theorem tame_loadModule (himporter : ∀ name, Tame rule (importer name)) (origin : String)
    (body : ModuleBody) (isPackage : Bool) : Tame rule (loadModule importer name origin body isPackage) := by
  refine .bind (tame_changeImports (fun _ => rfl) fun _ => rfl) fun _ => ?_
  refine .bind (tame_happen rfl) fun _ => tame_tryCatch ?_ fun r hr => ?_
  · refine .bind (Action.tame_performAll himporter body.init) fun _ => ?_
    refine .bind (.forM (fun (entry : String × Attribute) =>
      tame_setModuleAttribute name entry.1 entry.2) _) fun _ => ?_
    exact tame_changeImports (fun i => i.changeModule_finders ..) fun i => i.changeModule_current ..
  · refine .bind (tame_changeImports (fun _ => rfl) fun _ => rfl) fun _ => ?_
    exact tame_throw hr

theorem tame_findAndLoad (himporter : ∀ name, Tame rule (importer name)) (paths : List String)
    (name : String) : Tame rule (findAndLoad importer paths name) := by
  refine .bind tame_get fun w => ?_
  split
  · exact tame_fail _
  · exact tame_loadModule himporter _ _ _

/-! ## Submodules -/

theorem tame_pathOfParent (himporter : ∀ name, Tame rule (importer name)) (name parentName : String) :
    Tame rule (pathOfParent importer name parentName) :=
  .rescue (tame_lookUp himporter _ _) fun _ => tame_fail _

theorem tame_checkRecord (himporter : ∀ name, Tame rule (importer name)) (record : Object) :
    Tame rule (checkRecord importer record) := by
  unfold checkRecord
  split
  · exact .bind (tame_lookUp himporter record _) fun _ => tame_pure ()
  · exact tame_pure ()

theorem tame_bindSubmodule (parentName name : String) : Tame rule (bindSubmodule parentName name) := by
  refine .get_bind fun w => ?_
  cases hset : w.imports.setAttribute parentName (lastName name) (.module name) with
  | ok imports =>
    obtain ⟨hfinders, hcurrent⟩ := Imports.setAttribute_keeps hset
    exact .changeImports hfinders hcurrent
  | error e =>
    simp only
    split
    · exact tame_pure () w
    · exact tame_fail e w

theorem tame_findAndLoadBelow (himporter : ∀ name, Tame rule (importer name))
    (parentName name : String) : Tame rule (findAndLoadBelow importer parentName name) := by
  have hload (paths : List String) :
      Tame rule (do findAndLoad importer paths name; bindSubmodule parentName name) :=
    .bind (tame_findAndLoad himporter paths name) fun _ => tame_bindSubmodule parentName name
  refine .bind (tame_pathOfParent himporter name parentName) fun listed => ?_
  refine .bind (tame_lookUp himporter _ _) fun record => ?_
  refine .bind (tame_check _) fun places => .bind tame_get fun w => .bind tame_get fun w' => ?_
  simp only
  split
  · exact .bind (tame_checkRecord himporter record) fun _ => hload _
  · exact hload _

/-! ## Importing -/

theorem tame_importChain (himporter : ∀ name, Tame rule (importer name)) (names : List String) :
    Tame rule (importChain importer names) := by
  induction names with
  | nil => exact tame_pure ()
  | cons name above ih =>
    refine .bind tame_get fun w => ?_
    split
    · refine .bind ih fun _ => .bind tame_get fun w' => ?_
      split
      · split
        · exact .bind tame_get fun w'' => tame_findAndLoad himporter _ name
        · exact tame_findAndLoadBelow himporter _ name
      · exact tame_pure ()
    · exact tame_pure ()

theorem tame_askLoading (himporter : ∀ name, Tame rule (importer name)) (name : String) :
    Tame rule (askLoading importer name) := by
  refine .rescue (.bind (tame_lookUp himporter _ _) fun record => ?_) fun _ => tame_pure ()
  exact .bind (tame_lookUp himporter record _) fun _ => tame_pure ()

theorem tame_originOf (name : String) : Tame rule (originOf name) := by
  refine .bind tame_get fun w => ?_
  split
  · exact tame_pure _
  · exact tame_fail _

theorem tame_importWithin (depth : Nat) (name : String) : Tame rule (importWithin depth name) := by
  induction depth generalizing name with
  | zero => exact tame_fail _
  | succ depth ih =>
    -- what a loading module imports goes through the importer of one depth less
    unfold importWithin
    split
    · exact tame_fail _
    split
    · exact tame_fail _
    have hrest : Tame rule (do
        importChain (importWithin depth) (importNames name)
        originOf name) :=
      .bind (tame_importChain ih (importNames name)) fun _ => tame_originOf name
    refine .bind tame_get fun w => ?_
    split
    · exact .bind (tame_askLoading ih name) fun _ => hrest
    · exact hrest

/-- What is done with the importer of a world is tame if it is with any importer. -/
theorem Launch.Tame.importer_bind {f : (String → Launch String) → Launch α}
    (hf : ∀ importer : String → Launch String, (∀ name, Tame rule (importer name)) →
      Tame rule (f importer)) :
    Tame rule (Launcher.importer >>= f) := by
  refine .get_bind fun w => ?_
  refine TameAt.bind (tame_pure _ w) fun importer w' hrun _ => ?_
  cases hrun
  exact hf _ (tame_importWithin _) w

theorem tame_importModule (name : String) : Tame rule (importModule name) :=
  .importer_bind fun _ himporter => himporter name

theorem tame_performActions (label : String) (actions : List Action) :
    Tame rule (performActions label actions) :=
  .importer_bind fun _ himporter => Action.tame_performAll himporter actions

theorem tame_attributeOf (o : Object) (name : String) : Tame rule (attributeOf o name) :=
  .importer_bind fun _ himporter => tame_lookUp himporter o name

/-! ## Dotted names -/

namespace Launch

variable {x : Launch α}

theorem Tame.handling (hx : Tame rule x) (e : Error) : Tame rule (handling e x) := by
  exact tame_tryCatch_fault hx (fun _ => rfl) rfl fun f => tame_fail _

theorem Tame.explained (hx : Tame rule x) (e : Fault → Error) : Tame rule (explained e x) :=
  .rescue hx fun _ => tame_fail _

theorem tame_attributeOrModule (o : Object) (moduleName piece : String) :
    Tame rule (attributeOrModule o moduleName piece) := by
  refine .rescue (tame_attributeOf o piece) fun _ => .handling ?_ _
  exact .bind (tame_importModule moduleName) fun _ => tame_attributeOf o piece

theorem tame_pieces (o : Object) (used : String) (names : List String) :
    Tame rule (pieces o used names) := by
  induction names generalizing o used with
  | nil => exact tame_pure o
  | cons piece rest ih =>
    exact .bind (tame_attributeOrModule o _ piece) fun found => ih found _

theorem tame_dotted (name : String) : Tame rule (dotted name) := by
  refine .rescue ?_ fun _ => tame_fail _
  simp only
  exact .bind (tame_importModule _) fun _ => tame_pieces _ _ _

end Launch

end Launcher
