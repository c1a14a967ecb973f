-- SUMMARY: Configuring logging is tame, also where a configuration imports modules of the application.
import Launcher.Proofs.Import.Tame
import Launcher.Proofs.Logging.Handlers

/-!
# Configuring logging is tame

A configuration can refer to objects by dotted names, and modules are imported for them. Following
references goes down on how many may still lead to one another.
-/
namespace Launcher

open Launch

namespace Settings

variable {rule : Logging → Logging → Prop} {follow : Json → Launch Setting}

/-! ## Following references -/

theorem tame_settle (hfollow : ∀ v, Tame rule (follow v)) (v : Setting) : Tame rule (settle follow v) := by
  cases v with
  | inside v => exact hfollow v
  | outside o => exact tame_pure _

theorem tame_askItems (v : Setting) : Tame rule (askItems v) := by
  unfold askItems
  split
  · exact .rescue (.bind (tame_attributeOf _ _) fun _ => tame_pure ()) fun _ => tame_fail _
  · exact tame_pure ()

theorem tame_step (hfollow : ∀ v, Tame rule (follow v)) (v : Setting) (s : Logging.PathStep) :
    Tame rule (step follow v s) := by
  have hnamed (word : String) : Tame rule (do
      askItems v
      settle follow (← check (v.partNamed (← get).imports word))) := by
    refine .bind (tame_askItems v) fun _ => .bind tame_get fun w => ?_
    exact .bind (tame_check _) fun part => tame_settle hfollow part
  cases s with
  | name word => exact hnamed word
  | item word =>
    unfold step
    simp only
    split
    · refine .rescue ?_ fun f => (hnamed word).handling f.error
      refine .bind (tame_askItems v) fun _ => .bind tame_get fun w => ?_
      exact .bind (tame_check _) fun part => tame_settle hfollow part
    · exact hnamed word

theorem tame_follow (s : Settings) (depth : Nat) (v : Json) : Tame rule (s.follow depth v) := by
  induction depth using Nat.strongRecOn generalizing v with
  | ind depth ih =>
    fun_cases Settings.follow s depth v with
    | case1 => exact tame_pure _
    | case2 => exact .bind (tame_dotted _) fun o => tame_pure _
    | case3 => exact tame_fail _
    | case4 => exact tame_fail _
    | case5 => exact tame_fail _
    | case6 text name _ depth path _ field _ =>
      -- the references met on the way may lead to one less than this one
      have hfollow (v : Json) : Tame rule (s.follow depth v) := ih depth (by omega) v
      refine .bind (hfollow field) fun first => ?_
      refine .bind (.foldlM (tame_step hfollow) path.steps first) fun found => ?_
      split
      · exact tame_pure _
      · exact tame_fail _
    | case7 => exact tame_pure _

theorem tame_value (s : Settings) (v : Json) : Tame rule (s.value v) := tame_follow s _ v

theorem tame_get? (s : Settings) (name : String) : Tame rule (s.get? name) := by
  unfold Settings.get?
  split
  · exact tame_pure _
  · exact .bind (tame_value s _) fun v => tame_pure _

/-! ## The parts of a configuration -/

theorem tame_getIn (s : Settings) (name : String) (v : Setting) : Tame rule (s.getIn name v) := by
  unfold getIn
  split
  · exact tame_value s _
  · exact tame_fail _
  · exact tame_fail _
  · exact tame_pure _
  · exact .bind tame_get fun w => tame_pure _
  · exact .bind (tame_attributeOf _ _) fun getter => tame_fail _

theorem tame_sectionLevel (s : Settings) (v : Setting) : Tame rule (s.sectionLevel v) := by
  refine .bind (tame_getIn s "level" v) fun level => ?_
  exact .bind tame_get fun w => tame_lift _

theorem tame_refuseNumbered (s : Settings) (items : List Setting) (n : Int) :
    Tame rule (s.refuseNumbered items n) := by
  unfold refuseNumbered
  simp only
  split
  · exact tame_fail _
  · refine .bind (tame_settle (tame_value s) _) fun v => ?_
    split
    · exact tame_fail _
    · exact tame_fail _

theorem tame_refuseItem (s : Settings) (items : List Setting) (item : Json) :
    Tame rule (s.refuseItem items item) := by
  unfold refuseItem
  split
  · exact tame_refuseNumbered s items _
  · exact tame_refuseNumbered s items _
  · exact tame_fail _

theorem tame_refuseItems (s : Settings) (make : Json → Setting) (v : Json) :
    Tame rule (s.refuseItems make v) := by
  unfold refuseItems
  split
  · exact tame_pure ()
  · exact tame_pure ()
  · exact (tame_refuseItem s _ _).explained _
  · exact (tame_fail _).explained _
  · exact tame_fail _

theorem tame_sections (s : Settings) (name : String) {refuse : (Json → Setting) → Json → Launch Unit}
    (hrefuse : ∀ make v, Tame rule (refuse make v)) : Tame rule (s.sections name refuse) := by
  refine .bind (tame_get? s name) fun v => ?_
  unfold sectionsIn
  split
  · exact tame_pure _
  · exact .bind (hrefuse _ _) fun _ => tame_pure _
  · exact tame_pure _
  · exact .bind (hrefuse _ _) fun _ => tame_pure _
  · exact .bind tame_get fun w => tame_pure _
  · exact tame_fail _

/-! ## Formatters, filters and handlers -/

theorem tame_refuseParts (kind : PartKind) (v : Json) : Tame rule (refuseParts kind v) := by
  have hfirst (first : Option (String × Error)) : Tame rule (refuseFirst kind first) := by
    cases first with
    | none => exact tame_pure ()
    | some named => exact (tame_fail _).explained _
  unfold refuseParts
  split
  · split
    · exact tame_fail _
    · exact hfirst _
  · exact hfirst _
  · exact tame_fail _

theorem tame_makeEach (s : Settings) (kind : PartKind) (parts : List Part)
    (sections : List (String × Setting)) : Tame rule (s.makeEach kind parts sections) := by
  induction sections with
  | nil => exact tame_pure ()
  | cons entry rest ih =>
    unfold makeEach
    refine .bind (.explained (.bind (tame_settle (tame_value s) _) fun _ => ?_) _) fun _ => ih
    split
    · exact tame_performActions _ _
    · split
      · exact tame_fail _
      · exact tame_pure ()

theorem tame_makeParts (s : Settings) (kind : PartKind) (parts : List Part) :
    Tame rule (s.makeParts kind parts) := by
  refine .bind (tame_sections s _ fun _ => tame_refuseParts kind) fun sections => ?_
  exact .bind (tame_makeEach s kind parts _) fun _ => tame_pure _

theorem tame_addEach (kind : PartKind) {made : List α} (named : α → String → Bool)
    {add : α → Launch Unit} (hadd : ∀ a ∈ made, Tame rule (add a)) (items : List Json) :
    Tame rule (addEach kind made named add items) := by
  induction items with
  | nil => exact tame_pure ()
  | cons item items ih =>
    unfold addEach
    refine .bind (.explained ?_ _) fun _ => ih
    split
    · split
      case h_1 a ha => exact hadd a (List.mem_of_find?_eq_some ha)
      case h_2 => exact tame_fail _
    · exact tame_fail _
    · exact tame_fail _
    · exact tame_fail _

theorem tame_addListed (s : Settings) (kind : PartKind) {made : List α} (named : α → String → Bool)
    {add : α → Launch Unit} (hadd : ∀ a ∈ made, Tame rule (add a)) (v : Setting) :
    Tame rule (s.addListed kind made named add v) := by
  refine .bind (tame_getIn s _ v) fun listed => ?_
  split
  · exact .bind tame_get fun w => .bind (tame_check _) fun items => tame_addEach kind named hadd items
  · exact tame_pure ()

/-! ## Configuring -/

section Configuring

variable (made : Option Made) (hmade : Logging.Permits rule ((made.map Made.handlers).getD []))

include hmade

theorem tame_configureSection (s : Settings) (name : String) (v : Setting) :
    Tame rule (s.configureSection made name v) := by
  refine .bind (tame_sectionLevel s v) fun level => ?_
  refine .bind (tame_changeLogging fun l => hmade.same (l.setLevel_handlers name level)) fun _ => ?_
  cases made with
  | none => exact tame_pure ()
  | some made =>
    refine .bind (tame_changeLogging fun l => hmade.fewer _ _ (l.dropHandlers_handlers_sublist name))
      fun _ => ?_
    refine .bind (tame_addListed s _ _ (fun h hh => ?_) v) fun _ => ?_
    · exact tame_changeLogging fun l => hmade.added h hh l name
    · exact tame_addListed s _ _ (fun _ _ => tame_pure ()) v

theorem tame_configureLoggers (s : Settings) (sections : List (String × Setting))
    (left below : List String) : Tame rule (s.configureLoggers made sections left below) := by
  induction sections generalizing left below with
  | nil => exact tame_pure _
  | cons entry rest ih =>
    unfold configureLoggers
    refine .bind (.explained ?_ _) fun _ => ih _ _
    refine .bind (tame_settle (tame_value s) _) fun v => ?_
    refine .bind (tame_changeLogging fun l => hmade.same (l.ensure_handlers _)) fun _ => ?_
    refine .bind (tame_configureSection made hmade s _ v) fun _ => ?_
    refine .bind (tame_changeLogging fun l => hmade.same (l.enable_handlers _)) fun _ => ?_
    exact .bind (tame_getIn s _ v) fun _ => tame_pure ()

theorem tame_applyRoot (s : Settings) : Tame rule (s.applyRoot made) := by
  refine .bind (tame_get? s "root") fun root => ?_
  split
  · exact tame_pure ()
  · split
    · exact (tame_configureSection made hmade s "" _).explained _
    · exact tame_pure ()

end Configuring

theorem tame_applyLoggers (s : Settings) {made : Made} (hmade : Logging.Permits rule made.handlers)
    (disable : Json) : Tame rule (s.applyLoggers made disable) := by
  refine .bind tame_get fun w => .bind (tame_sections s _ (tame_refuseItems s)) fun sections => ?_
  refine .bind (tame_configureLoggers (some made) hmade s sections _ _) fun names => ?_
  exact tame_changeLogging fun l => hmade.same (Logging.foldl_settle_handlers ..)

theorem tame_reread (s : Settings) (v : Setting) : Tame rule (s.reread v) := by
  unfold reread
  split
  · exact tame_value s _
  · exact tame_pure _

theorem tame_checkVersion (s : Settings) : Tame rule s.checkVersion := by
  refine .bind (tame_get? s "version") fun version => ?_
  simp only
  split
  · exact tame_pure ()
  · exact .bind (tame_reread s _) fun v => .bind tame_get fun w => tame_fail _

/-! ## Configurations without handlers -/

theorem lookup_without {s : Settings} {name other : String} (h : other ≠ name) :
    (s.without name).lookup other = s.lookup other := by
  induction s with
  | nil => rfl
  | cons field s ih =>
    obtain ⟨key, v⟩ := field
    unfold without at ih ⊢
    rw [List.filter_cons, List.lookup_cons]
    by_cases hkey : key = name
    · have hother : (other == key) = false := by simpa [hkey] using h
      rw [if_neg (by simpa using hkey), ih, hother]
    · rw [if_pos (by simpa using hkey), List.lookup_cons, ih]

theorem lookup_withSection (s : Settings) (name : String) :
    (s.withSection name).lookup name = some ((s.lookup name).getD (.object [])) := by
  unfold withSection withDefault
  cases h : s.lookup name with
  | some v => simp [h]
  | none => simp [h, List.lookup_append]

theorem lookup_withSection_of_ne {s : Settings} {name other : String} (h : other ≠ name) :
    (s.withSection name).lookup other = s.lookup other := by
  unfold withSection withDefault
  split
  · rfl
  · have hother : (other == name) = false := by simpa using h
    simp [List.lookup_append, List.lookup_cons, hother]

/-- Of a kind that a configuration has an empty section for, it makes nothing. -/
theorem execute_makeParts_empty {s : Settings} {kind : PartKind}
    (h : s.lookup kind.field = some (.object [])) (parts : List Part) (w : World) :
    (s.makeParts kind parts).execute w = (.ok [], w) := by
  have hget : (s.get? kind.field).execute w = (.ok (some (.inside (.object []))), w) := by
    simp only [Settings.get?, h, value, follow, execute_bind, execute_pure]
  simp only [makeParts, sections, execute_bind, hget, Option.getD_some, sectionsIn, List.map_nil,
    execute_pure, List.mergeSort_nil, ite_self, makeEach]

theorem tame_replaceAll (s : Settings) (parts : List Part)
    (hmade : ∀ names, (s.lookup "handlers" = none → names = []) →
      Logging.Permits rule (names.map (handlerNamed parts))) :
    Tame rule (s.replaceAll parts) := by
  have hsame : Logging.Permits rule [] := hmade [] fun _ => rfl
  refine .bind (tame_value _ _) fun disable => ?_
  refine .bind (tame_changeLogging fun l => hsame.same rfl) fun _ => ?_
  refine .bind (tame_makeParts _ _ parts) fun _ => .bind (tame_makeParts _ _ parts) fun filters => ?_
  intro w
  refine (tame_makeParts _ _ parts w).bind fun names w' hrun _ => ?_
  have hpermits : Logging.Permits rule (names.map (handlerNamed parts)) := by
    refine hmade names fun hnone => ?_
    rw [execute_makeParts_empty] at hrun
    · cases hrun
      rfl
    · change (withSection _ "handlers").lookup "handlers" = _
      rw [lookup_withSection, lookup_withSection_of_ne (by decide),
        lookup_withSection_of_ne (by decide), lookup_without (by decide), hnone]
      rfl
  refine (Tame.bind (tame_applyLoggers _ hpermits _) fun _ => ?_) w'
  exact tame_applyRoot (some _) hpermits _

/-! ## Adjusting -/

theorem tame_refuseNames (v : Json) : Tame rule (refuseNames v) := by
  unfold refuseNames
  split
  · exact tame_pure ()
  · exact tame_pure ()
  · exact tame_fail _
  · exact tame_fail _
  · exact tame_fail _

theorem tame_adjustHandlers (s : Settings) (sections : List (String × Setting)) :
    Tame rule (s.adjustHandlers sections) := by
  induction sections with
  | nil => exact tame_pure ()
  | cons entry rest ih =>
    unfold adjustHandlers
    have hrest : Tame rule (do
        explained (fun _ => .partNotConfigured "handler" (Text.quoted entry.1)) do
          let level ← s.getIn "level" (← settle s.value entry.2)
          if level.isSubstantial then
            let _ ← lift (level.level? (← get).imports)
        s.adjustHandlers rest) := by
      refine .bind (.explained ?_ _) fun _ => ih
      refine .bind (tame_settle (tame_value s) _) fun v => .bind (tame_getIn s _ v) fun level => ?_
      split
      · exact .bind tame_get fun w => .bind (tame_lift _) fun _ => tame_pure ()
      · exact tame_pure ()
    refine .bind tame_get fun w => ?_
    split
    · exact .bind (tame_fail _) fun _ => hrest
    · exact hrest

theorem tame_adjustLevels (s : Settings) (hsame : Logging.Permits rule []) :
    Tame rule s.adjustLevels := by
  refine .bind (tame_sections _ _ fun _ => tame_refuseNames) fun sections => ?_
  refine .bind (tame_adjustHandlers _ sections) fun _ => ?_
  refine .bind (tame_sections _ _ (tame_refuseItems _)) fun loggers => ?_
  refine .bind (tame_configureLoggers none hsame _ loggers _ _) fun _ => ?_
  exact tame_applyRoot none hsame _

end Settings

/-- Applying a configuration is tame by a rule that permits the handlers that it makes. One without
    a section for handlers makes none. -/
theorem Configuration.tame_apply {rule : Logging → Logging → Prop} (c : Configuration)
    (hmade : ∀ names, (c.fields.lookup "handlers" = none → names = []) →
      Logging.Permits rule (names.map (Settings.handlerNamed c.parts))) : Tame rule c.apply := by
  refine .bind (Settings.tame_checkVersion _) fun _ => .bind (Settings.tame_value _ _) fun _ => ?_
  split
  · exact Settings.tame_adjustLevels _ (hmade [] fun _ => rfl)
  · refine Settings.tame_replaceAll _ _ fun names hnone => hmade names fun hfields => hnone ?_
    rw [Settings.lookup_without (by decide)]
    unfold Settings.withDefault
    split
    · exact hfields
    · simp [List.lookup_append, hfields, List.lookup_cons]

namespace Launch

/-- The value names no file with a section for handlers. -/
def WithoutHandlers (h : Host) (value : PathValue) : Prop :=
  ∀ p c, h.configFile? value = .ok (some p) → h.readConfig p = .ok c →
    c.fields.lookup "handlers" = none

theorem tameAt_applyConfig {rule : Logging → Logging → Prop} {w : World} {value : PathValue}
    (hmade : ∀ p c, w.host.configFile? value = .ok (some p) → w.host.readConfig p = .ok c →
      ∀ names, (c.fields.lookup "handlers" = none → names = []) →
      Logging.Permits rule (names.map (Settings.handlerNamed c.parts))) :
    TameAt rule w (applyConfig value) := by
  refine TameAt.bind (tame_get w) fun _ _ hget _ => ?_
  cases hget
  refine .lift_bind fun file hfile => ?_
  cases file with
  | none => exact tame_pure false w
  | some p =>
    refine .lift_bind fun c hread => ?_
    exact Tame.bind (c.tame_apply (hmade p c hfile hread)) (fun _ => tame_pure true) w

theorem tame_applyConfig (value : PathValue) : Tame Logging.Free (applyConfig value) :=
  fun _ => tameAt_applyConfig fun _ _ _ _ _ _ => ⟨fun _ _ _ => trivial, fun _ _ _ _ => trivial⟩

end Launch

end Launcher
