-- SUMMARY: What each change of logging does to the handlers of the root.
import Launcher.Logging.Configure

/-!
# Handlers of the root

A configuration file takes the handlers of the root away, or leaves them, and gives the root those
that it has made. Where it has made none it brings no handler in. Configuring by a level puts the
default one there, and it does so before it finds out that the level is bad.
-/
namespace Launcher

namespace Logging

theorem makeKnown_handlers (l : Logging) (names : List String) :
    (l.makeKnown names).handlers = l.handlers := by
  fun_induction makeKnown l names with
  | case1 => rfl
  | case2 => rfl
  | case3 l name names _ ih => exact ih
  | case4 l name names _ ih => exact ih

/-- Bringing a logger into being leaves the handlers. -/
theorem ensure_handlers (l : Logging) (name : String) : (l.ensure name).handlers = l.handlers := by
  unfold ensure
  split
  · rfl
  split
  · rfl
  · exact makeKnown_handlers _ _
  · exact makeKnown_handlers _ _

/-- Setting a level leaves the handlers. -/
theorem setLevel_handlers (l : Logging) (name : String) (level : Option Level) :
    (l.setLevel name level).handlers = l.handlers := by
  unfold setLevel
  split
  · rfl
  · exact ensure_handlers l name

theorem dropHandlers_handlers_sublist (l : Logging) (name : String) :
    (l.dropHandlers name).handlers.Sublist l.handlers := by
  unfold dropHandlers
  split
  · exact List.nil_sublist _
  · exact List.Sublist.refl _

/-- Enabling a logger leaves the handlers. -/
theorem enable_handlers (l : Logging) (name : String) : (l.enable name).handlers = l.handlers := by
  unfold enable
  split
  · rfl
  split
  · rfl
  · rfl

theorem settle_handlers (disable : Json) (below : List String) (l : Logging) (name : String) :
    (settle disable below l name).handlers = l.handlers := by
  unfold settle
  split
  · rfl
  split
  · rfl
  · rfl

theorem foldl_settle_handlers (disable : Json) (below names : List String) (l : Logging) :
    (names.foldl (settle disable below) l).handlers = l.handlers := by
  induction names generalizing l with
  | nil => rfl
  | cons name names ih => exact (ih _).trans (settle_handlers disable below l name)

end Logging

/-! ## Rules about changes -/

/-- Logging gets no new handlers. -/
def Logging.FewerHandlers (l l' : Logging) : Prop := l'.handlers.Sublist l.handlers

/-- By the rule a configuration can do all that it does to logging once it has made these handlers:
    it takes handlers away, changes what is no handler, and adds handlers that it has made. -/
structure Logging.Permits (rule : Logging → Logging → Prop) (made : List Handler) : Prop where
  fewer : ∀ l l', l.FewerHandlers l' → rule l l'
  added : ∀ h ∈ made, ∀ l name, rule l (l.addHandler name h)

theorem Logging.permits_fewerHandlers : Permits FewerHandlers [] := ⟨fun _ _ h => h, by simp⟩

/-- A change that leaves the handlers is permitted. -/
theorem Logging.Permits.same {rule : Logging → Logging → Prop} {made : List Handler}
    (h : Permits rule made) {l l' : Logging} (hsame : l'.handlers = l.handlers) : rule l l' := by
  refine h.fewer l l' ?_
  unfold FewerHandlers
  simp only [hsame, List.Sublist.refl]

namespace Launch

/-- Configuring logging without a file installs the default handler and sets the level of the root,
    or installs the handler and ends with what is wrong with the level. -/
theorem execute_configureLogging_none (level : Json) (w : World) :
    (configureLogging level none).execute w =
      match Level.ofJson (Level.upperCase level) with
      | .ok root => (.ok false, { w with logging := { w.logging.installDefault with root } })
      | .error f => (.error (.fault f), { w with logging := w.logging.installDefault }) := by
  simp only [configureLogging, setUpLogging, changeLogging, execute_bind, execute_pure,
    execute_modify, Bool.false_eq_true, if_false]
  cases Level.ofJson (Level.upperCase level) with
  | ok root => rfl
  | error f => rfl

end Launch

end Launcher
