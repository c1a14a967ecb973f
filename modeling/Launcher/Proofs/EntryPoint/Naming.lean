-- SUMMARY: How names of entry points fall into parts, and what resolving a name does with them.
import Launcher.EntryPoint
import Launcher.Proofs.Text.Split

/-!
# The names of entry points

A name falls into two parts around its first colon or, where it has none, around its last dot. If
both are there, resolving makes the loader active and imports the first part; if not, the name is
refused and nothing else happens. One kind of name goes another way: behind a dotted name, a colon
without anything after it is taken for the end of the last attribute.
-/
namespace Launcher

namespace EntryPoint

/-! ## Parts -/

/-- The parts of a name: around its first colon or, where it has none, around its last dot. -/
inductive Parts : String → String → String → Prop
  | colon {moduleName path : String} :
    Text.has ':' moduleName = false → Parts (moduleName ++ ":" ++ path) moduleName path
  | dot {moduleName path : String} :
    Text.has ':' moduleName = false → Text.has ':' path = false → Text.has '.' path = false →
      Parts (moduleName ++ "." ++ path) moduleName path

/-- The parts of the name are those of the entry point, and both are there. -/
structure Named (name : String) (e : EntryPoint) : Prop where
  parts : Parts name e.moduleName e.path
  moduleName : e.moduleName ≠ ""
  path : e.path ≠ ""

/-- The name is that of a module, a dot, an attribute and a colon, and nothing stands behind that.
    The entry point has the colon as a part of the attribute. -/
inductive TrailsColon : String → EntryPoint → Prop
  | trail {moduleName last : String} :
    moduleName ≠ "" → Text.has ':' moduleName = false → Text.has ':' last = false →
    Text.has '.' last = false →
      TrailsColon (moduleName ++ "." ++ last ++ ":") ⟨moduleName, last ++ ":"⟩

variable {name moduleName path : String} {e : EntryPoint}

theorem parts_of_colon
    (hcut : Text.beforeAfterFirst ':' name = some (moduleName, path)) :
    Parts name moduleName path := by
  obtain ⟨htext, hcolon⟩ := Text.beforeAfterFirst_eq_some_iff.mp hcut
  have hname : name = moduleName ++ ":" ++ path := by
    rw [← String.toList_inj, htext]
    simp
  exact hname ▸ .colon hcolon

theorem parts_of_dot (hcolon : Text.has ':' name = false)
    (hcut : Text.beforeAfterLast '.' name = some (moduleName, path)) :
    Parts name moduleName path := by
  obtain ⟨htext, hdot⟩ := Text.beforeAfterLast_eq_some_iff.mp hcut
  obtain rfl : name = moduleName ++ "." ++ path := by
    rw [← String.toList_inj, htext]
    simp
  simp only [Text.has_append, Bool.or_eq_false_iff] at hcolon
  exact .dot hcolon.1.1 hcolon.2 hdot

/-- A name has the parts that a cut at its first colon gives or, where it has none, a cut at its
    last dot. -/
theorem Parts.cut (h : Parts name moduleName path) :
    Text.beforeAfterFirst ':' name = some (moduleName, path) ∨
      (Text.beforeAfterFirst ':' name = none ∧
        Text.beforeAfterLast '.' name = some (moduleName, path)) := by
  cases h with
  | colon hcolon => exact .inl (Text.beforeAfterFirst_eq_some_iff.mpr ⟨by simp, hcolon⟩)
  | dot hmodule hpath hdot =>
    refine .inr ⟨?_, Text.beforeAfterLast_eq_some_iff.mpr ⟨by simp, hdot⟩⟩
    rw [Text.beforeAfterFirst_eq_none_iff, Text.has_append, Text.has_append, hmodule, hpath]
    decide

/-! ## Reading a name -/

theorem ofName?_of_named (h : Named name e) : ofName? name = some e := by
  obtain hcut | ⟨hnone, hcut⟩ := h.parts.cut
  · simp [ofName?, partsOf, hcut, h.moduleName, h.path]
  · simp [ofName?, partsOf, ofDotted, hnone, hcut, h.moduleName, h.path]

/-- The first colon of such a name is its end. -/
theorem TrailsColon.cut (h : TrailsColon name e) :
    ∃ before, Text.beforeAfterFirst ':' name = some (before, "") := by
  obtain @⟨moduleName, last, -, hmodule, hlast, -⟩ := h
  refine ⟨moduleName ++ "." ++ last, Text.beforeAfterFirst_eq_some_iff.mpr ⟨by simp, ?_⟩⟩
  rw [Text.has_append, Text.has_append, hmodule, hlast]
  decide

theorem trailsColon_of_cuts {before : String}
    (hcolon : Text.beforeAfterFirst ':' name = some (before, ""))
    (hdot : Text.beforeAfterLast '.' name = some (moduleName, path))
    (hmodule : moduleName ≠ "") (hpath : path ≠ "") : TrailsColon name ⟨moduleName, path⟩ := by
  obtain ⟨htext, hbefore⟩ := Text.beforeAfterFirst_eq_some_iff.mp hcolon
  obtain ⟨htext', hafter⟩ := Text.beforeAfterLast_eq_some_iff.mp hdot
  -- what stands behind the last dot ends with the colon
  rcases List.eq_nil_or_concat path.toList with hnil | ⟨last, c, hlast⟩
  · exact absurd (String.toList_eq_nil_iff.mp hnil) hpath
  rw [htext', hlast, List.concat_eq_append, ← List.cons_append, ← List.append_assoc] at htext
  obtain ⟨hsame, hc⟩ := List.append_inj' htext rfl
  cases hc
  obtain rfl : path = String.ofList last ++ ":" := by
    rw [← String.toList_inj, hlast]
    simp
  obtain rfl : name = moduleName ++ "." ++ String.ofList last ++ ":" := by
    rw [← String.toList_inj, htext']
    simp
  rw [Text.has_eq_false_iff, ← hsame] at hbefore
  simp only [List.mem_append, List.mem_cons, not_or] at hbefore
  rw [Text.has_append, Bool.or_eq_false_iff] at hafter
  refine .trail hmodule ?_ ?_ hafter.1
  · exact Text.has_eq_false_iff.mpr hbefore.1
  · exact Text.has_eq_false_iff.mpr (by simpa using hbefore.2.2)

theorem ofName?_of_trailsColon (h : TrailsColon name e) : ofName? name = some e := by
  obtain ⟨before, hcolon⟩ := h.cut
  obtain @⟨moduleName, last, hne, -, -, hdot⟩ := h
  have hcut : Text.beforeAfterLast '.' (moduleName ++ "." ++ last ++ ":") =
      some (moduleName, last ++ ":") := by
    refine Text.beforeAfterLast_eq_some_iff.mpr ⟨by simp, ?_⟩
    rw [Text.has_append, hdot]
    decide
  simp [ofName?, partsOf, ofDotted, hcolon, hcut, hne]

/-- No other name denotes an entry point. -/
theorem named_or_trailsColon (h : ofName? name = some e) : Named name e ∨ TrailsColon name e := by
  unfold ofName? at h
  simp only at h
  split at h
  · cases h
  case isFalse hboth =>
  cases h
  obtain ⟨hmodule, hpath⟩ := not_or.mp hboth
  cases hcolon : Text.beforeAfterFirst ':' name with
  | none =>
    have hhas : Text.has ':' name = false := Text.beforeAfterFirst_eq_none_iff.mp hcolon
    cases hdot : Text.beforeAfterLast '.' name with
    | none => simp [partsOf, ofDotted, hcolon, hdot] at hmodule
    | some parts =>
      simp only [partsOf, ofDotted, hcolon, hdot, Option.getD_some] at hmodule hpath ⊢
      exact .inl ⟨parts_of_dot hhas hdot, hmodule, hpath⟩
  | some parts =>
    obtain ⟨before, after⟩ := parts
    by_cases hafter : after = ""
    · subst hafter
      cases hdot : Text.beforeAfterLast '.' name with
      | none => simp [partsOf, ofDotted, hcolon, hdot] at hmodule
      | some parts =>
        simp only [partsOf, ofDotted, hcolon, hdot, if_true, Option.getD_some] at hmodule hpath ⊢
        exact .inr (trailsColon_of_cuts hcolon hdot hmodule hpath)
    · simp only [partsOf, hcolon, hafter, if_false] at hmodule hpath ⊢
      exact .inl ⟨parts_of_colon hcolon, hmodule, hafter⟩

theorem not_named_of_trailsColon (h : TrailsColon name e) (e' : EntryPoint) : ¬ Named name e' := by
  intro hnamed
  obtain ⟨before, hcolon⟩ := h.cut
  obtain hcut | ⟨hnone, -⟩ := hnamed.parts.cut
  · rw [hcolon] at hcut
    exact hnamed.path (Prod.mk.inj (Option.some.inj hcut)).2.symm
  · rw [hcolon] at hnone
    cases hnone

end EntryPoint

/-! ## Resolving -/

namespace Launch

open EntryPoint

variable {id : Nat} {name : String} {e : EntryPoint} {w : World}

/-- How an early end of the look-ups ends resolving. An attribute that is missing is a matter of the
    entry point; any other end is passed on as it is. -/
def blamed (e : EntryPoint) (name : String) : Raised → Raised
  | .fault f =>
    if f.isA .missingAttribute then
      .fault (.because (.missingEntryPoint e.moduleName e.path name) f)
    else .fault f
  | raised => raised

/-- Resolving goes on with an entry point. The loader is made active, and then its module, and no
    other name, is given to the importer. The attributes are looked up in the world that the import
    leaves, and an import that ends early ends the whole. -/
def Proceeds (id : Nat) (name : String) (e : EntryPoint) (w : World) : Prop :=
  ∃ ending w',
    (importModule e.moduleName).execute { w with imports := w.imports.activate id } = (ending, w') ∧
    (resolve id name).execute w =
      match ending with
      | .error raised => (.error raised, w')
      | .ok _ =>
        let (answer, after) := (walk (.module e.moduleName) e.attributes).execute w'
        (answer.mapError (blamed e name), after)

theorem proceeds_of_ofName? (h : ofName? name = some e) : Proceeds id name e w := by
  cases himport : (importModule e.moduleName).execute { w with imports := w.imports.activate id } with
  | mk ending w' =>
    refine ⟨ending, w', himport, ?_⟩
    cases ending with
    | error raised =>
      simp only [resolve, h, activate, execute_bind, execute_modify, himport]
    | ok origin =>
      simp only [resolve, h, activate, execute_bind, execute_modify, himport, execute_rescue]
      rcases (walk (.module e.moduleName) e.attributes).execute w' with ⟨raised | o, after⟩
      · cases raised with
        | fault f =>
          change _ = (Except.error (blamed e name (.fault f)), after)
          simp only [blamed]
          split <;> rfl
        | _ => rfl
      · rfl

theorem execute_resolve_refused (h : ofName? name = none) :
    (resolve id name).execute w = (.error (.fault (Error.invalidEntryPoint name : Error)), w) := by
  simp only [resolve, h, execute_fail]

/-- Both parts of a name are there, and resolving imports the first of them with the loader active.
    Or one is missing, and the name is refused in a world that stays as it is. The exception are
    names that end in a colon behind a dot: their part behind the colon is missing, and resolving
    goes on with the parts around the dot. -/
theorem resolve_reads_name (id : Nat) (name : String) (w : World) :
    (∀ e, Named name e → Proceeds id name e w) ∧
    ((∀ e, ¬ Named name e) → (∀ e, ¬ TrailsColon name e) →
      (resolve id name).execute w =
        (.error (.fault (Error.invalidEntryPoint name : Error)), w)) ∧
    (∀ e, TrailsColon name e → (∀ e', ¬ Named name e') ∧ Proceeds id name e w) := by
  refine ⟨?_, ?_, ?_⟩
  · intro e hnamed
    exact proceeds_of_ofName? (ofName?_of_named hnamed)
  · intro hnamed htrails
    apply execute_resolve_refused
    cases hread : ofName? name with
    | none => rfl
    | some e =>
      obtain h | h := named_or_trailsColon hread
      · exact absurd h (hnamed e)
      · exact absurd h (htrails e)
  · intro e htrails
    exact ⟨not_named_of_trailsColon htrails, proceeds_of_ofName? (ofName?_of_trailsColon htrails)⟩

/-- A process with an archive that holds a module without attributes. -/
def moduleWorld : World where
  host :=
    { cwd := "/"
      files :=
        { entries := [(["lib.zip"], { kind := .file .malformed, modules := [("app", {})] })]
          distinct := by decide
          named := by decide } }
  style := .ofVariables [] (.ofInt 0)
  contexts :=
    [⟨{ env := {}, home := none, path := { locators := [⟨"/lib.zip", "file:///lib.zip"⟩] } }, false⟩]

theorem resolve_reads_name_main :
    Named "app.main:Application" ⟨"app.main", "Application"⟩ ∧
      Proceeds 0 "app.main:Application" ⟨"app.main", "Application"⟩ moduleWorld := by
  have hnamed : Named "app.main:Application" ⟨"app.main", "Application"⟩ :=
    ⟨parts_of_colon (by decide), by decide, by decide⟩
  exact ⟨hnamed, (resolve_reads_name 0 _ moduleWorld).1 _ hnamed⟩

/-- A name without anything behind its colon has a missing part. Resolving it loads a module and
    makes the loader active. -/
theorem resolve_loads_for_trailing_colon :
    (∀ e, ¬ Named "app.main:" e) ∧ moduleWorld.imports.isActive 0 = false ∧
      ((resolve 0 "app.main:").execute moduleWorld).2.imports.isActive 0 = true ∧
      ((resolve 0 "app.main:").execute moduleWorld).2.output.events = [.loaded "app"] := by
  have htrails : TrailsColon "app.main:" ⟨"app", "main:"⟩ :=
    @trailsColon_of_cuts _ _ _ "app.main" (by decide) (by decide) (by decide) (by decide)
  exact ⟨not_named_of_trailsColon htrails, by decide, by decide +kernel, by decide +kernel⟩

end Launch

end Launcher
