-- SUMMARY: The finders and the current loader of a process, whatever is done with loaders and applications in it.
import Launcher.Proofs.HandOff.Run

/-!
# Finders over whole runs

Loaders are made active and taken out, names are resolved with them, and applications are run, in
any order and however each of this ends. An operation settles the finders and the current loader at
once, and what it does after that leaves them alone. So the loaders stand behind the finders of the
host, each once, in the order in which they came up last, and the current loader is the one that was
made active last, unless it has been taken out since.
-/
namespace Launcher

open Launch

/-! ## The last place in a list -/

/-- The place is the last one in the list at which something holds. -/
structure IsLast {α : Type} (p : α → Prop) (as : List α) (n : Nat) : Prop where
  here : ∃ a, as[n]? = some a ∧ p a
  after : ∀ m a, n < m → as[m]? = some a → ¬ p a

namespace IsLast

variable {α : Type} {p : α → Prop} {as : List α} {a : α} {m n : Nat}

theorem lt_length (h : IsLast p as n) : n < as.length := by
  obtain ⟨a, ha, -⟩ := h.here
  exact (List.getElem?_eq_some_iff.mp ha).1

theorem concat_self (ha : p a) : IsLast p (as ++ [a]) as.length where
  here := ⟨a, by simp, ha⟩
  after := by
    intro m b hm hb
    have hle : m < as.length + 1 := by simpa using (List.getElem?_eq_some_iff.mp hb).1
    omega

/-- Where something holds of the element at the end, that is the last place. -/
theorem eq_length (h : IsLast p (as ++ [a]) n) (ha : p a) : n = as.length := by
  have hle : n < as.length + 1 := by simpa using h.lt_length
  rcases Nat.lt_or_ge n as.length with hlt | hge
  · exact absurd ha (h.after as.length a hlt (by simp))
  · omega

/-- Where something does not hold of the element at the end, the last place is one before it. -/
theorem concat_iff (ha : ¬ p a) : IsLast p (as ++ [a]) n ↔ IsLast p as n := by
  have hbefore (m : Nat) (hm : m < as.length) : (as ++ [a])[m]? = as[m]? :=
    List.getElem?_append_left hm
  constructor
  · intro h
    obtain ⟨b, hb, hpb⟩ := h.here
    have hlt : n < as.length := by
      have hle : n < as.length + 1 := by simpa using h.lt_length
      rcases Nat.lt_or_ge n as.length with hlt | hge
      · exact hlt
      · obtain rfl : n = as.length := by omega
        obtain rfl : a = b := by simpa using hb
        exact absurd hpb ha
    refine ⟨⟨b, hbefore n hlt ▸ hb, hpb⟩, fun m c hm hc => ?_⟩
    have hmlt := (List.getElem?_eq_some_iff.mp hc).1
    exact h.after m c hm (hbefore m hmlt ▸ hc)
  · intro h
    obtain ⟨b, hb, hpb⟩ := h.here
    refine ⟨⟨b, (hbefore n h.lt_length).trans hb, hpb⟩, fun m c hm hc => ?_⟩
    by_cases hmlt : m < as.length
    · exact h.after m c hm (hbefore m hmlt ▸ hc)
    · have hle : m < as.length + 1 := by simpa using (List.getElem?_eq_some_iff.mp hc).1
      obtain rfl : m = as.length := by omega
      obtain rfl : a = c := by simpa using hc
      exact ha

end IsLast

/-! ## Operations -/

/-- What is done with loaders in a process. Anything may be done besides that leaves alone who is in
    charge. -/
inductive Operation where
  | activate (id : Nat)
  | deactivate (id : Nat)
  | resolve (id : Nat) (name : String)
  | run (id : Nat) (args : List String) (entryPoint : Option String) (r : Reporting)
  | aside (x : Launch Unit) (steady : Steady x)

namespace Operation

/-- Carry out an operation. -/
def launch : Operation → Launch Unit
  | activate id => Launch.activate id
  | deactivate id => Launch.deactivate id
  | resolve id name => do
    let _ ← Launch.resolve id name
  | run id args entryPoint r => do
    let _ ← runApplication id args entryPoint r
  | aside x _ => x

/-- The world that an operation leaves, however it ends. -/
def after (op : Operation) (w : World) : World := (op.launch.execute w).2

/-- The loader that an operation makes active. A name has to be valid for that, and a context that
    is run without failures. -/
def activated? (w : World) : Operation → Option Nat
  | activate id => some id
  | deactivate _ => none
  | resolve id name => (EntryPoint.ofName? name).map fun _ => id
  | run id _ _ _ => (w.context? id).bind fun c => if c.failures = [] then some id else none
  | aside _ _ => none

/-- Does the operation take this loader out? -/
def takesOut (id : Nat) : Operation → Bool
  | deactivate other => other = id
  | _ => false

/-- Carry out operations one after another. -/
def runAll (ops : List Operation) (w : World) : World := ops.foldl (fun w op => op.after w) w

end Operation

/-- An operation, with the worlds before and after it. -/
structure Step where
  before : World
  operation : Operation
  after : World

namespace Step

/-- The loader that is made active. -/
def activated? (s : Step) : Option Nat := s.operation.activated? s.before

/-- The loader comes up: it was not among the finders, and is among them now. -/
def Raises (id : Nat) (s : Step) : Prop :=
  s.before.imports.isActive id = false ∧ s.after.imports.isActive id = true

end Step

/-- The steps of operations that are carried out one after another. -/
def Operation.steps : List Operation → World → List Step
  | [], _ => []
  | op :: ops, w => ⟨w, op, op.after w⟩ :: steps ops (op.after w)

/-! ## One operation -/

/-- From the first world to the second, the charge stayed and all that happened happened under it. -/
structure World.Holds (w w' : World) : Prop where
  standing : w'.standing = w.standing
  occurrences : ∃ more, w'.output.occurrences = w.output.occurrences ++ more ∧
    ∀ o ∈ more, o.standing = w.standing

namespace World

variable {w w' w'' : World}

theorem Holds.refl (w : World) : w.Holds w := ⟨rfl, [], by simp, by simp⟩

theorem Holds.trans (h : w.Holds w') (h' : w'.Holds w'') : w.Holds w'' where
  standing := h'.standing.trans h.standing
  occurrences := by
    obtain ⟨more, hmore, hall⟩ := h.occurrences
    obtain ⟨more', hmore', hall'⟩ := h'.occurrences
    refine ⟨more ++ more', by rw [hmore', hmore, List.append_assoc], fun o ho => ?_⟩
    rcases List.mem_append.mp ho with ho | ho
    · exact hall o ho
    · exact (hall' o ho).trans h.standing

theorem Steady.holds (h : w.Steady w') : w.Holds w' := by
  obtain ⟨more, hmore, hall⟩ := h.occurrences
  exact ⟨h.standing, more, hmore, fun o ho => (hall o ho).1⟩

theorem holds_happen (w : World) (e : Event) : w.Holds (w.happen e) :=
  ⟨rfl, [⟨e, w.standing⟩], rfl, by simp⟩

theorem holds_reported (w : World) (r : Reporting) (text : String) :
    w.Holds (reported w r text) :=
  ⟨reported_standing w r text, [], by simp [reported_occurrences], by simp⟩

end World

namespace Launch

theorem holds_handOff (id : Nat) (name : String) (args : List String) (w : World) :
    (w.underCharge id).Holds ((handOff id name args).execute w).2 := by
  have hmade := (steadyAt_obtain (w.inCharge_underCharge id) name).1.holds
  simp only [handOff, execute_bind, execute_takeCharge]
  rcases hobtain : (obtain id name).execute (w.underCharge id) with ⟨raised | product, made⟩
  · simpa [hobtain] using hmade
  · rw [hobtain] at hmade
    refine hmade.trans ?_
    have hstart := ((tame_startOf name product).steady made).1.holds
    simp only [start, execute_bind]
    rcases hrun : (startOf name product).execute made with ⟨raised | ⟨label, actions⟩, w₁⟩
    · simpa [hrun] using hstart
    · rw [hrun] at hstart
      -- the event of a start happens under the charge too, though it is not steady
      have hactions :=
        ((tame_performActions label actions).steady (w₁.happen (.started label args))).1.holds
      exact hstart.trans ((w₁.holds_happen (.started label args)).trans hactions)

/-- Whatever the hand-off ends in, a run without failures adds no more than a log line and reports. -/
theorem holds_runApplication {w : World} {id : Nat} {c : Context} (hc : w.context? id = some c)
    (hfailures : c.failures = []) (args : List String) (entryPoint : Option String) (r : Reporting) :
    (w.underCharge id).Holds ((runApplication id args entryPoint r).execute w).2 := by
  have hholds := holds_handOff id (runName c entryPoint) args w
  rcases hhand : (handOff id (runName c entryPoint) args).execute w with ⟨handed, w₁⟩
  obtain ⟨ending, w', hrun, -, hstanding, hoccurrences⟩ :=
    runApplication_concludes (r := r) hc hfailures hhand
  rw [hhand] at hholds
  rw [hrun]
  exact ⟨hstanding.trans hholds.standing, by rw [hoccurrences]; exact hholds.occurrences⟩

end Launch

namespace Operation

variable {w : World} {op : Operation}

/-! ### How an operation settles the charge -/

/-- The world once an operation has settled the finders and the current loader. -/
def settled (w : World) : Operation → World
  | activate id => { w with imports := w.imports.activate id }
  | deactivate id => { w with imports := w.imports.deactivate id }
  | resolve id name =>
    match EntryPoint.ofName? name with
    | none => w
    | some _ => { w with imports := w.imports.activate id }
  | run id _ _ _ =>
    match w.context? id with
    | none => w
    | some c => if c.failures = [] then w.underCharge id else w
  | aside _ _ => w

theorem after_resolve (w : World) (id : Nat) (name : String) :
    (resolve id name).after w = ((Launch.resolve id name).execute w).2 := by
  simp only [after, launch, execute_bind]
  split <;> simp [*]

theorem after_run (w : World) (id : Nat) (args : List String) (entryPoint : Option String)
    (r : Reporting) : (run id args entryPoint r).after w =
      ((runApplication id args entryPoint r).execute w).2 := by
  simp only [after, launch, execute_bind]
  split <;> simp [*]

/-- What an operation does after settling the charge leaves it alone. -/
theorem holds_after (op : Operation) (w : World) : (op.settled w).Holds (op.after w) := by
  cases op with
  | activate id => exact .refl _
  | deactivate id => exact .refl _
  | resolve id name =>
    rw [after_resolve]
    cases hname : EntryPoint.ofName? name with
    | none => simpa [settled, Launch.resolve, hname] using World.Holds.refl w
    | some e =>
      simp only [settled, Launch.resolve, hname]
      exact ((tame_find e name).steady _).1.holds
  | run id args entryPoint r =>
    rw [after_run]
    cases hc : w.context? id with
    | none => simpa [settled, runApplication, context, execute_bind, hc] using World.Holds.refl w
    | some c =>
      by_cases hfailures : c.failures = []
      · simpa [settled, hc, hfailures] using holds_runApplication hc hfailures args entryPoint r
      · rw [execute_runApplication_refused hc hfailures]
        simpa [settled, hc, hfailures] using World.holds_reported ..
  | aside x steady => exact (steady w).1.holds

/-- An operation makes a loader active, or takes one out, or does neither. -/
theorem settled_cases (op : Operation) (w : World) :
    (∃ id, op.activated? w = some id ∧ (op.settled w).imports = w.imports.activate id) ∨
    (∃ id, op = .deactivate id ∧ (op.settled w).imports = w.imports.deactivate id) ∨
    (op.activated? w = none ∧ (∀ id, op.takesOut id = false) ∧
      (op.settled w).imports = w.imports) := by
  cases op with
  | activate id => exact .inl ⟨id, rfl, rfl⟩
  | deactivate id => exact .inr (.inl ⟨id, rfl, rfl⟩)
  | resolve id name =>
    cases hname : EntryPoint.ofName? name with
    | none => exact .inr (.inr ⟨by simp [activated?, hname], fun _ => rfl, by simp [settled, hname]⟩)
    | some e => exact .inl ⟨id, by simp [activated?, hname], by simp [settled, hname]⟩
  | run id args entryPoint r =>
    cases hc : w.context? id with
    | none => exact .inr (.inr ⟨by simp [activated?, hc], fun _ => rfl, by simp [settled, hc]⟩)
    | some c =>
      by_cases hfailures : c.failures = []
      · refine .inl ⟨id, by simp [activated?, hc, hfailures], ?_⟩
        simp [settled, hc, hfailures, World.underCharge]
      · refine .inr (.inr ⟨by simp [activated?, hc, hfailures], fun _ => rfl, ?_⟩)
        simp [settled, hc, hfailures]
  | aside x steady => exact .inr (.inr ⟨rfl, fun _ => rfl, rfl⟩)

end Operation

/-! ## Loaders among the finders -/

namespace Imports

variable {i i' : Imports} {hosts : List Finder} {id other : Nat}

theorem mem_loaders : id ∈ i.loaders ↔ i.isActive id = true := by
  rw [isActive_iff, loaders, List.mem_filterMap]
  constructor
  · rintro ⟨f, hf, hid⟩
    cases f with
    | host name paths => cases hid
    | loader other =>
      cases hid
      exact hf
  · exact fun h => ⟨_, h, rfl⟩

theorem loaders_congr (h : i'.finders = i.finders) : i'.loaders = i.loaders := by
  rw [loaders, h, loaders]

theorem loaders_activate (i : Imports) (id : Nat) :
    (i.activate id).loaders = if i.isActive id then i.loaders else i.loaders ++ [id] := by
  unfold activate loaders
  split <;> simp

theorem loaders_deactivate (i : Imports) (id : Nat) :
    (i.deactivate id).loaders = i.loaders.filter (· ≠ id) := by
  unfold deactivate loaders
  induction i.finders with
  | nil => rfl
  | cons f fs ih =>
    cases f with
    | host name paths => simpa using ih
    | loader other => by_cases h : other = id <;> simpa [h] using ih

/-- The loaders stand behind these finders of the host. -/
def Behind (hosts : List Finder) (i : Imports) : Prop := i.finders = hosts ++ i.loaders.map .loader

theorem Behind.activate (h : i.Behind hosts) (id : Nat) : (i.activate id).Behind hosts := by
  unfold Behind at h ⊢
  rw [loaders_activate]
  cases hactive : i.isActive id with
  | true => simpa [Imports.activate, hactive] using h
  | false =>
    have hfinders : (i.activate id).finders = i.finders ++ [.loader id] := by
      simp [Imports.activate, hactive]
    rw [hfinders, h]
    simp

theorem Behind.deactivate (h : i.Behind hosts) (hhosts : ∀ id, .loader id ∉ hosts) (id : Nat) :
    (i.deactivate id).Behind hosts := by
  unfold Behind at h ⊢
  have hkept : hosts.filter (· ≠ .loader id) = hosts := by
    refine List.filter_eq_self.mpr fun f hf => ?_
    have hne : f ≠ .loader id := fun heq => hhosts id (heq ▸ hf)
    simpa using hne
  have hfinders : (i.deactivate id).finders = i.finders.filter (· ≠ .loader id) := rfl
  rw [hfinders, loaders_deactivate, h, List.filter_append, hkept, List.filter_map]
  congr 2
  refine List.filter_congr fun other _ => ?_
  simp

end Imports

/-! ## The order in which loaders came up -/

theorem Step.not_raises_of_mem {s : Step} {id : Nat} (h : id ∈ s.before.imports.loaders) :
    ¬ s.Raises id := by
  rintro ⟨hbefore, -⟩
  simp [Imports.mem_loaders.mp h] at hbefore

/-- Each of the loaders has come up in a step, and the one before another came up last before the
    other did. -/
structure CameUpInOrder (past : List Step) (ids : List Nat) : Prop where
  once : ∀ id ∈ ids, ∃ n, IsLast (Step.Raises id) past n
  order : ids.Pairwise fun a b =>
    ∀ m n, IsLast (Step.Raises a) past m → IsLast (Step.Raises b) past n → m < n

namespace CameUpInOrder

variable {past : List Step} {ids kept : List Nat} {s : Step} {id : Nat}

theorem sublist (h : CameUpInOrder past ids) (hkept : kept.Sublist ids) : CameUpInOrder past kept where
  once := fun id hid => h.once id (hkept.subset hid)
  order := h.order.sublist hkept

/-- A step in which none of the loaders comes up changes nothing about them. -/
theorem concat (h : CameUpInOrder past ids) (hnone : ∀ id ∈ ids, ¬ s.Raises id) :
    CameUpInOrder (past ++ [s]) ids where
  once := by
    intro id hid
    obtain ⟨n, hn⟩ := h.once id hid
    exact ⟨n, (IsLast.concat_iff (hnone id hid)).mpr hn⟩
  order := by
    refine h.order.imp_of_mem fun {a b} ha hb hab m n hm hn => ?_
    exact hab m n ((IsLast.concat_iff (hnone a ha)).mp hm) ((IsLast.concat_iff (hnone b hb)).mp hn)

/-- A loader that comes up is the last one from then on. -/
theorem raise (h : CameUpInOrder past ids) (hnone : ∀ id ∈ ids, ¬ s.Raises id) (hid : s.Raises id) :
    CameUpInOrder (past ++ [s]) (ids ++ [id]) where
  once := by
    intro other hother
    rcases List.mem_append.mp hother with hother | hother
    · exact (h.concat hnone).once other hother
    · obtain rfl := List.mem_singleton.mp hother
      exact ⟨_, IsLast.concat_self hid⟩
  order := by
    refine List.pairwise_append.mpr ⟨(h.concat hnone).order, List.pairwise_singleton .., ?_⟩
    intro a ha b hb m n hm hn
    obtain rfl := List.mem_singleton.mp hb
    rw [hn.eq_length hid]
    exact ((IsLast.concat_iff (hnone a ha)).mp hm).lt_length

end CameUpInOrder

/-! ## The current loader -/

/-- The current loader is the one that was made active in the last step that made one active, unless
    it has been taken out in a later step; before that there is none. -/
structure RecallsActivation (past : List Step) (current : Option Nat) : Prop where
  idle : (∀ s ∈ past, s.activated? = none) → current = none
  active : ∀ n s id, IsLast (fun s : Step => s.activated?.isSome = true) past n → past[n]? = some s →
    s.activated? = some id →
      current = if (past.drop (n + 1)).any (·.operation.takesOut id) then none else some id

namespace RecallsActivation

variable {past : List Step} {current : Option Nat} {s : Step} {id : Nat}

theorem activate (past : List Step) (hs : s.activated? = some id) :
    RecallsActivation (past ++ [s]) (some id) where
  idle := by
    intro hnone
    rw [hnone s (by simp)] at hs
    cases hs
  active := by
    intro n t other hlast ht hother
    obtain rfl := hlast.eq_length (by simp [hs])
    obtain rfl : s = t := by simpa using ht
    rw [hs] at hother
    cases hother
    simp

/-- In a step that makes no loader active, the current one stays unless it is taken out. -/
theorem concat (h : RecallsActivation past current) (hs : s.activated? = none) :
    RecallsActivation (past ++ [s])
      (current.filter fun id => !s.operation.takesOut id) where
  idle := by
    intro hnone
    rw [h.idle fun t ht => hnone t (by simp [ht])]
    rfl
  active := by
    intro n t id hlast ht hid
    have hbefore := (IsLast.concat_iff (by simp [hs])).mp hlast
    have hlt := hbefore.lt_length
    rw [List.getElem?_append_left hlt] at ht
    rw [h.active n t id hbefore ht hid, List.drop_append_of_le_length (by omega), List.any_append]
    cases (past.drop (n + 1)).any (·.operation.takesOut id) <;>
      cases hout : s.operation.takesOut id <;> simp [hout, Option.filter]

end RecallsActivation

/-! ## Whole runs -/

/-- The finders and the current loader after past steps: the loaders stand behind the finders of
    the host, each once, in the order in which they came up last, and the current loader is one of
    them and as the steps recall it. -/
structure Imports.Follows (hosts : List Finder) (past : List Step) (i : Imports) : Prop where
  behind : i.Behind hosts
  nodup : i.loaders.Nodup
  order : CameUpInOrder past i.loaders
  recalls : RecallsActivation past i.current
  present : ∀ id, i.current = some id → id ∈ i.loaders

namespace Imports.Follows

variable {hosts : List Finder} {past : List Step} {i i' : Imports} {w : World} {s : Step} {id : Nat}

theorem congr (h : i.Follows hosts past) (hfinders : i'.finders = i.finders)
    (hcurrent : i'.current = i.current) : i'.Follows hosts past := by
  have hloaders := loaders_congr hfinders
  constructor
  · unfold Behind
    rw [hfinders, hloaders]
    exact h.behind
  · exact hloaders ▸ h.nodup
  · exact hloaders ▸ h.order
  · exact hcurrent ▸ h.recalls
  · rw [hcurrent, hloaders]
    exact h.present

theorem start (hloaders : i.loaders = []) (hcurrent : i.current = none) :
    i.Follows i.finders [] where
  behind := by simp [Behind, hloaders]
  nodup := by simp [hloaders]
  order := by
    rw [hloaders]
    exact ⟨by simp, .nil⟩
  recalls := by
    rw [hcurrent]
    exact ⟨fun _ => rfl, fun n s id _ hs => by simp at hs⟩
  present := by simp [hcurrent]

/-- A step that makes a loader active puts it behind the others if it comes up. -/
theorem activate (h : s.before.imports.Follows hosts past) (hs : s.activated? = some id)
    (hfinders : s.after.imports.finders = (s.before.imports.activate id).finders)
    (hcurrent : s.after.imports.current = some id) :
    s.after.imports.Follows hosts (past ++ [s]) := by
  have hloaders := (loaders_congr hfinders).trans (loaders_activate _ id)
  have hstay : ∀ other ∈ s.before.imports.loaders, ¬ s.Raises other :=
    fun other => Step.not_raises_of_mem
  have hrecalls : RecallsActivation (past ++ [s]) s.after.imports.current := by
    rw [hcurrent]
    exact .activate past hs
  have hbehind : s.after.imports.Behind hosts := by
    have hactivated := h.behind.activate id
    rwa [Behind, ← hfinders, ← loaders_congr hfinders] at hactivated
  have hactive : s.after.imports.isActive id = true := by
    rw [isActive, hfinders]
    exact isActive_activate _ id
  have hpresent : ∀ other, s.after.imports.current = some other → other ∈ s.after.imports.loaders := by
    rintro other hother
    rw [hcurrent] at hother
    cases hother
    exact mem_loaders.mpr hactive
  cases hbefore : s.before.imports.isActive id with
  | true =>
    have hsame : s.after.imports.loaders = s.before.imports.loaders := by simp [hloaders, hbefore]
    exact ⟨hbehind, hsame ▸ h.nodup, hsame ▸ h.order.concat hstay, hrecalls, hpresent⟩
  | false =>
    have hmore : s.after.imports.loaders = s.before.imports.loaders ++ [id] := by
      simp [hloaders, hbefore]
    have hnew : id ∉ s.before.imports.loaders := by simp [mem_loaders, hbefore]
    refine ⟨hbehind, ?_, hmore ▸ h.order.raise hstay ⟨hbefore, hactive⟩, hrecalls, hpresent⟩
    rw [hmore, List.nodup_append]
    refine ⟨h.nodup, by simp, ?_⟩
    rintro a ha b hb rfl
    exact hnew (List.mem_singleton.mp hb ▸ ha)

/-- A step that takes a loader out leaves the others in their order. -/
theorem deactivate (h : s.before.imports.Follows hosts past) (hhosts : ∀ id, .loader id ∉ hosts)
    (hs : s.operation = .deactivate id)
    (hfinders : s.after.imports.finders = (s.before.imports.deactivate id).finders)
    (hcurrent : s.after.imports.current = (s.before.imports.deactivate id).current) :
    s.after.imports.Follows hosts (past ++ [s]) := by
  have hloaders := (loaders_congr hfinders).trans (loaders_deactivate _ id)
  have hsub : s.after.imports.loaders.Sublist s.before.imports.loaders :=
    hloaders ▸ List.filter_sublist
  have hstay : ∀ other ∈ s.after.imports.loaders, ¬ s.Raises other :=
    fun other hother => Step.not_raises_of_mem (hsub.subset hother)
  have hnone : s.activated? = none := by simp [Step.activated?, hs, Operation.activated?]
  have hkept : s.after.imports.current =
      s.before.imports.current.filter fun other => !s.operation.takesOut other := by
    rw [hcurrent, hs]
    unfold Imports.deactivate Operation.takesOut
    cases hbefore : s.before.imports.current with
    | none => simp
    | some other =>
      by_cases heq : id = other
      · simp [Option.filter, heq]
      · simp [Option.filter, heq, Ne.symm heq]
  refine ⟨?_, hsub.nodup h.nodup, (h.order.sublist hsub).concat hstay, ?_, ?_⟩
  · have hbehind := h.behind.deactivate hhosts id
    rwa [Behind, ← hfinders, ← loaders_congr hfinders] at hbehind
  · rw [hkept]
    exact h.recalls.concat hnone
  · intro other hother
    rw [hkept, Option.filter_eq_some_iff] at hother
    have hne : other ≠ id := by
      rintro rfl
      simp [hs, Operation.takesOut] at hother
    rw [hloaders, List.mem_filter]
    exact ⟨h.present other hother.1, by simpa using hne⟩

/-- A step that does neither leaves all as it was. -/
theorem stay (h : s.before.imports.Follows hosts past) (hs : s.activated? = none)
    (hout : ∀ id, s.operation.takesOut id = false)
    (hfinders : s.after.imports.finders = s.before.imports.finders)
    (hcurrent : s.after.imports.current = s.before.imports.current) :
    s.after.imports.Follows hosts (past ++ [s]) := by
  refine congr ?_ hfinders hcurrent
  refine ⟨h.behind, h.nodup, h.order.concat fun id => Step.not_raises_of_mem, ?_, h.present⟩
  have hkept : s.before.imports.current.filter (fun id => !s.operation.takesOut id) =
      s.before.imports.current := by
    cases s.before.imports.current <;> simp [Option.filter, hout]
  exact hkept ▸ h.recalls.concat hs

/-- An operation is one more step. -/
theorem step (h : w.imports.Follows hosts past) (hhosts : ∀ id, .loader id ∉ hosts)
    (op : Operation) : (op.after w).imports.Follows hosts (past ++ [⟨w, op, op.after w⟩]) := by
  have hstanding := (op.holds_after w).standing
  have hfinders : (op.after w).imports.finders = (op.settled w).imports.finders :=
    congrArg Standing.finders hstanding
  have hcurrent : (op.after w).imports.current = (op.settled w).imports.current :=
    congrArg Standing.current hstanding
  obtain ⟨id, hs, hsettled⟩ | ⟨id, hs, hsettled⟩ | ⟨hs, hout, hsettled⟩ := op.settled_cases w
  · rw [hsettled] at hfinders hcurrent
    exact activate (s := ⟨w, op, op.after w⟩) h hs hfinders hcurrent
  · rw [hsettled] at hfinders hcurrent
    exact deactivate (s := ⟨w, op, op.after w⟩) h hhosts hs hfinders hcurrent
  · rw [hsettled] at hfinders hcurrent
    exact stay (s := ⟨w, op, op.after w⟩) h hs hout hfinders hcurrent

/-- Operations carried out one after another are so many more steps. -/
theorem runAll (h : w.imports.Follows hosts past) (hhosts : ∀ id, .loader id ∉ hosts)
    (ops : List Operation) :
    (Operation.runAll ops w).imports.Follows hosts (past ++ Operation.steps ops w) := by
  induction ops generalizing past w with
  | nil => simpa [Operation.runAll, Operation.steps] using h
  | cons op ops ih => simpa [Operation.runAll, Operation.steps] using ih (h.step hhosts op)

end Imports.Follows

/-! ## Occurrences -/

/-- Who is in charge is in order: loaders alone stand behind the finders of the host, each once, and
    the current loader is one of them. -/
structure Standing.InOrder (hosts : List Finder) (s : Standing) : Prop where
  finders : ∃ ids : List Nat, ids.Nodup ∧ s.finders = hosts ++ ids.map .loader
  current : ∀ id, s.current = some id → .loader id ∈ s.finders

theorem Imports.Follows.inOrder {hosts : List Finder} {past : List Step} {w : World}
    (h : w.imports.Follows hosts past) : w.standing.InOrder hosts where
  finders := ⟨w.imports.loaders, h.nodup, h.behind⟩
  current := fun id hid => Imports.isActive_iff.mp (Imports.mem_loaders.mp (h.present id hid))

/-- Whatever happens while operations are carried out happens with the finders in order. -/
theorem Imports.Follows.occurrences {hosts : List Finder} {past : List Step} {w : World}
    (h : w.imports.Follows hosts past) (hhosts : ∀ id, .loader id ∉ hosts) (ops : List Operation) :
    ∃ more, (Operation.runAll ops w).output.occurrences = w.output.occurrences ++ more ∧
      ∀ o ∈ more, o.standing.InOrder hosts := by
  induction ops generalizing past w with
  | nil => exact ⟨[], by simp [Operation.runAll], by simp⟩
  | cons op ops ih =>
    have hstep := h.step hhosts op
    obtain ⟨more', hmore', hall'⟩ := ih hstep
    obtain ⟨hstanding, more, hmore, hall⟩ := op.holds_after w
    -- what happens in the step happens under the charge that the step leaves
    have hbefore : (op.settled w).output = w.output := by
      cases op with
      | activate => rfl
      | deactivate => rfl
      | resolve id name =>
        unfold Operation.settled
        simp only
        split <;> rfl
      | run id =>
        unfold Operation.settled World.underCharge
        simp only
        split
        · rfl
        · split <;> rfl
      | aside => rfl
    rw [hbefore] at hmore
    refine ⟨more ++ more', ?_, fun o ho => ?_⟩
    · simpa [Operation.runAll, ← List.append_assoc, ← hmore] using hmore'
    · rcases List.mem_append.mp ho with ho | ho
      · rw [hall o ho, ← hstanding]
        exact hstep.inOrder
      · exact hall' o ho

/-- From a process without loaders among its finders and without a current loader, operations of
    any kind, on any loaders and contexts, and however they end, leave the finders of the host in
    their place and order, and behind them the active loaders, each once, in the order in which they
    came up last. The current loader is the one that was made active last, unless it has been taken
    out since; then there is none, so it is always among the finders. The same holds at every moment
    at which application code is seen to do something. -/
theorem finders_follow_operations {w : World} (hloaders : w.imports.loaders = [])
    (hcurrent : w.imports.current = none) (ops : List Operation) :
    (Operation.runAll ops w).imports.Follows w.imports.finders (Operation.steps ops w) ∧
    ∃ more, (Operation.runAll ops w).output.occurrences = w.output.occurrences ++ more ∧
      ∀ o ∈ more, o.standing.InOrder w.imports.finders := by
  have hstart := Imports.Follows.start hloaders hcurrent
  have hhosts (id : Nat) : .loader id ∉ w.imports.finders := by
    rw [← Imports.isActive_iff, ← Imports.mem_loaders, hloaders]
    exact List.not_mem_nil
  refine ⟨?_, hstart.occurrences hhosts ops⟩
  simpa using hstart.runAll hhosts ops

/-- A process with two finders of its own, and a context whose loader provides the application. -/
def finderWorld : World :=
  { Launch.greeterWorld with
    imports := { Imports.initial with finders := [.host "builtin", .host "path"] } }

/-- Two loaders that come up, are resolved with, run, and are taken out, and a path that is added. -/
def finderOperations : List Operation :=
  [.activate 1, .run 0 ["x"] none .collected, .resolve 1 "app.", .deactivate 1,
    .aside (addPath 0 (.text "/app")) (steady_addPath 0 _), .activate 1, .resolve 0 "missing:x",
    .deactivate 0]

theorem finders_follow_operations_two :
    finderWorld.imports.loaders = [] ∧ finderWorld.imports.current = none ∧
    (Operation.runAll finderOperations finderWorld).imports.Follows
      [.host "builtin", .host "path"] (Operation.steps finderOperations finderWorld) := by
  have hloaders : finderWorld.imports.loaders = [] := rfl
  have hcurrent : finderWorld.imports.current = none := rfl
  exact ⟨hloaders, hcurrent, (finders_follow_operations hloaders hcurrent finderOperations).1⟩

end Launcher
