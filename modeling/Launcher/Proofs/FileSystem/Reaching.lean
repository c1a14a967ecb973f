-- SUMMARY: Lookup as a relation that counts the links followed, and the walks that meet no link.
import Launcher.Proofs.FileSystem.Canonical

/-!
# Lookup as a relation

A lookup that succeeds is described step by step, without a budget: `Reaches` says where names lead
and how many links are followed on the way. Both are determined by where the walk starts. A walk
that meets no link is one that `Treads`; where it ends, no name on the way from the root is a link.
What is reached is reached as well where names can be looked up in every directory.
-/
namespace Launcher.FileSystem

variable {fs : FileSystem} {here mid at_ : Location} {name target : String}
  {names rest : List String} {n : Node} {k : Nat}

/-! ## One name -/

/-- Names can be looked up at the location. -/
def Searchable (fs : FileSystem) (here : Location) : Prop :=
  ∃ dir, fs.node? here = some dir ∧ dir.isSearchable = true

theorem isDirectory_of_isSearchable (h : n.isSearchable = true) : n.isDirectory = true := by
  unfold Node.isSearchable at h
  unfold Node.isDirectory
  split at h <;> simp_all

/-- What stands below a location has the name of an entry. -/
theorem isEntryName_of_node? (hnode : fs.node? (here ++ [name]) = some n) :
    isEntryName name = true := by
  have hall := fs.named _ (mem_of_node?_concat hnode)
  simp_all

theorem Avoids.of_node? {c : Char} (h : fs.Avoids c) (hnode : fs.node? (here ++ [name]) = some n) :
    Text.has c name = false :=
  h _ (mem_of_node?_concat hnode) name (by simp)

theorem ne_of_isEntryName (h : isEntryName name = true) :
    name ≠ "" ∧ name ≠ "." ∧ name ≠ ".." ∧ Text.has '/' name = false := by
  simpa [isEntryName, and_assoc] using h

section Walking

variable {onLink : Location → String → List String → Except Errno Location} {follow : Bool}

theorem walkWith_down (hhere : fs.Searchable here) (hnode : fs.node? (here ++ [name]) = some n)
    (hlink : n.target? = none) :
    fs.walkWith onLink follow here (name :: rest) =
      fs.walkWith onLink follow (here ++ [name]) rest := by
  obtain ⟨dir, hdir, hsearch⟩ := hhere
  obtain ⟨hempty, hdot, hup, -⟩ := ne_of_isEntryName (isEntryName_of_node? hnode)
  simp [walkWith, hdir, isDirectory_of_isSearchable hsearch, hsearch, hempty, hdot, hup, hnode, hlink]

theorem walkWith_up (hhere : fs.Searchable here) :
    fs.walkWith onLink follow here (".." :: rest) = fs.walkWith onLink follow here.dropLast rest := by
  obtain ⟨dir, hdir, hsearch⟩ := hhere
  simp [walkWith, hdir, isDirectory_of_isSearchable hsearch, hsearch]

/-- A name that is last is not followed unless that is asked for. -/
theorem walkWith_last (hhere : fs.Searchable here) (hnode : fs.node? (here ++ [name]) = some n) :
    fs.walkWith onLink false here [name] = .ok (here ++ [name]) := by
  obtain ⟨dir, hdir, hsearch⟩ := hhere
  obtain ⟨hempty, hdot, hup, -⟩ := ne_of_isEntryName (isEntryName_of_node? hnode)
  cases hlink : n.target? <;>
    simp [walkWith, hdir, isDirectory_of_isSearchable hsearch, hsearch, hempty, hdot, hup, hnode, hlink]

/-- A walk that succeeds passes its first name in one of four ways. -/
theorem walkWith_cases (hwalk : fs.walkWith onLink true here (name :: rest) = .ok at_) :
    ((name = "" ∨ name = ".") ∧ fs.walkWith onLink true here rest = .ok at_) ∨
    (name = ".." ∧ fs.Searchable here ∧ fs.walkWith onLink true here.dropLast rest = .ok at_) ∨
    (∃ n, fs.Searchable here ∧ fs.node? (here ++ [name]) = some n ∧ n.target? = none ∧
      fs.walkWith onLink true (here ++ [name]) rest = .ok at_) ∨
    ∃ n target, fs.Searchable here ∧ fs.node? (here ++ [name]) = some n ∧
      n.target? = some target ∧ onLink here target rest = .ok at_ := by
  rw [walkWith] at hwalk
  cases hdir : fs.node? here with
  | none => simp [hdir] at hwalk
  | some dir =>
    simp only [hdir] at hwalk
    split at hwalk
    · cases hwalk
    split at hwalk
    case isTrue hempty => exact .inl ⟨.inl hempty, hwalk⟩
    split at hwalk
    · cases hwalk
    case isFalse hsearch =>
    have hhere : fs.Searchable here := ⟨dir, hdir, by simpa using hsearch⟩
    split at hwalk
    case isTrue hdot => exact .inl ⟨.inr hdot, hwalk⟩
    split at hwalk
    case isTrue hup => exact .inr (.inl ⟨hup, hhere, hwalk⟩)
    cases hnode : fs.node? (here ++ [name]) with
    | none => simp [hnode] at hwalk
    | some n =>
      cases hlink : n.target? with
      | none => exact .inr (.inr (.inl ⟨n, hhere, rfl, hlink, by simpa [hnode, hlink] using hwalk⟩))
      | some target =>
        exact .inr (.inr (.inr ⟨n, target, hhere, rfl, hlink, by simpa [hnode, hlink] using hwalk⟩))

end Walking

/-! ## Names that lead somewhere -/

/-- Where the target of a link that is met at a location is walked from. -/
def startOf (here : Location) (target : String) : Location :=
  if Text.startsWith target "/" then [] else here

/-- Walked from a location, with every link followed, the names lead to another one. The number
    counts the links. -/
inductive Reaches (fs : FileSystem) : Location → List String → Location → Nat → Prop
  | here {at_ : Location} : Reaches fs at_ [] at_ 0
  | stay {here at_ : Location} {name : String} {rest : List String} {k : Nat} :
    name = "." → Reaches fs here rest at_ k → Reaches fs here (name :: rest) at_ k
  | up {here at_ : Location} {name : String} {rest : List String} {k : Nat} :
    name = ".." → fs.Searchable here → Reaches fs here.dropLast rest at_ k →
    Reaches fs here (name :: rest) at_ k
  | down {here at_ : Location} {name : String} {rest : List String} {n : Node} {k : Nat} :
    fs.Searchable here → fs.node? (here ++ [name]) = some n → n.target? = none →
    Reaches fs (here ++ [name]) rest at_ k → Reaches fs here (name :: rest) at_ k
  | link {here mid at_ : Location} {name target : String} {rest : List String} {n : Node}
    {k₁ k₂ : Nat} :
    fs.Searchable here → fs.node? (here ++ [name]) = some n → n.target? = some target →
    Reaches fs (startOf here target) (location target) mid k₁ → Reaches fs mid rest at_ k₂ →
      Reaches fs here (name :: rest) at_ (k₁ + k₂ + 1)

/-- Where names lead, and past how many links, is determined. -/
theorem Reaches.unique {at_' : Location} {k' : Nat} (h : fs.Reaches here names at_ k)
    (h' : fs.Reaches here names at_' k') : at_ = at_' ∧ k = k' := by
  induction h generalizing at_' k' with
  | here =>
    cases h'
    exact ⟨rfl, rfl⟩
  | stay hname _ ih =>
    cases h' with
    | stay _ h' => exact ih h'
    | up hname' => simp [hname] at hname'
    | down _ hnode => exact absurd hname (ne_of_isEntryName (isEntryName_of_node? hnode)).2.1
    | link _ hnode => exact absurd hname (ne_of_isEntryName (isEntryName_of_node? hnode)).2.1
  | up hname _ _ ih =>
    cases h' with
    | stay hname' => simp [hname] at hname'
    | up _ _ h' => exact ih h'
    | down _ hnode => exact absurd hname (ne_of_isEntryName (isEntryName_of_node? hnode)).2.2.1
    | link _ hnode => exact absurd hname (ne_of_isEntryName (isEntryName_of_node? hnode)).2.2.1
  | down _ hnode hlink _ ih =>
    cases h' with
    | stay hname => exact absurd hname (ne_of_isEntryName (isEntryName_of_node? hnode)).2.1
    | up hname => exact absurd hname (ne_of_isEntryName (isEntryName_of_node? hnode)).2.2.1
    | down _ _ _ h' => exact ih h'
    | link _ hnode' hlink' => simp_all
  | link _ hnode hlink _ _ ihTarget ihRest =>
    cases h' with
    | stay hname => exact absurd hname (ne_of_isEntryName (isEntryName_of_node? hnode)).2.1
    | up hname => exact absurd hname (ne_of_isEntryName (isEntryName_of_node? hnode)).2.2.1
    | down _ hnode' hlink' => simp_all
    | link _ hnode' hlink' hTarget hRest =>
      obtain rfl := Option.some.inj (hnode.symm.trans hnode')
      obtain rfl := Option.some.inj (hlink.symm.trans hlink')
      obtain ⟨rfl, rfl⟩ := ihTarget hTarget
      obtain ⟨rfl, rfl⟩ := ihRest hRest
      exact ⟨rfl, rfl⟩

/-- Names one after another lead somewhere by way of where the first ones lead. -/
theorem Reaches.split (h : fs.Reaches here (names ++ rest) at_ k) :
    ∃ mid k₁ k₂, fs.Reaches here names mid k₁ ∧ fs.Reaches mid rest at_ k₂ ∧ k = k₁ + k₂ := by
  induction names generalizing here k with
  | nil => exact ⟨here, 0, k, .here, h, by omega⟩
  | cons name names ih =>
    cases h with
    | stay hname h =>
      obtain ⟨mid, k₁, k₂, h₁, h₂, rfl⟩ := ih h
      exact ⟨mid, k₁, k₂, .stay hname h₁, h₂, rfl⟩
    | up hname hhere h =>
      obtain ⟨mid, k₁, k₂, h₁, h₂, rfl⟩ := ih h
      exact ⟨mid, k₁, k₂, .up hname hhere h₁, h₂, rfl⟩
    | down hhere hnode hlink h =>
      obtain ⟨mid, k₁, k₂, h₁, h₂, rfl⟩ := ih h
      exact ⟨mid, k₁, k₂, .down hhere hnode hlink h₁, h₂, rfl⟩
    | @link _ _ _ _ _ _ _ kTarget _ hhere hnode hlink hTarget h =>
      obtain ⟨mid, k₁, k₂, h₁, h₂, rfl⟩ := ih h
      exact ⟨mid, kTarget + k₁ + 1, k₂, .link hhere hnode hlink hTarget h₁, h₂, by omega⟩

/-! ## The characters on the way -/

theorem has_dots {c : Char} (hc : c ≠ '.') (hname : name = "." ∨ name = "..") :
    Text.has c name = false := by
  rcases hname with rfl | rfl <;> simp [Text.has, hc]

/-- Names that lead somewhere are names of entries, but for the dots. -/
theorem Reaches.has_names {c : Char} (h : fs.Reaches here names at_ k) (havoid : fs.Avoids c)
    (hc : c ≠ '.') : ∀ name ∈ names, Text.has c name = false := by
  induction h with
  | here => simp
  | stay hname _ ih => exact List.forall_mem_cons.mpr ⟨has_dots hc (.inl hname), ih⟩
  | up hname _ _ ih => exact List.forall_mem_cons.mpr ⟨has_dots hc (.inr hname), ih⟩
  | down _ hnode _ _ ih => exact List.forall_mem_cons.mpr ⟨havoid.of_node? hnode, ih⟩
  | link _ hnode _ _ _ _ ih => exact List.forall_mem_cons.mpr ⟨havoid.of_node? hnode, ih⟩

/-- No name in the target of a link holds the character, where the target leads somewhere. -/
def FollowedAvoid (fs : FileSystem) (c : Char) : Prop :=
  ∀ here name n target mid k, fs.node? (here ++ [name]) = some n → n.target? = some target →
    fs.Reaches (startOf here target) (location target) mid k →
      ∀ other ∈ location target, Text.has c other = false

theorem has_of_mem_location {c : Char} {text : String} (h : Text.has c text = false) :
    ∀ name ∈ location text, Text.has c name = false := by
  intro name hname
  obtain ⟨chars, hchars, rfl⟩ := List.mem_map.mp hname
  rw [Text.has_eq_false_iff] at h ⊢
  exact fun hc => h (Text.mem_of_mem_split (List.mem_filter.mp hchars).1 (by simpa using hc))

theorem Avoids.followedAvoid {c : Char} (havoid : fs.Avoids c) (hc : c ≠ '.') :
    fs.FollowedAvoid c :=
  fun _ _ _ _ _ _ _ _ hreach => hreach.has_names havoid hc

theorem TargetsAvoid.followedAvoid {c : Char} (htargets : fs.TargetsAvoid c) :
    fs.FollowedAvoid c :=
  fun _ _ _ _ _ _ hnode hlink _ => has_of_mem_location (htargets.has_target hnode hlink)

/-- A character that no name on the way holds is in no name of where the way leads. -/
theorem Reaches.has_at {c : Char} (h : fs.Reaches here names at_ k) (hfollowed : fs.FollowedAvoid c)
    (hhere : ∀ name ∈ here, Text.has c name = false)
    (hnames : ∀ name ∈ names, Text.has c name = false) : ∀ name ∈ at_, Text.has c name = false := by
  induction h with
  | here => exact hhere
  | stay _ _ ih => exact ih hhere (List.forall_mem_cons.mp hnames).2
  | up _ _ _ ih =>
    exact ih (fun name hname => hhere name (List.dropLast_subset _ hname))
      (List.forall_mem_cons.mp hnames).2
  | down _ _ _ _ ih =>
    obtain ⟨hname, hrest⟩ := List.forall_mem_cons.mp hnames
    refine ih ?_ hrest
    intro other hother
    rcases List.mem_append.mp hother with hother | hother
    · exact hhere other hother
    · rwa [List.mem_singleton.mp hother]
  | @link here _ _ _ target _ _ _ _ _ hnode hlink hTarget _ ihTarget ihRest =>
    have hstart : ∀ name ∈ startOf here target, Text.has c name = false := by
      unfold startOf
      split
      · simp
      · exact hhere
    exact ihRest (ihTarget hstart (hfollowed _ _ _ _ _ _ hnode hlink hTarget))
      (List.forall_mem_cons.mp hnames).2

/-- Names that stay where they are make no difference to where the others lead. -/
theorem reaches_filter_dots :
    fs.Reaches here (names.filter (· ≠ ".")) at_ k ↔ fs.Reaches here names at_ k := by
  have hkeep {name : String} {rest : List String} (hname : name ≠ ".") :
      (name :: rest).filter (· ≠ ".") = name :: rest.filter (· ≠ ".") := by simp [hname]
  constructor
  · intro h
    induction names generalizing here k with
    | nil => exact h
    | cons name rest ih =>
      by_cases hname : name = "."
      · exact .stay hname (ih (by simpa [hname] using h))
      rw [hkeep hname] at h
      cases h with
      | stay hdot => exact absurd hdot hname
      | up hup hhere h => exact .up hup hhere (ih h)
      | down hhere hnode hlink h => exact .down hhere hnode hlink (ih h)
      | link hhere hnode hlink hTarget h => exact .link hhere hnode hlink hTarget (ih h)
  · intro h
    induction h with
    | here => exact .here
    | stay hname _ ih => simpa [hname] using ih
    | up hname hhere _ ih =>
      rw [hkeep (by simp [hname])]
      exact .up hname hhere ih
    | down hhere hnode hlink _ ih =>
      rw [hkeep (ne_of_isEntryName (isEntryName_of_node? hnode)).2.1]
      exact .down hhere hnode hlink ih
    | link hhere hnode hlink hTarget _ _ ih =>
      rw [hkeep (ne_of_isEntryName (isEntryName_of_node? hnode)).2.1]
      exact .link hhere hnode hlink hTarget ih

/-! ## Lookups that succeed -/

theorem ne_empty_of_mem_location {text : String} (h : name ∈ location text) : name ≠ "" := by
  obtain ⟨chars, hchars, rfl⟩ := List.mem_map.mp h
  have hne : chars ≠ [] := by simpa using (List.mem_filter.mp hchars).2
  intro hempty
  exact hne (by simpa using congrArg String.toList hempty)

theorem filter_location (text : String) : (location text).filter (· ≠ "") = location text :=
  List.filter_eq_self.mpr fun name hname => by simpa using ne_empty_of_mem_location hname

/-- A separator at the end of a text aside, the names of its route are those of its location. -/
theorem filter_names_ofText (text : String) :
    (Route.ofText text).names.filter (· ≠ "") = location text := by
  change (location text ++ _).filter _ = _
  rw [List.filter_append, filter_location]
  split <;> simp

theorem reaches_of_walkWith {onLink : Location → String → List String → Except Errno Location}
    {budget : Nat}
    (honLink : ∀ here target rest at_, onLink here target rest = .ok at_ →
      ∃ k < budget, fs.Reaches (startOf here target) (location target ++ rest.filter (· ≠ "")) at_ k)
    (hwalk : fs.walkWith onLink true here names = .ok at_) :
    ∃ k ≤ budget, fs.Reaches here (names.filter (· ≠ "")) at_ k := by
  induction names generalizing here with
  | nil =>
    cases hwalk
    exact ⟨0, Nat.zero_le _, .here⟩
  | cons name rest ih =>
    have hkeep (hne : name ≠ "") :
        (name :: rest).filter (· ≠ "") = name :: rest.filter (· ≠ "") := by simp [hne]
    obtain ⟨rfl | rfl, hrest⟩ | ⟨rfl, hhere, hrest⟩ | ⟨n, hhere, hnode, hlink, hrest⟩ |
      ⟨n, target, hhere, hnode, hlink, hfollow⟩ := walkWith_cases hwalk
    · exact ih hrest
    · obtain ⟨k, hk, hreach⟩ := ih hrest
      exact ⟨k, hk, .stay rfl hreach⟩
    · obtain ⟨k, hk, hreach⟩ := ih hrest
      exact ⟨k, hk, .up rfl hhere hreach⟩
    · obtain ⟨k, hk, hreach⟩ := ih hrest
      rw [hkeep (ne_of_isEntryName (isEntryName_of_node? hnode)).1]
      exact ⟨k, hk, .down hhere hnode hlink hreach⟩
    · obtain ⟨k, hk, hreach⟩ := honLink here target rest at_ hfollow
      obtain ⟨mid, k₁, k₂, hTarget, hRest, rfl⟩ := hreach.split
      rw [hkeep (ne_of_isEntryName (isEntryName_of_node? hnode)).1]
      exact ⟨k₁ + k₂ + 1, by omega, .link hhere hnode hlink hTarget hRest⟩

/-- A lookup that succeeds follows no more links than its budget allows. -/
theorem reaches_of_walk {budget : Nat} (hwalk : fs.walk true budget here names = .ok at_) :
    ∃ k ≤ budget, fs.Reaches here (names.filter (· ≠ "")) at_ k := by
  induction budget generalizing here names at_ with
  | zero => exact reaches_of_walkWith (by simp) hwalk
  | succ budget ih =>
    refine reaches_of_walkWith ?_ hwalk
    intro here target rest at_ hfollow
    split at hfollow
    · cases hfollow
    · obtain ⟨k, hk, hreach⟩ : ∃ k ≤ budget, fs.Reaches (startOf here target)
          (((Route.ofText target).names ++ rest).filter (· ≠ "")) at_ k := ih hfollow
      rw [List.filter_append, filter_names_ofText] at hreach
      exact ⟨k, by omega, hreach⟩

/-! ## Walks that meet no link -/

/-- Walked from a start, the names lead to a location, and none of them is a link. -/
inductive Treads (fs : FileSystem) (start : Location) : List String → Location → Prop
  | start : Treads fs start [] start
  | down {names : List String} {here : Location} {name : String} {n : Node} :
    Treads fs start names here → fs.Searchable here → fs.node? (here ++ [name]) = some n →
    n.target? = none → Treads fs start (names ++ [name]) (here ++ [name])
  | up {names : List String} {here : Location} :
    Treads fs start names here → fs.Searchable here → Treads fs start (names ++ [".."]) here.dropLast

/-- Every name on the way from the root is the name of an entry, and no link. -/
def IsCanonical (fs : FileSystem) (at_ : Location) : Prop :=
  (∀ name ∈ at_, isEntryName name = true) ∧
    ∀ q, q <+: at_ → q ≠ [] → ∀ n, fs.node? q = some n → n.target? = none

theorem IsCanonical.dropLast (h : fs.IsCanonical at_) : fs.IsCanonical at_.dropLast :=
  ⟨fun name hname => h.1 name (List.dropLast_subset _ hname),
    fun q hq => h.2 q (hq.trans (List.dropLast_prefix _))⟩

theorem isCanonical_root (fs : FileSystem) : fs.IsCanonical [] := ⟨by simp, by simp⟩

theorem IsCanonical.concat (h : fs.IsCanonical here) (hnode : fs.node? (here ++ [name]) = some n)
    (hlink : n.target? = none) : fs.IsCanonical (here ++ [name]) := by
  refine ⟨?_, ?_⟩
  · intro other hother
    rcases List.mem_append.mp hother with hother | hother
    · exact h.1 other hother
    · rw [List.mem_singleton.mp hother]
      exact isEntryName_of_node? hnode
  · intro q hq hne n' hn'
    rcases List.prefix_concat_iff.mp hq with rfl | hq
    · rw [hnode] at hn'
      cases hn'
      exact hlink
    · exact h.2 q hq hne n' hn'

variable {start : Location}

theorem Treads.isCanonical (h : fs.Treads start names here) (hstart : fs.IsCanonical start) :
    fs.IsCanonical here := by
  induction h with
  | start => exact hstart
  | down _ _ hnode hlink ih => exact ih.concat hnode hlink
  | up _ _ ih => exact ih.dropLast

/-- The last name of a walk leads up, or down by one level. -/
theorem Treads.concat_cases (h : fs.Treads start (names ++ [name]) at_) :
    ∃ here, fs.Treads start names here ∧ fs.Searchable here ∧
      ((name = ".." ∧ at_ = here.dropLast) ∨
        (at_ = here ++ [name] ∧ ∃ n, fs.node? at_ = some n ∧ n.target? = none)) := by
  generalize hall : names ++ [name] = all at h
  cases h with
  | start => simp at hall
  | down h hhere hnode hlink =>
    obtain ⟨rfl, hlast⟩ := List.append_inj' hall rfl
    cases hlast
    exact ⟨_, h, hhere, .inr ⟨rfl, _, hnode, hlink⟩⟩
  | up h hhere =>
    obtain ⟨rfl, hlast⟩ := List.append_inj' hall rfl
    cases hlast
    exact ⟨_, h, hhere, .inl ⟨rfl, rfl⟩⟩

theorem Treads.nil_iff : fs.Treads start [] at_ ↔ at_ = start := by
  constructor
  · intro h
    generalize hall : ([] : List String) = all at h
    cases h with
    | start => rfl
    | down => simp at hall
    | up => simp at hall
  · rintro rfl
    exact .start

/-- A walk goes on from where a part without links ends. -/
theorem Treads.walkWith (h : fs.Treads start names here)
    (onLink : Location → String → List String → Except Errno Location) (follow : Bool)
    (rest : List String) :
    fs.walkWith onLink follow start (names ++ rest) = fs.walkWith onLink follow here rest := by
  induction h generalizing rest with
  | start => rfl
  | down _ hhere hnode hlink ih =>
    rw [List.append_assoc, ih]
    exact walkWith_down hhere hnode hlink
  | up _ hhere ih =>
    rw [List.append_assoc, ih]
    exact walkWith_up hhere

theorem Treads.unique {here' : Location} (h : fs.Treads start names here)
    (h' : fs.Treads start names here') : here = here' := by
  have hwalk := h.walkWith (fun _ _ _ => .error .loop) true []
  rw [h'.walkWith] at hwalk
  exact (Except.ok.inj hwalk).symm

/-- A location stands for itself when the names on it are collapsed. -/
theorem IsCanonical.collapse (h : fs.IsCanonical at_) : Host.collapse true at_ = at_ := by
  rw [Host.collapse_eq_foldl]
  have hfold (done names : List String) (hnames : ∀ name ∈ names, isEntryName name = true) :
      names.foldl (Host.collapseStep true) done = done ++ names := by
    induction names generalizing done with
    | nil => simp
    | cons name names ih =>
      obtain ⟨hname, hrest⟩ := List.forall_mem_cons.mp hnames
      obtain ⟨hempty, hdot, hup, -⟩ := ne_of_isEntryName hname
      simp [Host.collapseStep, hempty, hdot, hup, ih _ hrest]
  simpa using hfold [] at_ h.1

/-- Collapsing the names of a walk without links gives where it ends. -/
theorem Treads.collapse (h : fs.Treads start names here) (hstart : fs.IsCanonical start) :
    Host.collapse true (start ++ names) = here := by
  induction h with
  | start => simpa using hstart.collapse
  | @down names here name n h hhere hnode hlink ih =>
    obtain ⟨hempty, hdot, hup, -⟩ := ne_of_isEntryName (isEntryName_of_node? hnode)
    rw [Host.collapse_eq_foldl] at ih ⊢
    rw [← List.append_assoc, List.foldl_append, ih]
    simp [Host.collapseStep, hempty, hdot, hup]
  | @up names here h hhere ih =>
    have hlast : here.getLast? ≠ some ".." := by
      intro hlast
      have hmem := List.mem_of_getLast? hlast
      exact (ne_of_isEntryName ((h.isCanonical hstart).1 ".." hmem)).2.2.1 rfl
    rw [Host.collapse_eq_foldl] at ih ⊢
    rw [← List.append_assoc, List.foldl_append, ih]
    simp [Host.collapseStep, hlast]

/-- Walked over the names of a canonical location, a walk goes on from there, or is refused. A link
    is not why. -/
theorem IsCanonical.walkWith_cases (h : fs.IsCanonical (here ++ names))
    (onLink : Location → String → List String → Except Errno Location) (follow : Bool)
    (rest : List String) :
    fs.walkWith onLink follow here (names ++ rest) =
        fs.walkWith onLink follow (here ++ names) rest ∨
      ∃ e, e ≠ .loop ∧ fs.walkWith onLink follow here (names ++ rest) = .error e := by
  induction names generalizing here with
  | nil => simp
  | cons name names ih =>
    have hassoc : here ++ name :: names = here ++ [name] ++ names := by simp
    rw [hassoc] at h ⊢
    obtain ⟨hempty, hdot, hup, -⟩ := ne_of_isEntryName (h.1 name (by simp))
    rw [List.cons_append, walkWith]
    cases hdir : fs.node? here with
    | none => exact .inr ⟨.notFound, by simp, rfl⟩
    | some dir =>
      simp only [hempty, hdot, hup, if_false]
      by_cases hdirectory : dir.isDirectory = true
      · by_cases hsearch : dir.isSearchable = true
        · cases hnode : fs.node? (here ++ [name]) with
          | none => exact .inr ⟨dir.missing name, dir.missing_ne_loop name, by simp [hdirectory, hsearch]⟩
          | some n =>
            have hlink : n.target? = none := h.2 (here ++ [name]) ⟨names, rfl⟩ (by simp) n hnode
            simpa [hdirectory, hsearch, hlink] using ih h
        · exact .inr ⟨.denied, by simp, by simp [hdirectory, hsearch]⟩
      · exact .inr ⟨.notDirectory, by simp, by simp [hdirectory]⟩

/-! ## Walks from the root -/

/-- The way to a location without its last name is no longer. -/
theorem Treads.dropLast (h : fs.Treads [] here here) : fs.Treads [] here.dropLast here.dropLast := by
  rcases List.eq_nil_or_concat here with rfl | ⟨above, last, rfl⟩
  · exact h
  rw [List.concat_eq_append] at h ⊢
  obtain ⟨here, h', -, ⟨rfl, -⟩ | ⟨heq, -⟩⟩ := h.concat_cases
  · have hentry := (h.isCanonical fs.isCanonical_root).1 ".." (by simp)
    exact absurd rfl (ne_of_isEntryName hentry).2.2.1
  · rw [List.dropLast_concat]
    rwa [← (List.append_inj' heq rfl).1] at h'

/-- Where names lead from a location that can be walked to without a link can be walked to so as
    well. -/
theorem Reaches.treads (h : fs.Reaches here names at_ k) (hhere : fs.Treads [] here here) :
    fs.Treads [] at_ at_ := by
  induction h with
  | here => exact hhere
  | stay _ _ ih => exact ih hhere
  | up _ _ _ ih => exact ih hhere.dropLast
  | down hsearch hnode hlink _ ih => exact ih (.down hhere hsearch hnode hlink)
  | @link here _ _ _ target _ _ _ _ _ _ _ _ _ ihTarget ihRest =>
    have hstart : fs.Treads [] (startOf here target) (startOf here target) := by
      unfold startOf
      split
      · exact .start
      · exact hhere
    exact ihRest (ihTarget hstart)

/-- Names of a canonical location that lead somewhere do so without a link. -/
theorem IsCanonical.treads {above : Location} (h : fs.IsCanonical (above ++ names))
    (habove : fs.Treads [] above above) (hreach : fs.Reaches above (names ++ rest) at_ k) :
    fs.Treads [] (above ++ names) (above ++ names) ∧ fs.Reaches (above ++ names) rest at_ k := by
  induction names generalizing above with
  | nil => simpa using ⟨habove, hreach⟩
  | cons name names ih =>
    have hname := ne_of_isEntryName (h.1 name (by simp))
    cases hreach with
    | stay hdot => exact absurd hdot hname.2.1
    | up hup => exact absurd hup hname.2.2.1
    | down hhere hnode hlink hreach =>
      have hassoc : above ++ name :: names = above ++ [name] ++ names := by simp
      rw [hassoc] at h ⊢
      exact ih h (.down habove hhere hnode hlink) hreach
    | link hhere hnode hlink =>
      have hnone := h.2 (above ++ [name]) ⟨names, by simp⟩ (by simp) _ hnode
      simp_all

/-- The names of a canonical location that lead somewhere lead to the location itself. -/
theorem IsCanonical.treads_self {found : Location} (h : fs.IsCanonical at_)
    (hreach : fs.Reaches [] at_ found k) : fs.Treads [] at_ at_ ∧ found = at_ := by
  have hnames : fs.IsCanonical ([] ++ at_) := h
  rw [← List.append_nil at_] at hreach
  obtain ⟨htreads, hend⟩ := hnames.treads .start hreach
  cases hend
  exact ⟨htreads, rfl⟩

/-! ## Directories that anything can be looked up in -/

theorem lookup_map_snd {α β γ : Type} [BEq α] (f : β → γ) (l : List (α × β)) (a : α) :
    (l.map fun e => (e.1, f e.2)).lookup a = (l.lookup a).map f := by
  induction l with
  | nil => rfl
  | cons e l ih =>
    rw [List.map_cons, List.lookup_cons, List.lookup_cons]
    split
    · rfl
    · exact ih

theorem node?_unlocked (fs : FileSystem) (at_ : Location) :
    fs.unlocked.node? at_ = (fs.node? at_).map Node.unlocked := by
  unfold node? unlocked
  rw [lookup_map_snd]
  cases fs.entries.lookup at_ with
  | some n => rfl
  | none =>
    simp only [Option.map_none]
    split <;> rfl

theorem target?_unlocked (n : Node) : n.unlocked.target? = n.target? := by
  unfold Node.unlocked Node.target?
  cases n.kind <;> rfl

theorem isSearchable_unlocked (h : n.isSearchable = true) : n.unlocked.isSearchable = true := by
  unfold Node.isSearchable at h
  unfold Node.unlocked Node.isSearchable
  cases hkind : n.kind <;> simp_all

theorem Searchable.unlocked (h : fs.Searchable here) : fs.unlocked.Searchable here := by
  obtain ⟨dir, hdir, hsearch⟩ := h
  exact ⟨dir.unlocked, by rw [node?_unlocked, hdir, Option.map_some], isSearchable_unlocked hsearch⟩

theorem Reaches.unlocked (h : fs.Reaches here names at_ k) : fs.unlocked.Reaches here names at_ k := by
  have hentry {q : Location} {n : Node} (hnode : fs.node? q = some n) :
      fs.unlocked.node? q = some n.unlocked := by rw [node?_unlocked, hnode, Option.map_some]
  induction h with
  | here => exact .here
  | stay hname _ ih => exact .stay hname ih
  | up hname hhere _ ih => exact .up hname hhere.unlocked ih
  | down hhere hnode hlink _ ih =>
    exact .down hhere.unlocked (hentry hnode) ((target?_unlocked _).trans hlink) ih
  | link hhere hnode hlink _ _ ihTarget ihRest =>
    exact .link hhere.unlocked (hentry hnode) ((target?_unlocked _).trans hlink) ihTarget ihRest

theorem isCanonical_unlocked : fs.unlocked.IsCanonical at_ ↔ fs.IsCanonical at_ := by
  have hlinks (q : Location) : (∀ n, fs.unlocked.node? q = some n → n.target? = none) ↔
      ∀ n, fs.node? q = some n → n.target? = none := by
    simp only [node?_unlocked, Option.map_eq_some_iff, forall_exists_index, and_imp,
      forall_apply_eq_imp_iff₂, target?_unlocked]
  simp only [IsCanonical, hlinks]

end Launcher.FileSystem
