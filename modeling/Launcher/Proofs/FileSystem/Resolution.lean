-- SUMMARY: Resolving a path link by link ends where the lookup of it ends.
import Launcher.Proofs.FileSystem.Reaching

/-!
# Resolution follows the lookup

A trail stands at a location when walking it meets no link and ends there. Resolution keeps its
trail at the location that the lookup has come to. A link in the memo that has been resolved leads
to where its trail stands. A link that is still being resolved cannot come up again: where a link
leads past `k` others, every link on that way leads past fewer.
-/
namespace Launcher

open FileSystem

/-! ## Trails and locations -/

/-- Walking the trail meets no link, and ends at the location. -/
def Host.Stands (h : Host) (t : Trail) (here : Location) : Prop :=
  ∃ start, h.start t.absolute = .ok start ∧ h.files.Treads start t.names here

/-- The names of a walk without links lead up, or are names of entries. -/
theorem FileSystem.Treads.mem_cases {fs : FileSystem} {start here : Location} {names : List String}
    (h : fs.Treads start names here) {name : String} (hname : name ∈ names) :
    name = ".." ∨ ∃ above n, fs.node? (above ++ [name]) = some n := by
  induction h with
  | start => cases hname
  | down _ _ hnode _ ih =>
    rcases List.mem_append.mp hname with hname | hname
    · exact ih hname
    · obtain rfl := List.mem_singleton.mp hname
      exact .inr ⟨_, _, hnode⟩
  | up _ _ ih =>
    rcases List.mem_append.mp hname with hname | hname
    · exact ih hname
    · exact .inl (List.mem_singleton.mp hname)

namespace Host

variable {h : Host} {t : Trail} {here mid at_ : Location} {name target : String} {n : Node}

theorem start_root (h : Host) : h.start true = .ok [] := rfl

theorem stands_root (h : Host) : h.Stands .root [] := ⟨[], h.start_root, .start⟩

theorem Stands.unique {here' : Location} (ht : h.Stands t here) (ht' : h.Stands t here') :
    here = here' := by
  obtain ⟨start, hstart, htreads⟩ := ht
  obtain ⟨start', hstart', htreads'⟩ := ht'
  obtain rfl := Except.ok.inj (hstart.symm.trans hstart')
  exact htreads.unique htreads'

theorem Stands.child (ht : h.Stands t here) (hhere : h.files.Searchable here)
    (hnode : h.files.node? (here ++ [name]) = some n) (hlink : n.target? = none) :
    h.Stands (t.child name) (here ++ [name]) := by
  obtain ⟨start, hstart, htreads⟩ := ht
  exact ⟨start, hstart, htreads.down hhere hnode hlink⟩

theorem Stands.up (ht : h.Stands t here) (hhere : h.files.Searchable here) :
    h.Stands t.up here.dropLast := by
  obtain ⟨start, hstart, htreads⟩ := ht
  have hchild : h.Stands (t.child "..") here.dropLast := ⟨start, hstart, htreads.up hhere⟩
  unfold Trail.up
  split
  case h_1 hlast =>
    split
    case isTrue habsolute =>
      -- the root is its own parent
      have hnames : t.names = [] := List.getLast?_eq_none_iff.mp hlast
      obtain rfl : start = [] := by simpa [habsolute, start_root] using hstart.symm
      obtain rfl : here = [] := by simpa [hnames, Treads.nil_iff] using htreads
      exact ⟨[], hstart, htreads⟩
    case isFalse => exact hchild
  case h_2 => exact hchild
  case h_3 last hup hlast =>
    -- the last name leads down, so the walk without it ends one level higher
    obtain ⟨above, habove⟩ := List.getLast?_eq_some_iff.mp hlast
    rw [habove] at htreads
    obtain ⟨here', h', -, ⟨rfl, -⟩ | ⟨rfl, -⟩⟩ := htreads.concat_cases
    · exact absurd rfl hup
    · exact ⟨start, hstart, by simpa [habove] using h'⟩

/-! ## Looking at a link -/

theorem walk_eq_walkWith (fs : FileSystem) (follow : Bool) (budget : Nat) :
    ∃ onLink, fs.walk follow budget = fs.walkWith onLink follow := by
  cases budget <;> exact ⟨_, rfl⟩

theorem walk_of_start {start : Location} {follow : Bool} (h : Host) (route : Route)
    (hstart : h.start route.absolute = .ok start) :
    h.walk follow route = h.files.walk follow linkLimit start route.names := by
  simp only [walk, hstart]

/-- What stands below a searchable location is looked at without following it. -/
theorem Stands.link? (ht : h.Stands t here) (hnul : (t.child name).NulFree)
    (hhere : h.files.Searchable here) (hnode : h.files.node? (here ++ [name]) = some n) :
    h.link? (t.child name) = .ok n.target? := by
  have hany : (t.child name).names.any (Text.has '\x00') = false := by
    simpa [Trail.NulFree] using hnul
  have hwalk : h.walk false (t.child name).route = .ok (here ++ [name]) := by
    obtain ⟨onLink, hwalk⟩ := walk_eq_walkWith h.files false linkLimit
    obtain ⟨start, hstart, htreads⟩ := ht
    rw [h.walk_of_start (t.child name).route hstart, hwalk]
    exact (htreads.walkWith onLink false [name]).trans (walkWith_last hhere hnode)
  simp only [Host.link?, hany, Bool.false_eq_true, if_false, hwalk, hnode, Option.bind_some]

/-! ## The memo -/

/-- The trail is one of a link, whose target leads to a location past a number of links. -/
def LeadsTo (h : Host) (link : Trail) (mid : Location) (k : Nat) : Prop :=
  ∃ t name here n target, link = t.child name ∧ h.Stands t here ∧
    h.files.node? (here ++ [name]) = some n ∧ n.target? = some target ∧
    h.files.Reaches (startOf here target) (location target) mid k

theorem LeadsTo.unique {link : Trail} {mid' : Location} {k k' : Nat} (hl : h.LeadsTo link mid k)
    (hl' : h.LeadsTo link mid' k') : mid = mid' ∧ k = k' := by
  obtain ⟨t, name, here, n, target, rfl, ht, hnode, hlink, hreach⟩ := hl
  obtain ⟨t', name', here', n', target', hchild, ht', hnode', hlink', hreach'⟩ := hl'
  obtain ⟨habsolute, hnames⟩ := Trail.mk.inj hchild
  obtain ⟨hnames, hname⟩ := List.append_inj' hnames rfl
  obtain rfl : t = t' := by cases t; cases t'; simp_all
  cases hname
  obtain rfl := ht.unique ht'
  obtain rfl := Option.some.inj (hnode.symm.trans hnode')
  obtain rfl := Option.some.inj (hlink.symm.trans hlink')
  exact hreach.unique hreach'

/-- Each link that the memo has resolved leads to where its trail stands, and no NUL is on that. -/
def Resolved (h : Host) (memo : LinkMemo) : Prop :=
  ∀ link done, memo.lookup link = some (some done) →
    ∃ mid k, h.LeadsTo link mid k ∧ h.Stands done mid ∧ done.NulFree

/-- Each link that the memo has as being resolved leads past at least `k` links. -/
def Pending (h : Host) (memo : LinkMemo) (k : Nat) : Prop :=
  ∀ link, memo.lookup link = some none → ∃ mid k', h.LeadsTo link mid k' ∧ k ≤ k'

theorem Pending.mono {memo memo' : LinkMemo} {k k' : Nat} (hp : h.Pending memo k) (hk : k' ≤ k)
    (hsub : ∀ link, memo'.lookup link = some none → memo.lookup link = some none) :
    h.Pending memo' k' := by
  intro link hlink
  obtain ⟨mid, kLink, hleads, hle⟩ := hp link (hsub link hlink)
  exact ⟨mid, kLink, hleads, by omega⟩

/-! A link is put into the memo when its target is about to be resolved, and once more when that is
done. -/

section Putting

variable {memo memo' : LinkMemo} {link done : Trail} {k k' : Nat}

theorem Resolved.begin (hr : h.Resolved memo) (link : Trail) : h.Resolved ((link, none) :: memo) := by
  intro other done hother
  rw [List.lookup_cons] at hother
  split at hother
  · cases hother
  · exact hr other done hother

theorem Pending.begin (hp : h.Pending memo k) (hl : h.LeadsTo link mid k') (hk : k' ≤ k) :
    h.Pending ((link, none) :: memo) k' := by
  intro other hother
  rw [List.lookup_cons] at hother
  split at hother
  case h_1 heq =>
    obtain rfl : other = link := by simpa using heq
    exact ⟨mid, k', hl, Nat.le_refl _⟩
  case h_2 =>
    obtain ⟨mid', kOther, hleads, hle⟩ := hp other hother
    exact ⟨mid', kOther, hleads, by omega⟩

theorem Resolved.finish (hr : h.Resolved memo) (hl : h.LeadsTo link mid k) (hd : h.Stands done mid)
    (hnul : done.NulFree) : h.Resolved ((link, some done) :: memo) := by
  intro other done' hother
  rw [List.lookup_cons] at hother
  split at hother
  case h_1 heq =>
    obtain rfl : other = link := by simpa using heq
    cases hother
    exact ⟨mid, k, hl, hd, hnul⟩
  case h_2 => exact hr other done' hother

/-- A link that is resolved is no longer among those that are being resolved. -/
theorem lookup_finish
    (hsub : ∀ other, memo'.lookup other = some none →
      ((link, none) :: memo : LinkMemo).lookup other = some none)
    (other : Trail) (hother : ((link, some done) :: memo' : LinkMemo).lookup other = some none) :
    memo.lookup other = some none := by
  rw [List.lookup_cons] at hother
  split at hother
  case h_1 => cases hother
  case h_2 hne =>
    have hold := hsub other hother
    rw [List.lookup_cons, hne] at hold
    exact hold

end Putting

/-- A resolution comes to a trail that stands at the location. It leaves a memo in which no link is
    newly being resolved. -/
def Arrives (h : Host) (memo : LinkMemo) (at_ : Location)
    (outcome : Except Fault (Resolution × LinkMemo)) : Prop :=
  ∃ t memo', outcome = .ok (.reached t, memo') ∧ h.Stands t at_ ∧ t.NulFree ∧ h.Resolved memo' ∧
    ∀ link, memo'.lookup link = some none → memo.lookup link = some none

/-! ## Names that do not matter -/

theorem filter_pieces (text : String) :
    (Text.pieces "/" text).filter (· ≠ "") = location text := by
  unfold Text.pieces location Path.names
  rw [List.filter_map]
  congr 1
  refine List.filter_congr fun name _ => ?_
  simp [Function.comp]

variable {inner : Trail → LinkMemo → String → Except Fault (Resolution × LinkMemo)}

/-- Empty names make no difference to a resolution that comes to a trail. -/
theorem resolveWith_of_filter {names : List String} {memo memo' : LinkMemo} {t' : Trail}
    (hrun : h.resolveWith inner t (names.filter (· ≠ "")) memo = .ok (.reached t', memo')) :
    h.resolveWith inner t names memo = .ok (.reached t', memo') := by
  induction names generalizing t memo with
  | nil => exact hrun
  | cons name rest ih =>
    by_cases hempty : name = ""
    · subst hempty
      exact ih hrun
    have hkeep : (name :: rest).filter (· ≠ "") = name :: rest.filter (· ≠ "") := by simp [hempty]
    rw [hkeep, resolveWith] at hrun
    rw [resolveWith]
    by_cases hstay : name = "" ∨ name = "."
    · rw [if_pos hstay] at hrun ⊢
      exact ih hrun
    rw [if_neg hstay] at hrun ⊢
    by_cases hup : name = ".."
    · rw [if_pos hup] at hrun ⊢
      exact ih hrun
    rw [if_neg hup] at hrun ⊢
    simp only at hrun ⊢
    split at hrun
    · cases hrun
    · exact ih hrun
    · split at hrun
      · exact ih hrun
      · cases hrun
      · split at hrun
        · cases hrun
        · cases hrun
        · exact ih hrun

/-- The trail that a text is resolved from. -/
def startTrail (t : Trail) (text : String) : Trail := if Text.startsWith text "/" then .root else t

theorem Stands.startTrail (ht : h.Stands t here) (text : String) :
    h.Stands (startTrail t text) (startOf here text) := by
  unfold Host.startTrail startOf
  split
  · exact h.stands_root
  · exact ht

theorem nulFree_startTrail (hnul : t.NulFree) (text : String) : (startTrail t text).NulFree := by
  unfold Host.startTrail
  split
  · exact Trail.nulFree_root
  · exact hnul

theorem location_drop_separator {text : String} (hstart : Text.startsWith text "/" = true) :
    location (String.ofList (text.toList.drop 1)) = location text := by
  obtain ⟨rest, hrest⟩ : ∃ rest, text.toList = '/' :: rest := by
    unfold Text.startsWith at hstart
    obtain ⟨rest, hrest⟩ := List.isPrefixOf_iff_prefix.mp hstart
    exact ⟨rest, hrest.symm⟩
  simp [location, hrest, Path.names_cons_separator]

theorem resolveText_of_names {depth : Nat} {text : String} {memo memo' : LinkMemo} {t' : Trail}
    (hrun : h.resolveWith (h.resolveText depth) (startTrail t text) (location text) memo =
      .ok (.reached t', memo')) :
    h.resolveText (depth + 1) t memo text = .ok (.reached t', memo') := by
  unfold startTrail at hrun
  rw [resolveText]
  split
  case isTrue hstart =>
    rw [if_pos hstart, ← location_drop_separator hstart, ← filter_pieces] at hrun
    exact resolveWith_of_filter hrun
  case isFalse hstart =>
    rw [if_neg hstart, ← filter_pieces] at hrun
    exact resolveWith_of_filter hrun

/-! ## Resolution -/

/-- From a trail that stands where the lookup starts, resolution comes to a trail that stands where
    the lookup ends, if links may lie as deep as there are links on the way. -/
theorem arrives_resolveWith (hfollowed : h.files.FollowedAvoid '\x00') {names : List String} {k : Nat}
    (hreach : h.files.Reaches here names at_ k) (hnames : ∀ name ∈ names, Text.has '\x00' name = false)
    {depth : Nat} (hk : k ≤ depth) (ht : h.Stands t here) (hnul : t.NulFree) {memo : LinkMemo}
    (hresolved : h.Resolved memo) (hpending : h.Pending memo k) :
    h.Arrives memo at_ (h.resolveWith (h.resolveText depth) t names memo) := by
  induction hreach generalizing depth t memo with
  | here => exact ⟨t, memo, rfl, ht, hnul, hresolved, fun _ hlink => hlink⟩
  | stay hname _ ih =>
    have hrest := (List.forall_mem_cons.mp hnames).2
    simpa [resolveWith, hname] using ih hrest hk ht hnul hresolved hpending
  | up hname hhere _ ih =>
    have hrest := (List.forall_mem_cons.mp hnames).2
    simpa [resolveWith, hname] using ih hrest hk (ht.up hhere) hnul.up hresolved hpending
  | down hhere hnode hlink _ ih =>
    obtain ⟨hempty, hdot, hup, -⟩ := ne_of_isEntryName (isEntryName_of_node? hnode)
    obtain ⟨hname, hrest⟩ := List.forall_mem_cons.mp hnames
    simp only [resolveWith, hempty, hdot, hup, or_self, if_false,
      ht.link? (hnul.child hname) hhere hnode, hlink]
    exact ih hrest hk (ht.child hhere hnode hlink) (hnul.child hname) hresolved hpending
  | @link here mid at_ name target rest n k₁ k₂ hhere hnode hlink hTarget _ ihTarget ihRest =>
    obtain ⟨hempty, hdot, hup, -⟩ := ne_of_isEntryName (isEntryName_of_node? hnode)
    obtain ⟨hname, hrest⟩ := List.forall_mem_cons.mp hnames
    have hleads : h.LeadsTo (t.child name) mid k₁ :=
      ⟨t, name, here, n, target, rfl, ht, hnode, hlink, hTarget⟩
    have hk₂ : k₂ ≤ depth := by omega
    simp only [resolveWith, hempty, hdot, hup, or_self, if_false,
      ht.link? (hnul.child hname) hhere hnode, hlink]
    cases hlookup : memo.lookup (t.child name) with
    | some seen =>
      cases seen with
      | some done =>
        obtain ⟨mid', k', hleads', hdone, hdoneNul⟩ := hresolved _ _ hlookup
        obtain ⟨rfl, -⟩ := hleads.unique hleads'
        exact ihRest hrest hk₂ hdone hdoneNul hresolved (hpending.mono (by omega) fun _ hp => hp)
      | none =>
        -- the link would lead past itself
        obtain ⟨mid', k', hleads', hle⟩ := hpending _ hlookup
        obtain ⟨-, rfl⟩ := hleads.unique hleads'
        omega
    | none =>
      obtain ⟨depth, rfl⟩ : ∃ d, depth = d + 1 := ⟨depth - 1, by omega⟩
      have hk₁ : k₁ ≤ depth := by omega
      obtain ⟨done, memo₁, hrun, hdone, hdoneNul, hresolved₁, hsub⟩ :=
        ihTarget (hfollowed _ _ _ _ _ _ hnode hlink hTarget) hk₁ (ht.startTrail target)
          (nulFree_startTrail hnul target) (hresolved.begin _) (hpending.begin hleads (by omega))
      have hsub₂ : ∀ other, ((t.child name, some done) :: memo₁ : LinkMemo).lookup other = some none →
          memo.lookup other = some none := lookup_finish hsub
      rw [resolveText_of_names hrun]
      obtain ⟨t', memo', hrun', ht', hnul', hresolved', hsub'⟩ :=
        ihRest hrest hk₂ hdone hdoneNul (hresolved₁.finish hleads hdone hdoneNul)
          (hpending.mono (by omega) hsub₂)
      exact ⟨t', memo', hrun', ht', hnul', hresolved',
        fun other hother => hsub₂ other (hsub' other hother)⟩

end Host

end Launcher
