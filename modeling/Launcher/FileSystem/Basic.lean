-- SUMMARY: File systems as finite maps from locations to nodes, and how entries are put in and taken out.
import Launcher.Application

/-!
# File systems

A file system is a list of entries, each at a location of its own. A location is the list
of names that leads to the entry from the root. The order of the entries is the order in
which a directory lists its children.
-/
namespace Launcher

/-- The names that lead from the root to an entry. -/
abbrev Location := List String

/-- What a file holds when it is read as YAML. -/
inductive Content where
  | parsed (value : Json)
  | malformed

/-- What a logging configuration has made for its loggers. -/
inductive PartKind where
  | formatter
  | filter
  | handler
  deriving DecidableEq, Repr

/-- The name of a kind of parts in a message. -/
def PartKind.word : PartKind → String
  | .formatter => "formatter"
  | .filter => "filter"
  | .handler => "handler"

/-- The field of a configuration that has a section for each part of a kind. -/
def PartKind.field (k : PartKind) : String := k.word ++ "s"

/-- A part that a configuration file has made: its name, what making it does, and, for a handler,
    whether it writes what it is handed. -/
structure Part where
  kind : PartKind
  name : String
  making : List Action := []
  writes : Bool := false

/-- The kinds of entries. -/
inductive NodeKind where
  /-- A directory; names in it can be looked up when it is `searchable`. -/
  | directory (searchable : Bool)
  | file (content : Content)
  | link (target : String)
  | other

/-- An entry: its kind, whether it can be listed or opened, the modules it provides, the parts that
    it has made as a configuration, and the most octets that a name in it can have, if it is a
    directory that limits them. -/
structure Node where
  kind : NodeKind
  readable : Bool := true
  modules : Modules := []
  parts : List Part := []
  longest : Option Nat := none

namespace Node

/-- A directory with nothing special about it. -/
def plainDirectory : Node := { kind := .directory true }

/-- Is the node a directory? -/
def isDirectory (n : Node) : Bool := match n.kind with
  | .directory _ => true
  | _ => false

/-- Is the node a regular file? -/
def isFile (n : Node) : Bool := match n.kind with
  | .file _ => true
  | _ => false

/-- Can names be looked up in the node? -/
def isSearchable (n : Node) : Bool := match n.kind with
  | .directory searchable => searchable
  | _ => false

/-- The node, with names to be looked up in it if it is a directory. -/
def unlocked (n : Node) : Node :=
  { n with
    kind := match n.kind with
      | .directory _ => .directory true
      | kind => kind }

/-- The target of a link. -/
def target? (n : Node) : Option String := match n.kind with
  | .link target => some target
  | _ => none

end Node

/-- Can the text be the name of an entry? -/
def isEntryName (name : String) : Bool :=
  name ≠ "" && name ≠ "." && name ≠ ".." && !Text.has '/' name

/-- Entries at distinct locations, with names that a path can spell. -/
structure FileSystem where
  entries : List (Location × Node)
  distinct : (entries.map Prod.fst).Nodup
  named : ∀ e ∈ entries, e.1.all isEntryName = true

namespace FileSystem

/-- The file system that holds nothing but the root. -/
def empty : FileSystem := { entries := [], distinct := List.nodup_nil, named := by simp }

instance : Inhabited FileSystem := ⟨empty⟩

/-! ## Looking at a location -/

/-- The entry at a location, no link followed. The root is always there. -/
def node? (fs : FileSystem) (at_ : Location) : Option Node :=
  match fs.entries.lookup at_ with
  | some n => some n
  | none => if at_ = [] then some .plainDirectory else none

/-- The name of `q` as a child of `p`, if it is one. -/
def childName? : Location → Location → Option String
  | [], [name] => some name
  | a :: p, b :: q => if a = b then childName? p q else none
  | _, _ => none

/-- The names directly below a location, in listing order. -/
def children (fs : FileSystem) (at_ : Location) : List String :=
  fs.entries.filterMap fun (q, _) => childName? at_ q

theorem childName?_eq_some_iff {p q : Location} {name : String} :
    childName? p q = some name ↔ q = p ++ [name] := by
  induction p generalizing q with
  | nil =>
    match q with
    | [] => simp [childName?]
    | [a] => simp [childName?]
    | _ :: _ :: _ => simp [childName?]
  | cons a p ih =>
    match q with
    | [] => simp [childName?]
    | b :: q =>
      by_cases h : a = b
      · simp [childName?, h, ih]
      · simp [childName?, h]
        intro hb
        exact absurd hb.symm h

/-! ## Changing entries -/

/-- Put a node in the place of the entry at its location. -/
def replace (fs : FileSystem) (at_ : Location) (n : Node) : FileSystem :=
  { entries := fs.entries.map fun e => if e.1 = at_ then (e.1, n) else e
    distinct := by
      have hkeys : (fs.entries.map fun e => if e.1 = at_ then (e.1, n) else e).map Prod.fst =
          fs.entries.map Prod.fst := by
        rw [List.map_map]
        apply List.map_congr_left
        intro e _
        by_cases he : e.1 = at_ <;> simp [he]
      rw [hkeys]
      exact fs.distinct
    named := by
      intro e he
      obtain ⟨old, hold, rfl⟩ := List.mem_map.mp he
      have hname := fs.named old hold
      split <;> exact hname }

/-- Put a node at a new location, after all others. -/
def append (fs : FileSystem) (at_ : Location) (n : Node) (hnew : at_ ∉ fs.entries.map Prod.fst)
    (hname : at_.all isEntryName = true) : FileSystem :=
  { entries := fs.entries ++ [(at_, n)]
    distinct := by
      rw [List.map_append, List.nodup_append]
      refine ⟨fs.distinct, by simp, ?_⟩
      intro a ha b hb hab
      simp only [List.map_cons, List.map_nil, List.mem_singleton] at hb
      exact hnew (hb ▸ hab ▸ ha)
    named := by
      intro e he
      rcases List.mem_append.mp he with he | he
      · exact fs.named e he
      · obtain rfl := List.mem_singleton.mp he
        exact hname }

/-- Put a node at a location: in the place of the entry there, or at the end. Nothing is put
    where no path leads. -/
def set (fs : FileSystem) (at_ : Location) (n : Node) : FileSystem :=
  if hold : at_ ∈ fs.entries.map Prod.fst then fs.replace at_ n
  else if hname : at_.all isEntryName = true then fs.append at_ n hold hname
  else fs

/-- Keep the entries whose location passes a test. -/
def keep (fs : FileSystem) (test : Location → Bool) : FileSystem :=
  { entries := fs.entries.filter fun e => test e.1
    distinct := (List.filter_sublist.map Prod.fst).nodup fs.distinct
    named := fun e he => fs.named e (List.mem_filter.mp he).1 }

/-- Take out everything strictly below a location. -/
def dropBelow (fs : FileSystem) (at_ : Location) : FileSystem :=
  fs.keep fun q => !(at_.isPrefixOf q && q != at_)

/-- Take out an entry and everything below it. -/
def remove (fs : FileSystem) (at_ : Location) : FileSystem :=
  fs.keep fun q => !at_.isPrefixOf q

/-- Put a node at a location. A directory put over a directory keeps what is below it;
    otherwise what was below goes. -/
def place (fs : FileSystem) (at_ : Location) (n : Node) : FileSystem :=
  match fs.node? at_ with
  | some old => if old.isDirectory && n.isDirectory then fs.set at_ n
    else (fs.dropBelow at_).set at_ n
  | none => fs.set at_ n

/-- Make every location between `above` and the last name a directory. -/
def makeParents (fs : FileSystem) (above : Location) : List String → FileSystem
  | [] => fs
  | [_] => fs
  | name :: names =>
    let here := above ++ [name]
    let fs := match fs.node? here with
      | some n => if n.isDirectory then fs else fs.place here .plainDirectory
      | none => fs.place here .plainDirectory
    fs.makeParents here names

/-- The same entries, with names to be looked up in every directory. -/
def unlocked (fs : FileSystem) : FileSystem :=
  { entries := fs.entries.map fun e => (e.1, e.2.unlocked)
    distinct := by simpa [Function.comp_def] using fs.distinct
    named := by
      intro e he
      obtain ⟨old, hold, rfl⟩ := List.mem_map.mp he
      exact fs.named old hold }

/-- Put a node at a location, with the directories that lead there. -/
def insert (fs : FileSystem) (at_ : Location) (n : Node) : FileSystem :=
  (fs.makeParents [] at_).place at_ n

/-- The location that a text spells, no link followed. -/
def location (text : String) : Location := (Path.names text.toList).map String.ofList

end FileSystem

end Launcher
