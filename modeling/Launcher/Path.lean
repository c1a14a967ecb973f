-- SUMMARY: Path texts, their normal form, and the operations that never look at a file system.
import Launcher.Text.Percent
import Launcher.Text.Pieces

/-!
# Paths

A path is an anchor and a list of parts. Reading a text drops empty parts and `.`, and
keeps `..`. Two leading separators are an anchor of their own; three or more count as one.
-/
namespace Launcher

/-- Where a path starts: at the working directory, at the root, or at the root that is
    written with two separators. -/
inductive Anchor where
  | relative
  | root
  | twin
  deriving DecidableEq, Repr

/-- A path in normal form. -/
structure Path where
  anchor : Anchor
  parts : List String
  deriving DecidableEq, Repr

/-! ## Anchors -/

/-- The separators that an anchor is written with. -/
def Anchor.text : Anchor → List Char
  | .relative => []
  | .root => ['/']
  | .twin => ['/', '/']

/-- The anchor that a text starts with. -/
def Anchor.ofChars : List Char → Anchor
  | '/' :: '/' :: '/' :: _ => .root
  | '/' :: '/' :: _ => .twin
  | '/' :: _ => .root
  | _ => .relative

@[simp] theorem Anchor.text_relative : Anchor.text .relative = [] := rfl
@[simp] theorem Anchor.text_root : Anchor.text .root = ['/'] := rfl
@[simp] theorem Anchor.text_twin : Anchor.text .twin = ['/', '/'] := rfl

namespace Path

/-! ## Reading and writing -/

/-- The names between separators, empty ones left out. -/
def names (text : List Char) : List (List Char) :=
  (Text.split ['/'] text).filter (· ≠ [])

/-- Is the name a part of a path, and not empty or `.`? -/
def isPart (name : List Char) : Bool := name ≠ [] ∧ name ≠ ['.']

/-- The path that a text denotes. -/
def ofChars (text : List Char) : Path :=
  { anchor := .ofChars text
    parts := ((Text.split ['/'] text).filter isPart).map String.ofList }

/-- The text of a path. -/
def toChars (p : Path) : List Char :=
  match p.anchor, p.parts with
  | .relative, [] => ['.']
  | a, parts => a.text ++ ['/'].intercalate (parts.map String.toList)

/-- The path that a text denotes. -/
def ofText (text : String) : Path := ofChars text.toList

/-- The text of a path. -/
def text (p : Path) : String := String.ofList p.toChars

/-! ## Operations -/

/-- Does the path start at a root? -/
def isAbsolute (p : Path) : Bool := p.anchor ≠ .relative

/-- The path one part deeper. -/
def child (p : Path) (name : String) : Path := { p with parts := p.parts ++ [name] }

/-- The path several parts deeper. -/
def descend (p : Path) (names : List String) : Path := { p with parts := p.parts ++ names }

/-- The path one part up; a path without parts stays. -/
def parent (p : Path) : Path := { p with parts := p.parts.dropLast }

/-- The path as seen from `base`: a relative one continues it. -/
def under (base p : Path) : Path := if p.isAbsolute then p else base.descend p.parts

/-- The path joined to the working directory, which may itself be relative. -/
def absolute (cwd : String) (p : Path) : Path := (ofText cwd).under p

@[simp] theorem child_anchor (p : Path) (name : String) : (p.child name).anchor = p.anchor := rfl
@[simp] theorem descend_anchor (p : Path) (names : List String) :
    (p.descend names).anchor = p.anchor := rfl
@[simp] theorem parent_anchor (p : Path) : p.parent.anchor = p.anchor := rfl
@[simp] theorem parent_child (p : Path) (name : String) : (p.child name).parent = p := by
  simp [parent, child]

theorem absolute_of_isAbsolute {p : Path} (h : p.isAbsolute = true) (cwd : String) :
    p.absolute cwd = p := by
  simp [absolute, under, h]

/-! ## Locations -/

/-- The `file:` location of an absolute path. -/
def uri? (p : Path) : Option String :=
  if p.isAbsolute then some ("file://" ++ Text.Percent.encode p.text) else none

end Path

end Launcher
