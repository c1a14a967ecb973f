-- SUMMARY: The canonical form of a path: every link replaced, name by name.
import Launcher.FileSystem.Lookup

/-!
# Canonical paths

Links are resolved one name at a time, with a memo of the links met so far. A name that
cannot be looked at counts as no link. A link that is met again while it is still being
resolved ends the resolution, and what remains is kept as it is. The result is then looked
up once, and only a loop of links makes it fail.
-/
namespace Launcher

/-- How deep links may lead to links. -/
def nestingLimit : Nat := 970

/-! ## Joining texts -/

/-- `b` as seen from `a`. -/
def joinText (a b : String) : String :=
  if Text.startsWith b "/" then b
  else if a = "" ∨ Text.endsWith a "/" then a ++ b
  else a ++ "/" ++ b

/-! ## Trails -/

/-- A path under resolution: names that are no links, below the root or the working
    directory. -/
structure Trail where
  absolute : Bool
  names : List String
  deriving DecidableEq, Repr

namespace Trail

/-- The root. -/
def root : Trail := ⟨true, []⟩

/-- The text of a trail. -/
def text (t : Trail) : String :=
  (if t.absolute then "/" else "") ++ "/".intercalate t.names

/-- One name deeper. -/
def child (t : Trail) (name : String) : Trail := { t with names := t.names ++ [name] }

/-- One name up. Above the working directory, the names `..` pile up. -/
def up (t : Trail) : Trail :=
  match t.names.getLast? with
  | none => if t.absolute then t else t.child ".."
  | some ".." => t.child ".."
  | some _ => { t with names := t.names.dropLast }

/-- The trail as a route for a lookup. -/
def route (t : Trail) : Route := ⟨t.absolute, t.names⟩

end Trail

/-! ## Resolution -/

/-- What a resolution comes to: a trail without links, or a text that was given up on. -/
inductive Resolution where
  | reached (trail : Trail)
  | stuck (text : String)
  deriving DecidableEq, Repr

/-- The links met so far, each with what it resolved to, if it has been resolved. -/
abbrev LinkMemo := List (Trail × Option Trail)

namespace Host

/-- The target of a link. Whatever cannot be looked at is no link. -/
def link? (h : Host) (t : Trail) : Except Fault (Option String) :=
  if t.names.any (Text.has '\x00') then .error (Error.embeddedNul : Error)
  else
    match h.walk false t.route with
    | .ok at_ => .ok ((h.files.node? at_).bind Node.target?)
    | .error _ => .ok none

/-- Resolve `names` from the trail `t`. The target of a new link is resolved by `inner`. -/
def resolveWith (h : Host)
    (inner : Trail → LinkMemo → String → Except Fault (Resolution × LinkMemo)) :
    Trail → List String → LinkMemo → Except Fault (Resolution × LinkMemo)
  | t, [], memo => .ok (.reached t, memo)
  | t, name :: rest, memo =>
    if name = "" ∨ name = "." then h.resolveWith inner t rest memo
    else if name = ".." then h.resolveWith inner t.up rest memo
    else
      let next := t.child name
      match h.link? next with
      | .error e => .error e
      | .ok none => h.resolveWith inner next rest memo
      | .ok (some target) =>
        match memo.lookup next with
        | some (some done) => h.resolveWith inner done rest memo
        | some none => .ok (.stuck (joinText next.text ("/".intercalate rest)), memo)
        | none =>
          match inner t ((next, none) :: memo) target with
          | .error e => .error e
          | .ok (.stuck text, memo) =>
            .ok (.stuck (joinText text ("/".intercalate rest)), memo)
          | .ok (.reached done, memo) =>
            h.resolveWith inner done rest ((next, some done) :: memo)

/-- Resolve a text from the trail `t`, links nested to at most `depth`. -/
def resolveText (h : Host) : Nat → Trail → LinkMemo → String → Except Fault (Resolution × LinkMemo)
  | 0, _, _, _ => .error (Error.tooDeep : Error)
  | depth + 1, t, memo, text =>
    if Text.startsWith text "/" then
      h.resolveWith (h.resolveText depth) .root
        (Text.pieces "/" (String.ofList (text.toList.drop 1))) memo
    else h.resolveWith (h.resolveText depth) t (Text.pieces "/" text) memo

/-- Drop `.` and resolve `..` without looking at the file system. -/
def collapse (anchored : Bool) (parts : List String) : List String :=
  parts.foldl (fun done part =>
    if part = "" ∨ part = "." then done
    else if part ≠ ".." ∨ (!anchored ∧ done = []) ∨ done.getLast? = some ".." then done ++ [part]
    else done.dropLast) []

/-- The path of a text below the working directory, without `.` and `..`. -/
def settle (h : Host) (text : String) : Path :=
  let text := if Text.startsWith text "/" then text else joinText h.cwd text
  let anchor := Anchor.ofChars text.toList
  { anchor, parts := collapse (anchor ≠ .relative) (Text.pieces "/" text) }

/-- The text that a resolution comes to. -/
def Resolution.text : Resolution → String
  | .reached t => t.text
  | .stuck text => text

/-- The canonical form of a path. -/
def canonical (h : Host) (p : Path) : Except Fault Path :=
  match h.resolveText nestingLimit ⟨false, []⟩ [] p.text with
  | .error e => .error e
  | .ok (resolution, _) =>
    let result := h.settle (Resolution.text resolution)
    match h.stat result.text with
    | .error .nul => .error (Error.embeddedNul : Error)
    | .error (.errno .loop) => .error (Error.linkLoop result.text : Error)
    | _ => .ok result

end Host

end Launcher
