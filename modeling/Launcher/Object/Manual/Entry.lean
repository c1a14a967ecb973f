-- SUMMARY: Entries of the manual: how a member of a type is called, and what it does.

/-!
# Entries of the manual

The routines that come with the types of values are described in a manual, which they show
under `__text_signature__` and `__doc__`. An application that names one of these as its entry
point gets the text.
-/
namespace Launcher.Manual

/-- What the manual says of a member: its arguments, and the lines of its description. -/
structure Entry where
  name : String
  arguments : Option String
  description : Option (List String)
  deriving DecidableEq, Repr

/-- The description as a text. -/
def Entry.text? (e : Entry) : Option String := e.description.map "\n".intercalate

/-- The entry of a member. -/
def find? (entries : List Entry) (name : String) : Option Entry :=
  entries.find? fun e => e.name = name

end Launcher.Manual
