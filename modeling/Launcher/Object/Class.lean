-- SUMMARY: What a class has under a name, when a class can be made, and what calls with too many arguments end in.
import Launcher.Application
import Launcher.Text.Identifier

/-!
# Classes

A class has what its attributes say, its constructor and its `start`, and the slots that it
reserves. Some attributes have a meaning of their own: they can keep the class from being
made, its instances from being made, or change what instances say of themselves.

No function of an application takes arguments, and no class takes more than its constructor
does. So every call with arguments ends in an error, which is computed here.
-/
namespace Launcher

/-- The name of the type of an attribute. -/
def Attribute.typeName : Attribute → String
  | value v => v.typeName
  | .class _ => "type"
  | returning _ | making _ => "function"

namespace ClassBody

/-! ## Slots -/

/-- The items of an attribute that lists slots. A text is one slot. -/
def slotItems : Attribute → Except Error (List Json)
  | .value (.string s) => .ok [.string s]
  | .value (.array items) => .ok items
  | .value (.object fields) => .ok (fields.map fun (name, _) => .string name)
  | a => .error (.notIterable a.typeName)

/-- Check the slots one after another. Two of them may be reserved only once. -/
def checkSlots : List Json → (dictionary reference : Bool) → Except Error Unit
  | [], _, _ => .ok ()
  | .string name :: items, dictionary, reference =>
    if !Text.isIdentifier name then .error .slotName
    else if name = "__dict__" && dictionary then .error .secondDictionary
    else if name = "__weakref__" && reference then .error .secondReference
    else checkSlots items (dictionary || name = "__dict__") (reference || name = "__weakref__")
  | item :: _, _, _ => .error (.slotType item.typeName)

/-- A slot under the name that it has in the class. What begins with two low lines and does
    not end with two belongs to the class, and the name says so. -/
def slotName (className slot : String) : String :=
  let owner := className.toList.dropWhile (· = '_')
  let isPrivate := Text.startsWith slot "__" && !Text.endsWith slot "__"
  if isPrivate && !owner.isEmpty then "_" ++ String.ofList owner ++ slot else slot

/-- The names of the slots among the items that list them. -/
def slotNames (className : String) (items : List Json) : List String :=
  items.filterMap fun
    | .string name =>
      if name = "__dict__" || name = "__weakref__" then none else some (slotName className name)
    | _ => none

/-- The slots of a class. -/
def slots (className : String) (body : ClassBody) : List String :=
  match (body.attributes.lookup "__slots__").map slotItems with
  | some (.ok items) => slotNames className items
  | _ => []

/-- Can instances of the class be referred to without being kept? -/
def allowsReferences (body : ClassBody) : Bool :=
  match (body.attributes.lookup "__slots__").map slotItems with
  | none => true
  | some (.ok items) => items.any fun
    | .string name => name = "__weakref__"
    | _ => false
  | some (.error _) => false

/-! ## What a class has -/

/-- What a class has under a name. -/
inductive Entry where
  | attribute (a : Attribute)
  /-- A routine of the class itself, with its parameters. -/
  | routine (parameters : List String) (actions : List Action)
  /-- A place for a value that no instance has. -/
  | slot

/-- The names that a class gives something. -/
def names (body : ClassBody) : List String :=
  body.attributes.map Prod.fst ++ (if body.init.isSome then ["__init__"] else []) ++
    (if body.start.isSome then ["start"] else [])

/-- The constructor or the `start` that a class has apart from its attributes. -/
def routine? (body : ClassBody) : String → Option Entry
  | "__init__" => body.init.map (.routine ["self"])
  | "start" => body.start.map fun
    | .method actions => .routine ["self", "args"] actions
    | .value v => .attribute (.value v)
  | _ => none

/-- The attribute that a class has under a name. Comparing instances in a way of its own
    takes a class the way of hashing them. -/
def attribute? (body : ClassBody) (name : String) : Option Attribute :=
  if name = "__qualname__" || name = "__classcell__" then none
  else
    match body.attributes.lookup name with
    | some a => some a
    | none =>
      if name = "__hash__" && (body.attributes.lookup "__eq__").isSome then some (.value .null)
      else none

/-- What a class called `className` has under a name. -/
def find? (className : String) (body : ClassBody) (name : String) : Option Entry :=
  body.routine? name <|> (body.attribute? name).map .attribute <|>
    if name ∈ body.slots className then some .slot else none

/-- The name of a class within what it is written in. -/
def qualifiedName (className : String) (body : ClassBody) : String :=
  match body.attributes.lookup "__qualname__" with
  | some (.value (.string name)) => name
  | _ => className

theorem sizeOf_lt_of_lookup {attributes : List (String × Attribute)} {name : String}
    {a : Attribute} (h : attributes.lookup name = some a) : sizeOf a < sizeOf attributes := by
  induction attributes with
  | nil => cases h
  | cons entry rest ih =>
    obtain ⟨key, b⟩ := entry
    rw [List.lookup_cons] at h
    split at h
    · cases h
      simp only [List.cons.sizeOf_spec, Prod.mk.sizeOf_spec]
      omega
    · have := ih h
      simp only [List.cons.sizeOf_spec]
      omega

theorem sizeOf_lt_of_attribute? {body other : ClassBody} {name : String}
    (h : body.attributes.lookup name = some (.class other)) : sizeOf other < sizeOf body := by
  have := sizeOf_lt_of_lookup h
  cases body with
  | mk init start attributes watch instanceWatch =>
    simp only [ClassBody.attributes, Attribute.class.sizeOf_spec, ClassBody.mk.sizeOf_spec] at *
    omega

/-! ## Making a class -/

/-- The error of the slots of a class, if there is one. -/
def slotsRefusal? (className : String) (body : ClassBody) : Option Error :=
  match (body.attributes.lookup "__slots__").map slotItems with
  | none => none
  | some (.error e) => some e
  | some (.ok items) =>
    match checkSlots items false false with
    | .error e => some e
    | .ok () =>
      ((slotNames className items).find? fun slot =>
        slot ∈ body.names && slot ≠ "__qualname__" && slot ≠ "__classcell__").map .slotTaken

/-- The error of the name of a class, if there is one. -/
def nameRefusal? (className : String) : Option Error :=
  if className.toList.contains '\x00' then some .nulInTypeName else none

/-- The error of an attribute with a meaning of its own, if there is one. -/
def attributeRefusal? (body : ClassBody) : Option Error :=
  (match body.attributes.lookup "__qualname__" with
    | none | some (.value (.string _)) => none
    | some a => some (.qualifiedNameType a.typeName)) <|>
  (body.attributes.lookup "__classcell__").map fun a => .cellType a.typeName

mutual

/-- The error that making an attribute ends in, if there is one. -/
def makingError? (name : String) : Attribute → Option Error
  | .class body => classError? name body
  | _ => none

/-- The error that making a class ends in, if there is one. Its attributes come first. -/
def classError? (className : String) : ClassBody → Option Error
  | .mk init start attributes watch instanceWatch =>
    attributesError? attributes <|>
      let body : ClassBody := .mk init start attributes watch instanceWatch
      body.slotsRefusal? className <|> nameRefusal? className <|> body.attributeRefusal?

/-- The error that making attributes ends in, if there is one. -/
def attributesError? : List (String × Attribute) → Option Error
  | [] => none
  | (name, a) :: rest => makingError? name a <|> attributesError? rest

end

/-! ## Calls with too many arguments -/

/-- The error of calling a class with arguments. -/
def misfit (className : String) (given : Nat) (body : ClassBody) : Error :=
  match _ : body.attributes.lookup "__new__" with
  | some (.class maker) => maker.misfit "__new__" (given + 1)
  | some (.value v) => .notCallable v.typeName
  | some _ => .tooManyArguments "__new__" 0 (given + 1)
  | none =>
    if "__new__" ∈ body.slots className then .notCallable "member_descriptor"
    else if body.init.isSome then .tooManyArguments "__init__" 1 (given + 1)
    else if "__init__" ∈ body.slots className then .unsetAttribute className "__init__"
    else
      match _ : body.attributes.lookup "__init__" with
      | some (.class maker) => maker.misfit "__init__" given
      | some (.value v) => .notCallable v.typeName
      | some _ => .tooManyArguments "__init__" 0 (given + 1)
      | none => .noArguments className
termination_by sizeOf body
decreasing_by
  all_goals exact sizeOf_lt_of_attribute? ‹_›

end ClassBody

/-- The error of calling an attribute with arguments. -/
def Attribute.misfit (name : String) (given : Nat) : Attribute → Error
  | value v => .notCallable v.typeName
  | .class body => body.misfit name given
  | returning _ | making _ => .tooManyArguments name 0 given

/-- The error of calling an attribute of a class with an instance in front of arguments. Only
    functions get the instance. -/
def Attribute.boundMisfit (name : String) (given : Nat) (a : Attribute) : Error :=
  match a with
  | returning _ | making _ => a.misfit name (given + 1)
  | a => a.misfit name given

namespace ClassBody

/-! ## Instances -/

/-- The error of what a class has for looking attributes up, if it has that. It is called with
    the instance and a name. -/
def hookError? (className : String) (body : ClassBody) (hook : String) : Option Error :=
  (body.find? className hook).map fun
    | .attribute a => a.boundMisfit hook 1
    | .routine parameters _ => .tooManyArguments hook parameters.length 2
    | .slot => .unsetAttribute className hook

/-- What an instance has under a name, if its class says so. -/
def instanceEntry (className : String) (body : ClassBody) (name : String) : Except Error Entry :=
  match body.hookError? className "__getattribute__" with
  | some e => .error e
  | none =>
    match body.find? className name with
    | some (.attribute a) => .ok (.attribute a)
    | some (.routine parameters actions) => .ok (.routine parameters actions)
    | some .slot => .error ((body.hookError? className "__getattr__").getD (.unsetAttribute className name))
    | none =>
      .error ((body.hookError? className "__getattr__").getD (.noAttribute (.value className) name))

/-- Does a class provide `start` for its instances? A null value is as good as nothing. -/
def providesStart (className : String) (body : ClassBody) : Bool :=
  match body.find? className "start" with
  | none | some (.attribute (.value .null)) => false
  | some _ => true

/-- The class that an instance says it is of. -/
def apparentClass (className : String) (body : ClassBody) : Except Error (String × ClassBody) :=
  match body.hookError? className "__getattribute__" with
  | some e => .error e
  | none =>
    match body.find? className "__class__" with
    | none => .ok (className, body)
    | some (.attribute (.class other)) => .ok ("__class__", other)
    | some .slot =>
      .error ((body.hookError? className "__getattr__").getD (.unsetAttribute className "__class__"))
    | some _ => .error .notAClass

end ClassBody

end Launcher
