-- SUMMARY: Sorting by a comparison that can fail: what is in order at the start is kept, the rest inserted.

/-!
# Sorting

The items at the start that are in order already, or all in falling order, are the first
run. Every further item is inserted behind the items that it does not come before. The
comparison can fail; then sorting ends with the error and leaves the items as they are by
then.
-/
namespace Launcher.Sorting

variable {α ε : Type}

/-! ## The first run -/

/-- The items that follow `last` as long as comparing each with the one before it gives
    `falling`, and the items after them. -/
def run (less : α → α → Except ε Bool) (falling : Bool) : α → List α → Except ε (List α × List α)
  | _, [] => .ok ([], [])
  | last, item :: items =>
    match less item last with
    | .error e => .error e
    | .ok answer =>
      if answer = falling then
        match run less falling item items with
        | .error e => .error e
        | .ok (more, rest) => .ok (item :: more, rest)
      else .ok ([], item :: items)

/-! ## Inserting -/

/-- The place in `items[lo, hi)` behind the items that `x` does not come before. -/
def place (less : α → α → Except ε Bool) (items : List α) (x : α) (lo hi : Nat) : Except ε Nat :=
  if lo < hi then
    let middle := lo + (hi - lo) / 2
    match items[middle]? with
    | none => .ok lo
    | some item =>
      match less x item with
      | .error e => .error e
      | .ok true => place less items x lo middle
      | .ok false => place less items x (middle + 1) hi
  else .ok lo
termination_by hi - lo

/-- Insert items into items in order. -/
def insertAll (less : α → α → Except ε Bool) (sorted : List α) : List α → List α × Option ε
  | [] => (sorted, none)
  | x :: rest =>
    match place less sorted x 0 sorted.length with
    | .error e => (sorted ++ x :: rest, some e)
    | .ok n => insertAll less (sorted.take n ++ x :: sorted.drop n) rest

/-! ## Sorting -/

/-- Sort items. The answer is what they are afterwards, and the error of a comparison. -/
def sort (less : α → α → Except ε Bool) : List α → List α × Option ε
  | [] => ([], none)
  | [x] => ([x], none)
  | x :: y :: rest =>
    match less y x with
    | .error e => (x :: y :: rest, some e)
    | .ok falling =>
      match run less falling y rest with
      | .error e => (x :: y :: rest, some e)
      | .ok (more, rest) =>
        let first := x :: y :: more
        insertAll less (if falling then first.reverse else first) rest

end Launcher.Sorting
