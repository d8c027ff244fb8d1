import TemplateProjection.Value.Equality

/-!
# Order of values

Numbers are ordered by their place on the line, texts by code points, lists, tuples, deques and arrays by their first
unequal items, sets by inclusion. Any other pair is incomparable, and `lt?` has no answer for it.

`sort?` sorts by such a comparison and gives up at the first pair that has no answer. Where the comparison is an order,
its result is the sorted list, equal items in their given sequence. What is not a number is comparable but not ordered,
and sets need not include one another, so the method shows: the longest initial run is kept, turned round if it falls,
and the other items are inserted by bisection. (A library that merges runs from sixty-four items on may then leave so
many items in another sequence.)
-/

namespace TemplateProjection

def Value.isNumber : Value → Bool
  | .bool _ | .int _ | .float _ => true
  | _ => false

/-- One number stands before another; what is not a number stands before nothing. -/
def Value.beforeOnLine (a b : Value) : Bool :=
  match a.point?, b.point? with
  | some p, some q => p.lt q
  | _, _ => false

mutual

def Value.lt? : Value → Value → Option Bool
  | .str s, .str t => some (decide (s < t))
  | .list xs, .list ys => Value.ltItems? xs ys
  | .tuple xs, .tuple ys => Value.ltItems? xs ys
  | .collection k xs, .collection l ys =>
    if k.isSet && l.isSet then some (decide (xs.length < ys.length) && Value.allIn xs ys)
    else if k.typeName = l.typeName then Value.ltItems? xs ys else none
  | a, b => if a.isNumber && b.isNumber then some (a.beforeOnLine b) else none

/-- The first unequal items decide, else the shorter list comes first. -/
def Value.ltItems? : List Value → List Value → Option Bool
  | [], [] => some false
  | [], _ :: _ => some true
  | _ :: _, [] => some false
  | x :: xs, y :: ys => if x.eq y then Value.ltItems? xs ys else x.lt? y

end

/-! ## Sorting by a comparison that may have no answer -/

section Sorting

variable {α : Type} (lt? : α → α → Option Bool)

/-- The items behind `last` as long as each one's comparison with the one before it gives `answer`, and the rest. -/
def splitRun? (answer : Bool) : (last : α) → List α → Option (List α × List α)
  | _, [] => some ([], [])
  | last, x :: rest => do
    if (← lt? x last) = answer then
      let (run, others) ← splitRun? answer x rest
      pure (x :: run, others)
    else pure ([], x :: rest)

/-- The place behind all items from `lo` to `hi` that `x` is not before, found by halving at most `steps` times. -/
def bisect? (x : α) (xs : List α) : (steps lo hi : Nat) → Option Nat
  | 0, lo, _ => some lo
  | steps + 1, lo, hi =>
    if lo < hi then
      match xs[(lo + hi) / 2]? with
      | none => some lo
      | some y => do
        if ← lt? x y then bisect? x xs steps lo ((lo + hi) / 2)
        else bisect? x xs steps ((lo + hi) / 2 + 1) hi
    else some lo

def insertSorted? (sorted : List α) (x : α) : Option (List α) := do
  let i ← bisect? lt? x sorted sorted.length 0 sorted.length
  pure (sorted.take i ++ x :: sorted.drop i)

def sort? : List α → Option (List α)
  | [] => some []
  | [x] => some [x]
  | x :: y :: rest => do
    let falling ← lt? y x
    let (run, others) ← splitRun? lt? falling y rest
    let sorted := if falling then (x :: y :: run).reverse else x :: y :: run
    others.foldlM (insertSorted? lt?) sorted

end Sorting

end TemplateProjection
