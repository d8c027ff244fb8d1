import TemplateProjection.Error.Basic

/-!
# Visits to raw lists

A visit is a raw list met at a path. A shape's fields are read off it by index; a field that is not there, or that is no
text where one is needed, is an error of the whole shape.
-/

namespace TemplateProjection

structure Visit where
  /-- The list or tuple itself. -/
  raw : Value
  items : List Value
  path : Path

namespace Visit

/-- A failure at the list itself. -/
def fail {α : Type} (v : Visit) (cause : Cause) : Except Error α := .error (.atPath v.path cause v.raw)

/-- A failure at the item of an index. -/
def failAt {α : Type} (v : Visit) (i : Nat) (cause : Cause) : Except Error α :=
  .error (.atPath (v.path.child i) cause v.raw)

/-- The field `what` of a shape named `node`. -/
def field (v : Visit) (node what : String) (i : Nat) : Except Error Value :=
  match v.items[i]? with
  | some x => .ok x
  | none => v.fail (.missingField node what i)

/-- The field `what`, which must be a text. -/
def text (v : Visit) (node what : String) (i : Nat) : Except Error String := do
  match ← v.field node what i with
  | .str s => pure s
  | x => v.failAt i (.notText what x.typeName)

end Visit

end TemplateProjection
