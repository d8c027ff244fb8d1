import TemplateProjection.Logged
import TemplateProjection.Raw.Shape
import TemplateProjection.Raw.Visit

/-!
# Raw attributes

An attribute is a list with the tag `attr` second, its name third and its value fourth. The value is a list that is not
empty: tagged `static` it holds its text second, else it is dynamic and holds its code fourth.

In strict mode the text must be there and be a text. In lenient mode a dynamic value may end before its code, which then
counts as empty and is noted; null counts as empty too, and a value of any other type by its written form.
-/

namespace TemplateProjection

/-- Where a value of the kind holds its text. -/
def ValueKind.textIndex : ValueKind → Nat
  | static => 1
  | dynamic => 3

/-- The kind of value that a first item names. -/
def ValueKind.ofFirst (first : Value) : ValueKind := if first.symbol? = some "static" then static else dynamic

/-- The text that a value of any type counts as in lenient mode. -/
def Value.lenientText : Value → String
  | .null => ""
  | v => v.text

namespace Visit

/-- The text of an attribute's value, given as `items` at index 3 of the visited attribute. -/
def valueText (lenient : Bool) (v : Visit) (name : String) (kind : ValueKind) (items : List Value) : Logged String :=
  match items[kind.textIndex]? with
  | none =>
    if lenient && kind == .dynamic then do
      Logged.note (.valueWithoutCode name v.path)
      pure ""
    else .ofExcept (v.failAt 3 (.missingValueText name kind.textIndex))
  | some (.str s) => pure s
  | some x =>
    if lenient then pure x.lenientText
    else
      .fail (.atPath ((v.path.child 3).child kind.textIndex) (.valueNotText name x.typeName) v.raw)

/-- The attribute that a visited list stands for. -/
def toAttr (lenient : Bool) (v : Visit) : Logged Value := do
  let name ← .ofExcept (v.text "attr" "attribute name" 2)
  let value ← .ofExcept (v.field "attr" "attribute value" 3)
  match value.items? with
  | none | some [] => .ofExcept (v.failAt 3 .valueNotAList)
  | some (first :: rest) =>
    let kind := ValueKind.ofFirst first
    let text ← v.valueText lenient name kind (first :: rest)
    pure (.attr (.str name) (.known kind) (.str text))

end Visit

/-- The items of a list that is tagged as an attribute. -/
def Value.attributeItems? (entry : Value) : Option (List Value) :=
  entry.items?.filter fun items => Shape.symbolAt items 1 = some "attr"

/-- One entry of an attribute list. -/
def Value.adaptAttribute (lenient : Bool) (entry : Value) (p : Path) : Logged Value :=
  match entry.attributeItems? with
  | some items => Visit.toAttr lenient ⟨entry, items, p⟩
  | none => .fail (.atPath p .notAnAttribute entry)

/-- The entries of an attribute list whose first index is `i`. -/
def adaptAttributes (lenient : Bool) : List Value → Path → (i : Nat) → Logged (List Value)
  | [], _, _ => pure []
  | entry :: rest, p, i => do
    let a ← entry.adaptAttribute lenient (p.child i)
    let as ← adaptAttributes lenient rest p (i + 1)
    pure (a :: as)

end TemplateProjection
