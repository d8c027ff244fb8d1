import TemplateProjection.Options

/-!
# Widths of heads

The head of a markup element is not part of the projected text: as many spaces stand in for it as it took in the
template. A tag takes its name. An attribute list takes one column and, for each attribute, its name and its value text.
Anything else that stands in a head's place takes none.

An attribute list may come with the width that a parser measured; if it is checked, it must be the computed one.
-/

namespace TemplateProjection

/-- What a value counts, or the fault of one that cannot be counted. -/
def Value.measure (v : Value) : Except AccessFault Nat :=
  match v.length? with
  | some n => .ok n
  | none => .error (.noLength v.typeName)

/-- The length of a field of `v`. -/
def Value.fieldLength (v : Value) (field : String) (content : Option Value) : Except AccessFault Nat :=
  match content with
  | some x => x.measure
  | none => .error (.noField v.typeName field)

/-- The columns of one entry of an attribute list: its name is measured first, then its value text. -/
def Value.attributeWidth (entry : Value) : Except AccessFault Nat := do
  let name ← entry.fieldLength "name" entry.name?
  let text ← entry.fieldLength "value_text" entry.text?
  pure (name + text)

/-- The columns of all entries; the first that cannot be measured decides. -/
def attributesWidth (entries : List Value) : Except AccessFault Nat := do
  let widths ← entries.mapM Value.attributeWidth
  pure (widths.foldr (· + ·) 0)

/-- The columns that a head took in the template. -/
def Value.headWidth (head : Value) : Except Error Nat :=
  match head with
  | .tagHead name => name.measure.mapError .access
  | .attrsHead attributes _ =>
    match attributes.elements? with
    | none => .error (.access (.notIterable attributes.typeName))
    | some entries =>
      match attributesWidth entries with
      | .ok n => .ok (1 + n)
      | .error fault => .error (.ofCause (.malformedAttribute fault) head)
  | _ => .ok 0

/-- The width that a parser reported for a head; null stands for none. -/
def Value.sourceWidth : Value → Value
  | .attrsHead _ w => w
  | _ => .null

/-- The reported width is none, or equal to the computed one. -/
def Value.agreesWith (reported : Value) (computed : Nat) : Bool := reported.isNull || reported.eq (.int computed)

/-- The spaces that stand in for a head. -/
def Value.padding (o : Options) (head : Value) : Except Error String := do
  let width ← head.headWidth
  if o.checkSourceWidth && !head.sourceWidth.agreesWith width then
    .error (.ofCause (.widthMismatch width head.sourceWidth) head)
  else pure (spaces width)

end TemplateProjection
