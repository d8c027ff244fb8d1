import TemplateProjection.Value.Basic

/-!
# Shapes of raw lists

A raw list is tagged by its first item, and by its second one if the first names a family of shapes: `slim` for the
constructs of the template language, `html` for markup. Tags are symbols: texts, in front of which one colon may stand.
`Shape.read` says which shape a list has, or at which tag it ceases to be known.
-/

namespace TemplateProjection

/-- The characters without one colon in front. -/
def dropColon : List Char → List Char
  | ':' :: cs => cs
  | cs => cs

/-- The symbol that a value stands for; only texts are symbols. -/
def Value.symbol? (v : Value) : Option String := v.word?.map fun s => String.ofList (dropColon s.toList)

/-- The known shapes, after the tag that names them. -/
inductive Shape
  | multi
  | newline
  | control
  | interpolate
  | output
  | embedded
  | text
  | tag
  | attrs
  deriving DecidableEq, Repr

namespace Shape

/-- The tag that names a shape last. -/
def word : Shape → String
  | multi => "multi"
  | newline => "newline"
  | control => "control"
  | interpolate => "interpolate"
  | output => "output"
  | embedded => "embedded"
  | text => "text"
  | tag => "tag"
  | attrs => "attrs"

/-- The shapes of the family `slim`. -/
def constructs : List Shape := [control, interpolate, output, embedded, text]

/-- The shapes of the family `html`. -/
def markups : List Shape := [tag, attrs]

/-- The shape of a family that a tag names. -/
def find? (family : List Shape) (tag : Option String) : Option Shape := family.find? fun s => some s.word = tag

/-- What the tags of a raw list say. -/
inductive Reading
  | known (shape : Shape)
  | unknownKind
  | unknownConstruct (tag : Option String)
  | unknownMarkup (tag : Option String)
  deriving DecidableEq, Repr

/-- The symbol at an index of a list. -/
def symbolAt (items : List Value) (i : Nat) : Option String := items[i]?.bind Value.symbol?

def read (items : List Value) : Reading :=
  let first := symbolAt items 0
  let second := symbolAt items 1
  if first = some "multi" then .known multi
  else if first = some "newline" then .known newline
  else if first = some "slim" then
    match find? constructs second with
    | some s => .known s
    | none => .unknownConstruct second
  else if first = some "html" then
    match find? markups second with
    | some s => .known s
    | none => .unknownMarkup second
  else .unknownKind

end Shape

end TemplateProjection
