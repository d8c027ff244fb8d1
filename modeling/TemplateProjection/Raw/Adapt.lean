import TemplateProjection.Raw.Attribute

/-!
# From raw data to nodes

`Value.adapt` turns a raw list into a node. Every known shape is checked once: a field that is missing or of a wrong
type is an error with its path. A shape that is not known is kept unrecognized and noted.

A node's fields are adapted before the node: `Value.adaptFields` gives for each item of a list the outcome that adapting
it at its own path would have, and `assemble` takes over the outcomes of those items that the shape visits, from left to
right. So adapting is a fold over raw data, and what a shape ignores leaves no trace.
-/

namespace TemplateProjection

/-- An item of a raw list beside the outcome of adapting it. -/
structure Field where
  raw : Value
  node : Logged Node

/-! ## Nested nodes -/

/-- The nodes of the items that are lists; other items are passed over. -/
def siblings : List Field → Logged (List Node)
  | [] => pure []
  | f :: rest =>
    if f.raw.isList then do
      let n ← f.node
      let ns ← siblings rest
      pure (n :: ns)
    else siblings rest

/-- Sibling nodes as the value of a field. -/
def childTuple (nodes : List Node) : Value := .tuple (nodes.map Value.node)

/-- A nested body: one node, or null if the item is null or not there. -/
def body (fields : List Field) (i : Nat) : Logged Value :=
  match fields[i]? with
  | none => pure .null
  | some f =>
    if f.raw.isNull then pure .null
    else do
      let n ← f.node
      pure (childTuple [n])

/-- The content of a tag: a node if the item is a list, else null. -/
def content (fields : List Field) (i : Nat) : Logged Value :=
  match fields[i]? with
  | none => pure .null
  | some f =>
    if f.raw.isList then do
      let n ← f.node
      pure (.node n)
    else pure .null

/-! ## Shapes -/

/-- A construct with its code at index `code` and its body behind it. -/
def adaptStatement (v : Visit) (fields : List Field) (shape : Shape) (kind : ConstructKind) (what : String)
    (code : Nat) : Logged Node := do
  let fragment ← .ofExcept (v.text shape.word what code)
  let nested ← body fields (code + 1)
  pure (.construct (.known kind) (.str fragment) nested)

/-- The node of a list of a known shape. -/
def adaptShape (lenient : Bool) (v : Visit) (fields : List Field) : Shape → Logged Node
  | .multi => do
    let nodes ← siblings (fields.drop 1)
    pure (.multi (childTuple nodes))
  | .newline => pure .lineBreak
  | .control => adaptStatement v fields .control .control "code" 2
  | .interpolate => adaptStatement v fields .interpolate .interpolation "text" 2
  | .output => adaptStatement v fields .output .output "code" 3
  | .embedded => do
    let _ ← Logged.ofExcept (v.field Shape.embedded.word "body" 3)
    let nested ← body fields 3
    pure (.construct (.known .embedded) .null nested)
  | .text => do
    let nodes ← siblings (fields.drop 2)
    pure (.textBlock (childTuple nodes))
  | .tag => do
    let name ← .ofExcept (v.text Shape.tag.word "tag name" 2)
    let inner ← content fields 4
    pure (.markup (.tagHead (.str name)) inner)
  | .attrs => do
    let attributes ← adaptAttributes lenient (v.items.drop 2) v.path 2
    pure (.markup (.attrsHead (.tuple attributes) .null) .null)

/-- A list that is kept as it is, with a notice. -/
def unrecognized (raw : Value) (n : Notice) : Logged Node := do
  Logged.note n
  pure (.unrecognized raw)

/-- The node of a visited list, given the outcomes of its items. -/
def assemble (lenient : Bool) (v : Visit) (fields : List Field) : Logged Node :=
  match Shape.read v.items with
  | .known shape => adaptShape lenient v fields shape
  | .unknownKind => unrecognized v.raw (.unknownKind v.raw.opening v.path)
  | .unknownConstruct tag => unrecognized v.raw (.unknownConstruct tag v.path)
  | .unknownMarkup tag => unrecognized v.raw (.unknownMarkup tag v.path)

/-! ## The fold -/

mutual

/-- The node that raw data stand for at a path. -/
def Value.adapt (lenient : Bool) : Value → Path → Logged Node
  | .list items, p => assemble lenient ⟨.list items, items, p⟩ (Value.adaptFields lenient items p 0)
  | .tuple items, p => assemble lenient ⟨.tuple items, items, p⟩ (Value.adaptFields lenient items p 0)
  | v, p => .fail (.atPath p .notAList v)

/-- The items from index `i` on, each with its own outcome. -/
def Value.adaptFields (lenient : Bool) : List Value → Path → (i : Int) → List Field
  | [], _, _ => []
  | v :: rest, p, i => ⟨v, v.adapt lenient (p.child i)⟩ :: Value.adaptFields lenient rest p (i + 1)

end

/-- The nodes of a sequence of raw siblings, the first of which has index `start`. -/
def adaptSiblings (lenient : Bool) (items : List Value) (p : Path) (start : Int) : Logged (List Node) :=
  siblings (Value.adaptFields lenient items p start)

end TemplateProjection
