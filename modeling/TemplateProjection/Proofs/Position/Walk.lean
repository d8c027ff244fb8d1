import TemplateProjection.Proofs.Position.Cursor
import TemplateProjection.Proofs.Value.Nodes
import TemplateProjection.Text.Blank
import TemplateProjection.Width

/-!
# Walking a tree with a cursor

The positions of a tree's code are found without projecting it. A cursor goes through the tree in document order, with
the level of each node:

* a line break ends the line;
* a statement moves the cursor right by the indentation of its level, places its code there, and is followed by its body
  one level in;
* an embedded block's body stands at level 0 if the block stands at the root, else one level in;
* a markup element moves the cursor right by the indentation of its level and the columns of its head, and is followed
  by its content at the same level. A statement without a body that may stand inline, as a content, is followed by the
  end of the line; a text block, as a content, by its children;
* a container is followed by its children, and any other node leaves the cursor where it is.
-/

namespace TemplateProjection

/-- The columns that a head took in the template; one that cannot be measured takes none. -/
def Value.columns (head : Value) : Nat :=
  match head.headWidth with
  | .ok n => n
  | .error _ => 0

/-- The level of an embedded block's body, counted from the root. -/
def embeddedDepth (level : Nat) (isRoot : Bool) : Nat := if isRoot then 0 else level + 1

namespace Walk

/-- One indentation to the right. -/
def indent (w : Walk) (o : Options) (level : Nat) : Walk := w.right (o.indentWidth * level)

/-- A code fragment without the blanks around it; what is no text is no code. -/
def code (w : Walk) : Value → Walk
  | .str s => w.place (Text.strip s)
  | _ => w

end Walk

mutual

def Value.walk (o : Options) : Value → (level : Nat) → (isRoot : Bool) → Walk → Walk
  | .list items, level, isRoot, w => Value.walkAll o items level isRoot w
  | .tuple items, level, isRoot, w => Value.walkAll o items level isRoot w
  | .collection _ items, level, isRoot, w => Value.walkAll o items level isRoot w
  | .dict entries, level, isRoot, w => Value.walkKeys o entries level isRoot w
  | .node n, level, isRoot, w => n.walk o level isRoot w
  | _, _, _, w => w

def Value.walkAll (o : Options) : List Value → (level : Nat) → (isRoot : Bool) → Walk → Walk
  | [], _, _, w => w
  | .node n :: rest, level, isRoot, w => Value.walkAll o rest level isRoot (n.walk o level isRoot w)
  | _ :: rest, level, isRoot, w => Value.walkAll o rest level isRoot w

def Value.walkKeys (o : Options) : List (Value × Value) → (level : Nat) → (isRoot : Bool) → Walk → Walk
  | [], _, _, w => w
  | (.node n, _) :: rest, level, isRoot, w => Value.walkKeys o rest level isRoot (n.walk o level isRoot w)
  | _ :: rest, level, isRoot, w => Value.walkKeys o rest level isRoot w

/-- The content of a markup element. -/
def Value.walkContent (o : Options) : Value → (level : Nat) → Walk → Walk
  | .node (.construct (.known kind) fragment body), level, w =>
    if kind.isInline && body.isNull then ((w.indent o level).code fragment).lineEnd
    else (Node.construct (.known kind) fragment body).walk o level false w
  | .node (.textBlock children), level, w => children.walk o level false w
  | .node n, level, w => n.walk o level false w
  | _, _, w => w

def Node.walk (o : Options) : Node → (level : Nat) → (isRoot : Bool) → Walk → Walk
  | .multi children, level, isRoot, w => children.walk o level isRoot w
  | .lineBreak, _, _, w => w.lineEnd
  | .construct (.known .embedded) _ body, level, isRoot, w => body.walk o (embeddedDepth level isRoot) false w
  | .construct (.known _) fragment body, level, _, w =>
    body.walk o (level + 1) false ((w.indent o level).code fragment)
  | .markup head content, level, _, w => content.walkContent o level ((w.indent o level).right head.columns)
  | _, _, _, w => w

end

/-! ## Sequences and contents -/

/-- The nodes of a sequence, one behind the other. -/
def walkNodes (o : Options) (level : Nat) (isRoot : Bool) (nodes : List Node) (w : Walk) : Walk :=
  nodes.foldl (fun w n => n.walk o level isRoot w) w

variable (o : Options) (level : Nat) (isRoot : Bool)

theorem Value.walkAll_nodes : ∀ (items : List Value) (w : Walk),
    Value.walkAll o items level isRoot w = walkNodes o level isRoot (items.filterMap Value.node?) w
  | [], _ => rfl
  | v :: rest, w => by
    cases v with
    | node n => exact Value.walkAll_nodes rest (n.walk o level isRoot w)
    | _ => exact Value.walkAll_nodes rest w

theorem Value.walkKeys_eq : ∀ (entries : List (Value × Value)) (w : Walk),
    Value.walkKeys o entries level isRoot w = Value.walkAll o (entries.map Prod.fst) level isRoot w
  | [], _ => rfl
  | (key, _) :: rest, w => by
    cases key with
    | node n => exact Value.walkKeys_eq rest (n.walk o level isRoot w)
    | _ => exact Value.walkKeys_eq rest w

/-- Only the nodes of a sequence move the cursor. -/
theorem Value.walk_nodes (v : Value) (w : Walk) : v.walk o level isRoot w = walkNodes o level isRoot v.nodes w := by
  cases v with
  | list items | tuple items | collection _ items => exact Value.walkAll_nodes o level isRoot items w
  | dict entries => exact (Value.walkKeys_eq o level isRoot entries w).trans (Value.walkAll_nodes o level isRoot _ w)
  | _ => rfl

theorem Node.walk_statement {kind : ConstructKind} (h : kind ≠ .embedded) (fragment body : Value) (w : Walk) :
    (Node.construct (.known kind) fragment body).walk o level isRoot w =
      body.walk o (level + 1) false ((w.indent o level).code fragment) := by
  cases kind with
  | embedded => exact absurd rfl h
  | _ => rfl

end TemplateProjection
