import Mathlib.Data.List.Basic
import TemplateProjection.Proofs.Projection.Reached

/-!
# The nodes that a projection drops

Of the nodes that a projection comes to it drops those that give no text by any rule: bare and unrecognized nodes,
constructs of unknown kind, and text blocks that are no markup element's content (`Value.dropped`). What a dropped node
holds is not come to. Each kind of dropped node has its notice (`Node.dropNotice`).

All unrecognized nodes that a projection comes to are dropped (`Node.dropsUnrecognized`).
-/

namespace TemplateProjection

mutual

/-- The nodes that the projection of a sequence drops, in order. -/
def Value.dropped : Value → List Node
  | .list items => Value.droppedAll items
  | .tuple items => Value.droppedAll items
  | .collection _ items => Value.droppedAll items
  | .dict entries => Value.droppedKeys entries
  | .node n => n.dropped
  | _ => []

def Value.droppedAll : List Value → List Node
  | [] => []
  | .node n :: rest => n.dropped ++ Value.droppedAll rest
  | _ :: rest => Value.droppedAll rest

def Value.droppedKeys : List (Value × Value) → List Node
  | [] => []
  | (.node n, _) :: rest => n.dropped ++ Value.droppedKeys rest
  | _ :: rest => Value.droppedKeys rest

/-- The content of a markup element: here a text block is not dropped. -/
def Value.droppedContent : Value → List Node
  | .node (.textBlock children) => children.dropped
  | .node n => n.dropped
  | _ => []

/-- The node itself, or the nodes that are dropped behind it before the next sibling. -/
def Node.dropped : Node → List Node
  | .multi children => children.dropped
  | .lineBreak => []
  | .construct (.known _) _ body => body.dropped
  | .markup _ content => content.droppedContent
  | n => [n]

end

/-- The notice of a dropped node. -/
def Node.dropNotice : Node → Notice
  | .textBlock _ => .skippedText
  | .construct (.unknown word) _ _ => .skippedConstruct word
  | n => .skippedNode n.typeName

theorem Value.droppedAll_nodes (items : List Value) :
    Value.droppedAll items = (items.filterMap Value.node?).flatMap Node.dropped := by
  induction items with
  | nil => rfl
  | cons v rest ih =>
    cases v with
    | node n => exact congrArg (n.dropped ++ ·) ih
    | _ => exact ih

theorem Value.droppedKeys_eq (entries : List (Value × Value)) :
    Value.droppedKeys entries = Value.droppedAll (entries.map Prod.fst) := by
  induction entries with
  | nil => rfl
  | cons e rest ih =>
    obtain ⟨key, v⟩ := e
    cases key with
    | node n => exact congrArg (n.dropped ++ ·) ih
    | _ => exact ih

/-- Of a sequence, only the nodes are come to. -/
theorem Value.dropped_nodes (v : Value) : v.dropped = v.nodes.flatMap Node.dropped := by
  cases v with
  | list items | tuple items | collection _ items => exact Value.droppedAll_nodes items
  | dict entries => exact (Value.droppedKeys_eq entries).trans (Value.droppedAll_nodes _)
  | node n => exact (List.flatMap_singleton Node.dropped n).symm
  | _ => rfl

theorem Value.droppedContent_node {n : Node} (h : ∀ children, n ≠ .textBlock children) :
    (Value.node n).droppedContent = n.dropped := by
  cases n with
  | textBlock children => exact absurd rfl (h children)
  | _ => rfl

/-! ## Unrecognized nodes and text blocks -/

namespace Node

/-- The raw data that an unrecognized node keeps. -/
def raw? : Node → Option Value
  | unrecognized raw => some raw
  | _ => none

def isTextBlock : Node → Bool
  | textBlock _ => true
  | _ => false

end Node

/-- The unrecognized nodes among reached ones, by the raw data that they keep. -/
def reachedRaws (rs : List Reached) : List Value := rs.filterMap fun r => r.node.raw?

/-- The unrecognized nodes that are come to are those that are dropped; in a sequence, and as a content. -/
structure Node.DropsUnrecognized (n : Node) : Prop where
  inSequence : ∀ (level : Int) (isRoot : Bool), reachedRaws (n.reached level isRoot) = n.dropped.filterMap raw?
  asContent : ∀ level : Int, reachedRaws ((Value.node n).reachedContent level) =
    (Value.node n).droppedContent.filterMap raw?

theorem Node.DropsUnrecognized.of_inSequence {n : Node} (hblock : ∀ children, n ≠ .textBlock children)
    (h : ∀ (level : Int) (isRoot : Bool), reachedRaws (n.reached level isRoot) = n.dropped.filterMap raw?) :
    n.DropsUnrecognized := by
  refine ⟨h, fun level => ?_⟩
  rw [Value.reachedContent_node hblock, Value.droppedContent_node hblock]
  exact h level false

theorem Value.reachedRaws_reached {v : Value} (h : ∀ n ∈ v.nodes, n.DropsUnrecognized) (level : Int) (isRoot : Bool) :
    reachedRaws (v.reached level isRoot) = v.dropped.filterMap Node.raw? := by
  rw [reached_nodes, dropped_nodes, reachedRaws, List.filterMap_flatMap, List.filterMap_flatMap]
  exact List.flatMap_congr fun n hn => (h n hn).inSequence level isRoot

theorem Node.dropsUnrecognized : ∀ n : Node, n.DropsUnrecognized :=
  TreeInduction.holds {
    bare := .of_inSequence nofun fun _ _ => rfl
    lineBreak := .of_inSequence nofun fun _ _ => rfl
    unrecognized := fun _ => .of_inSequence nofun fun _ _ => rfl
    multi := fun _ ih => .of_inSequence nofun fun level isRoot => Value.reachedRaws_reached ih level isRoot
    textBlock := fun _ ih => ⟨fun _ _ => rfl, fun level => Value.reachedRaws_reached ih level false⟩
    unknown := fun _ _ _ => .of_inSequence nofun fun _ _ => rfl
    embedded := fun _ _ ih => .of_inSequence nofun fun level isRoot => Value.reachedRaws_reached ih _ false
    statement := fun kind fragment body hkind ih => .of_inSequence nofun fun level isRoot => by
      rw [reached_statement hkind]
      exact Value.reachedRaws_reached ih _ false
    markup := fun head content ih => .of_inSequence nofun fun level _ => by
      show reachedRaws (content.reachedContent level) = content.droppedContent.filterMap raw?
      cases hc : content.node? with
      | some n =>
        obtain rfl := Value.node?_eq_some.1 hc
        exact (ih n rfl).asContent level
      | none => cases content <;> first | rfl | cases hc }

end TemplateProjection
