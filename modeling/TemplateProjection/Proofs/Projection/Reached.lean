import TemplateProjection.Proofs.Projection.Clauses
import TemplateProjection.Proofs.Raw.WellFormed

/-!
# The nodes that a projection comes to

A projection does not come to every node of a tree, and it comes to each with a level of its own (`Value.reached`):

* the nodes of a sequence are reached one behind the other, at the level of the sequence;
* behind a container come its children, at its place;
* behind an embedded block comes its body: at level 0 if the block stands at the root, else one level in;
* behind a statement comes its body, one level in;
* behind a markup element comes its content, at the same level and not at the root. Only there does a text block lead to
  its children.

Levels are integers here: a projection may start below 0, and embedded blocks lead up again.

A tree is *well typed* if its children and bodies are lists or tuples, of whatever values, its constructs are of known
kinds, and its heads have texts for names and values (`Node.WellTyped`).
-/

namespace TemplateProjection

/-! ## Well-typed trees -/

/-- A tag with a name, or attributes with names and value texts; any width may be reported for them. -/
inductive Value.IsHead : Value → Prop
  | tag (name : String) : IsHead (.tagHead (.str name))
  | attributes {entries : List Value} (h : ∀ a ∈ entries, ∃ name kind text, a = attributeOf name kind text)
      (reported : Value) : IsHead (.attrsHead (.tuple entries) reported)

inductive Node.WellTyped : Node → Prop
  | bare : WellTyped .bare
  | lineBreak : WellTyped .lineBreak
  | unrecognized (raw : Value) : WellTyped (.unrecognized raw)
  | multi {children : Value} (hlist : children.isList = true) (h : ∀ n ∈ children.nodes, WellTyped n) :
      WellTyped (.multi children)
  | textBlock {children : Value} (hlist : children.isList = true) (h : ∀ n ∈ children.nodes, WellTyped n) :
      WellTyped (.textBlock children)
  | construct {kind : ConstructKind} {fragment body : Value} (hbody : body = .null ∨ body.isList = true)
      (h : ∀ n ∈ body.nodes, WellTyped n) : WellTyped (.construct (.known kind) fragment body)
  | markup {head content : Value} (hhead : head.IsHead) (h : ∀ n, content = .node n → WellTyped n) :
      WellTyped (.markup head content)

/-- A sequence of siblings, or a single node, whose nodes are well typed. -/
structure Value.WellTyped (tree : Value) : Prop where
  isSequence : tree.isSequence = true
  nodes : ∀ n ∈ tree.nodes, n.WellTyped

/-! ## Reached nodes -/

/-- A node with the level that a projection comes to it with. -/
structure Reached where
  node : Node
  level : Int

mutual

/-- The nodes that the projection of a sequence comes to, in order. -/
def Value.reached : Value → (level : Int) → (isRoot : Bool) → List Reached
  | .list items, level, isRoot => Value.reachedAll items level isRoot
  | .tuple items, level, isRoot => Value.reachedAll items level isRoot
  | .collection _ items, level, isRoot => Value.reachedAll items level isRoot
  | .dict entries, level, isRoot => Value.reachedKeys entries level isRoot
  | .node n, level, isRoot => n.reached level isRoot
  | _, _, _ => []

def Value.reachedAll : List Value → (level : Int) → (isRoot : Bool) → List Reached
  | [], _, _ => []
  | .node n :: rest, level, isRoot => n.reached level isRoot ++ Value.reachedAll rest level isRoot
  | _ :: rest, level, isRoot => Value.reachedAll rest level isRoot

def Value.reachedKeys : List (Value × Value) → (level : Int) → (isRoot : Bool) → List Reached
  | [], _, _ => []
  | (.node n, _) :: rest, level, isRoot => n.reached level isRoot ++ Value.reachedKeys rest level isRoot
  | _ :: rest, level, isRoot => Value.reachedKeys rest level isRoot

/-- The content of a markup element. -/
def Value.reachedContent : Value → (level : Int) → List Reached
  | .node (.textBlock children), level => ⟨.textBlock children, level⟩ :: children.reached level false
  | .node n, level => n.reached level false
  | _, _ => []

/-- A node, and the nodes that the projection comes to behind it before it comes to the next sibling. -/
def Node.reached : Node → (level : Int) → (isRoot : Bool) → List Reached
  | .multi children, level, isRoot => ⟨.multi children, level⟩ :: children.reached level isRoot
  | .construct (.known .embedded) fragment body, level, isRoot =>
    ⟨.construct (.known .embedded) fragment body, level⟩ :: body.reached (embeddedLevel level isRoot) false
  | .construct (.known kind) fragment body, level, _ =>
    ⟨.construct (.known kind) fragment body, level⟩ :: body.reached (level + 1) false
  | .markup head content, level, _ => ⟨.markup head content, level⟩ :: content.reachedContent level
  | n, level, _ => [⟨n, level⟩]

end

theorem Value.reachedAll_nodes (level : Int) (isRoot : Bool) (items : List Value) :
    Value.reachedAll items level isRoot = (items.filterMap Value.node?).flatMap fun n => n.reached level isRoot := by
  induction items with
  | nil => rfl
  | cons v rest ih =>
    cases v with
    | node n => exact congrArg (n.reached level isRoot ++ ·) ih
    | _ => exact ih

theorem Value.reachedKeys_eq (level : Int) (isRoot : Bool) (entries : List (Value × Value)) :
    Value.reachedKeys entries level isRoot = Value.reachedAll (entries.map Prod.fst) level isRoot := by
  induction entries with
  | nil => rfl
  | cons e rest ih =>
    obtain ⟨key, v⟩ := e
    cases key with
    | node n => exact congrArg (n.reached level isRoot ++ ·) ih
    | _ => exact ih

/-- Only the nodes of a sequence lead anywhere. -/
theorem Value.reached_nodes (v : Value) (level : Int) (isRoot : Bool) :
    v.reached level isRoot = v.nodes.flatMap fun n => n.reached level isRoot := by
  cases v with
  | list items | tuple items | collection _ items => exact Value.reachedAll_nodes level isRoot items
  | dict entries =>
    exact (Value.reachedKeys_eq level isRoot entries).trans (Value.reachedAll_nodes level isRoot _)
  | node n => exact (List.flatMap_singleton (fun n => n.reached level isRoot) n).symm
  | _ => rfl

theorem Node.reached_statement {kind : ConstructKind} (h : kind ≠ .embedded) (fragment body : Value) (level : Int)
    (isRoot : Bool) : (Node.construct (.known kind) fragment body).reached level isRoot =
      ⟨.construct (.known kind) fragment body, level⟩ :: body.reached (level + 1) false := by
  cases kind with
  | embedded => exact absurd rfl h
  | _ => rfl

/-- Only a text block leads elsewhere as a content than in a sequence. -/
theorem Value.reachedContent_node {n : Node} (h : ∀ children, n ≠ .textBlock children) (level : Int) :
    (Value.node n).reachedContent level = n.reached level false := by
  cases n with
  | textBlock children => exact absurd rfl (h children)
  | _ => rfl

/-! ## Reached heads -/

/-- The heads of all reached markup elements have the property. -/
def EachHead (P : Value → Prop) (rs : List Reached) : Prop :=
  ∀ r ∈ rs, ∀ head content, r.node = .markup head content → P head

section Heads

variable {P : Value → Prop} {level : Int} {rs ss : List Reached}

theorem eachHead_nil : EachHead P [] := nofun

theorem EachHead.append (h : EachHead P rs) (h' : EachHead P ss) : EachHead P (rs ++ ss) :=
  List.forall_mem_append.2 ⟨h, h'⟩

/-- A node that is no markup element has no head. -/
theorem EachHead.cons {n : Node} (hn : ∀ head content, n ≠ .markup head content) (h : EachHead P rs) :
    EachHead P (⟨n, level⟩ :: rs) :=
  List.forall_mem_cons.2 ⟨fun head content hr => absurd hr (hn head content), h⟩

theorem EachHead.cons_markup {head content : Value} (hhead : P head) (h : EachHead P rs) :
    EachHead P (⟨.markup head content, level⟩ :: rs) := by
  refine List.forall_mem_cons.2 ⟨fun head' content' hr => ?_, h⟩
  obtain ⟨rfl, -⟩ := Node.markup.inj hr
  exact hhead

end Heads

end TemplateProjection
