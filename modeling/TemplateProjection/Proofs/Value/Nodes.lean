import TemplateProjection.Value.Basic

/-!
# Trees and their nodes

A sequence of siblings may hold any values; what counts are its nodes (`Value.nodes`). Two inductions come from the
sizes of values: over raw data, with a hypothesis for each item of a list (`Value.items_induction`), and over node
trees, with a hypothesis for each node of a nested sequence (`Node.TreeInduction.holds`).
-/

namespace TemplateProjection

namespace Value

/-- The node that a value is. -/
def node? : Value → Option Node
  | node n => some n
  | _ => none

/-- The nodes of a sequence of siblings, which may be given as a single node. A dictionary stands for its keys. -/
def nodes : Value → List Node
  | list items | tuple items | collection _ items => items.filterMap node?
  | dict entries => (entries.map Prod.fst).filterMap node?
  | node n => [n]
  | _ => []

theorem isList_of_items {v : Value} {items : List Value} (h : v.items? = some items) : v.isList = true := by
  rw [isList, h]
  rfl

theorem isNull_of_isList {v : Value} (h : v.isList = true) : v.isNull = false := by
  cases v <;> first | rfl | cases h

theorem node?_eq_some {v : Value} {n : Node} : v.node? = some n ↔ v = .node n := by
  cases v <;> simp [node?]

/-- What a value gives in turn holds its nodes; the characters of a text are none. -/
theorem nodes_of_elements {v : Value} {items : List Value} (h : v.elements? = some items) :
    v.nodes = items.filterMap node? := by
  cases v with
  | list l | tuple l | collection _ l | dict l =>
    obtain rfl := Option.some.inj h
    rfl
  | str s =>
    obtain rfl := Option.some.inj h
    rw [List.filterMap_map]
    exact (List.filterMap_eq_nil_iff.2 fun _ _ => rfl).symm
  | _ => cases h

/-- An item is smaller than the list that holds it. -/
theorem sizeOf_lt_of_mem_items {v x : Value} {items : List Value} (h : v.items? = some items) (hx : x ∈ items) :
    sizeOf x < sizeOf v := by
  have hlt := List.sizeOf_lt_of_mem hx
  cases v with
  | list l | tuple l =>
    obtain rfl := Option.some.inj h
    first | rw [list.sizeOf_spec] | rw [tuple.sizeOf_spec]
    omega
  | _ => cases h

/-- The keys of a dictionary are no larger than its pairs. -/
theorem sizeOf_keys_le (entries : List (Value × Value)) : sizeOf (entries.map Prod.fst) ≤ sizeOf entries := by
  induction entries with
  | nil => exact Nat.le_refl _
  | cons e rest ih =>
    rw [List.map_cons, List.cons.sizeOf_spec, List.cons.sizeOf_spec, Prod.mk.sizeOf_spec]
    omega

/-- A node is smaller than the sequence that holds it. -/
theorem sizeOf_lt_of_mem_nodes {v : Value} {n : Node} (h : n ∈ v.nodes) : sizeOf n < sizeOf v := by
  have element : ∀ {xs : List Value}, (∀ x ∈ xs, sizeOf x < sizeOf v) → n ∈ xs.filterMap node? →
      sizeOf n < sizeOf v := by
    intro xs hxs hn
    obtain ⟨x, hx, hxn⟩ := List.mem_filterMap.1 hn
    obtain rfl := node?_eq_some.1 hxn
    have := hxs _ hx
    rw [node.sizeOf_spec] at this
    omega
  cases v with
  | list items | tuple items => exact element (fun x hx => sizeOf_lt_of_mem_items rfl hx) h
  | collection kind items =>
    refine element (fun x hx => ?_) h
    have := List.sizeOf_lt_of_mem hx
    rw [collection.sizeOf_spec]
    omega
  | dict entries =>
    refine element (fun x hx => ?_) h
    have := List.sizeOf_lt_of_mem hx
    have := sizeOf_keys_le entries
    rw [dict.sizeOf_spec]
    omega
  | node m =>
    obtain rfl := List.mem_singleton.1 h
    rw [node.sizeOf_spec]
    omega
  | _ => exact absurd h List.not_mem_nil

/-- Induction over raw data. -/
theorem items_induction {P : Value → Prop}
    (step : ∀ v : Value, (∀ items, v.items? = some items → ∀ x ∈ items, P x) → P v) (v : Value) : P v :=
  step v fun items h x hx =>
    have := sizeOf_lt_of_mem_items h hx
    items_induction step x
termination_by sizeOf v

end Value

namespace Node

/-- The cases of an induction over node trees. -/
structure TreeInduction (P : Node → Prop) : Prop where
  bare : P .bare
  lineBreak : P .lineBreak
  unrecognized : ∀ raw, P (.unrecognized raw)
  multi : ∀ children : Value, (∀ n ∈ children.nodes, P n) → P (.multi children)
  textBlock : ∀ children : Value, (∀ n ∈ children.nodes, P n) → P (.textBlock children)
  unknown : ∀ word fragment body, P (.construct (.unknown word) fragment body)
  embedded : ∀ fragment body : Value, (∀ n ∈ body.nodes, P n) → P (.construct (.known .embedded) fragment body)
  statement : ∀ kind (fragment body : Value), kind ≠ .embedded → (∀ n ∈ body.nodes, P n) →
    P (.construct (.known kind) fragment body)
  markup : ∀ head content : Value, (∀ n, content = .node n → P n) → P (.markup head content)

/-- Induction over node trees. -/
theorem TreeInduction.holds {P : Node → Prop} (h : TreeInduction P) (n : Node) : P n := by
  have smaller : ∀ m : Node, sizeOf m < sizeOf n → P m := fun m _ => h.holds m
  have nested : ∀ v : Value, sizeOf v < sizeOf n → ∀ m ∈ v.nodes, P m := fun v hv m hm =>
    smaller m (Nat.lt_trans (Value.sizeOf_lt_of_mem_nodes hm) hv)
  cases n with
  | bare => exact h.bare
  | lineBreak => exact h.lineBreak
  | unrecognized raw => exact h.unrecognized raw
  | multi children => exact h.multi children (nested children (by rw [multi.sizeOf_spec]; omega))
  | textBlock children => exact h.textBlock children (nested children (by rw [textBlock.sizeOf_spec]; omega))
  | construct kind fragment body =>
    have hbody := nested body (by rw [construct.sizeOf_spec]; omega)
    cases kind with
    | unknown word => exact h.unknown word fragment body
    | known kind =>
      by_cases hk : kind = .embedded
      · subst hk
        exact h.embedded fragment body hbody
      · exact h.statement kind fragment body hk hbody
  | markup head content =>
    refine h.markup head content fun m hm => smaller m ?_
    subst hm
    rw [markup.sizeOf_spec, Value.node.sizeOf_spec]
    omega
termination_by sizeOf n

end Node

end TemplateProjection
