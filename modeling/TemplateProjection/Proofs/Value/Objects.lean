import TemplateProjection.Proofs.Text.Line
import TemplateProjection.Proofs.Value.Nodes

/-!
# Objects in values

A value may hold objects of other types, which write themselves (`Value.objects`). Each occurs in the items, keys and
fields that it was found in, and so does not get lost or come in when a value is taken apart. Whether what such objects
write are lines (`Foreign.OnLines`) decides for the value (`Value.ObjectsOnLines`).
-/

namespace TemplateProjection

/-! ## Occurring objects -/

mutual

/-- The objects of other types that occur in a value, however deep. -/
def Value.objects : Value → List Foreign
  | .object o => [o]
  | .list items => Value.objectsAll items
  | .tuple items => Value.objectsAll items
  | .collection _ items => Value.objectsAll items
  | .dict entries => Value.objectsPairs entries
  | .node n => n.objects
  | .tagHead name => name.objects
  | .attrsHead attributes sourceWidth => attributes.objects ++ sourceWidth.objects
  | .attr name _ text => name.objects ++ text.objects
  | _ => []

def Value.objectsAll : List Value → List Foreign
  | [] => []
  | v :: rest => v.objects ++ Value.objectsAll rest

def Value.objectsPairs : List (Value × Value) → List Foreign
  | [] => []
  | (k, v) :: rest => k.objects ++ (v.objects ++ Value.objectsPairs rest)

def Node.objects : Node → List Foreign
  | .multi children => children.objects
  | .textBlock children => children.objects
  | .unrecognized raw => raw.objects
  | .construct _ fragment body => fragment.objects ++ body.objects
  | .markup head content => head.objects ++ content.objects
  | .bare => []
  | .lineBreak => []

end

namespace Value

theorem mem_objectsAll {items : List Value} {o : Foreign} : o ∈ objectsAll items ↔ ∃ v ∈ items, o ∈ v.objects := by
  induction items with
  | nil => simp [objectsAll]
  | cons v rest ih => simp [objectsAll, ih]

theorem mem_objectsPairs {entries : List (Value × Value)} {o : Foreign} :
    o ∈ objectsPairs entries ↔ ∃ e ∈ entries, o ∈ e.1.objects ∨ o ∈ e.2.objects := by
  induction entries with
  | nil => simp [objectsPairs]
  | cons e rest ih => simp [objectsPairs, ih, or_assoc]

/-- What a value gives in turn brings no objects in. -/
theorem objects_of_element {v x : Value} {items : List Value} (h : v.elements? = some items) (hx : x ∈ items) :
    x.objects ⊆ v.objects := by
  intro o ho
  cases v with
  | list l | tuple l | collection _ l =>
    obtain rfl := Option.some.inj h
    exact mem_objectsAll.2 ⟨x, hx, ho⟩
  | dict entries =>
    obtain rfl := Option.some.inj h
    obtain ⟨e, he, rfl⟩ := List.mem_map.1 hx
    exact mem_objectsPairs.2 ⟨e, he, .inl ho⟩
  | str s =>
    obtain rfl := Option.some.inj h
    obtain ⟨c, -, rfl⟩ := List.mem_map.1 hx
    cases ho
  | _ => cases h

theorem elements?_of_items {v : Value} {items : List Value} (h : v.items? = some items) : v.elements? = some items := by
  cases v <;> first | exact h | cases h

theorem objects_of_node {v : Value} {n : Node} (h : n ∈ v.nodes) : n.objects ⊆ v.objects := by
  have element : ∀ {items : List Value}, v.elements? = some items → n ∈ items.filterMap node? →
      n.objects ⊆ v.objects := by
    intro items hv hn
    obtain ⟨x, hx, hxn⟩ := List.mem_filterMap.1 hn
    obtain rfl := node?_eq_some.1 hxn
    exact objects_of_element hv hx
  cases v with
  | node m =>
    obtain rfl := List.mem_singleton.1 h
    exact List.Subset.refl _
  | list | tuple | collection | dict => exact element rfl h
  | _ => exact absurd h List.not_mem_nil

end Value

/-! ## Objects that write lines -/

/-- The name of the object's type is a line, and so is what the object writes. -/
structure Foreign.OnLines (o : Foreign) : Prop where
  typeName : Text.IsLine o.typeName
  literal : Text.IsLine o.literal
  text : Text.IsLine o.text

instance (o : Foreign) : Decidable o.OnLines :=
  decidable_of_iff (Text.IsLine o.typeName ∧ Text.IsLine o.literal ∧ Text.IsLine o.text)
    ⟨fun ⟨htype, hliteral, htext⟩ => ⟨htype, hliteral, htext⟩, fun h => ⟨h.typeName, h.literal, h.text⟩⟩

/-- All objects in the value write lines. -/
def Value.ObjectsOnLines (v : Value) : Prop := ∀ o ∈ v.objects, o.OnLines

instance (v : Value) : Decidable v.ObjectsOnLines := List.decidableBAll _ _

namespace Value.ObjectsOnLines

variable {v : Value}

theorem of_none (h : v.objects = []) : v.ObjectsOnLines := by
  intro o ho
  rw [h] at ho
  exact absurd ho List.not_mem_nil

theorem of_element {x : Value} {items : List Value} (h : v.ObjectsOnLines) (hv : v.elements? = some items)
    (hx : x ∈ items) : x.ObjectsOnLines := fun o ho => h o (objects_of_element hv hx ho)

theorem of_item {x : Value} {items : List Value} (h : v.ObjectsOnLines) (hv : v.items? = some items) (hx : x ∈ items) :
    x.ObjectsOnLines := h.of_element (elements?_of_items hv) hx

theorem of_construct {kind : KindWord ConstructKind} {fragment body : Value}
    (h : (node (.construct kind fragment body)).ObjectsOnLines) : fragment.ObjectsOnLines ∧ body.ObjectsOnLines :=
  List.forall_mem_append.1 h

theorem of_markup {head content : Value} (h : (node (.markup head content)).ObjectsOnLines) :
    head.ObjectsOnLines ∧ content.ObjectsOnLines := List.forall_mem_append.1 h

theorem of_attrsHead {attributes sourceWidth : Value} (h : (attrsHead attributes sourceWidth).ObjectsOnLines) :
    attributes.ObjectsOnLines ∧ sourceWidth.ObjectsOnLines := List.forall_mem_append.1 h

theorem of_attr {name text : Value} {kind : KindWord ValueKind} (h : (attr name kind text).ObjectsOnLines) :
    name.ObjectsOnLines ∧ text.ObjectsOnLines := List.forall_mem_append.1 h

theorem of_node {n : Node} (h : v.ObjectsOnLines) (hn : n ∈ v.nodes) : (Value.node n).ObjectsOnLines := fun o ho =>
  h o (objects_of_node hn ho)

end Value.ObjectsOnLines

end TemplateProjection
