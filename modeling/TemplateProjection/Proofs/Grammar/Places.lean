import TemplateProjection.Proofs.Value.Nodes
import TemplateProjection.Raw.Attribute

/-!
# The grammar of raw data

What every known shape asks of its fields (`Shape.requirement?`) and which of its items are places of their own
(`Shape.nesting?`), as two tables. A place is read as a node or as an attribute, and may violate the grammar by itself
(`Place.violation?`); the places of a tree are listed in the order of the document, a place before those nested in it
(`Place.inOrder`). Nothing is nested in a place that holds no list of a known shape.
-/

namespace TemplateProjection

/-! ## Tables -/

/-- A field that a list must have. -/
structure Requirement where
  what : String
  index : Nat
  /-- Whether the field must be a text. -/
  isText : Bool

/-- The field that a shape needs. -/
def Shape.requirement? : Shape → Option Requirement
  | control => some ⟨"code", 2, true⟩
  | interpolate => some ⟨"text", 2, true⟩
  | output => some ⟨"code", 3, true⟩
  | embedded => some ⟨"body", 3, false⟩
  | tag => some ⟨"tag name", 2, true⟩
  | multi | newline | text | attrs => none

/-- What a place is read as. -/
inductive Role
  | node
  | attr
  deriving DecidableEq, Repr

/-- The items of a list that are places of their own. -/
structure Nesting where
  role : Role
  /-- The index of the first item that may be one. -/
  start : Nat
  /-- Whether all items from there on may be one, or that item only. -/
  isOpen : Bool
  admits : Value → Bool

/-- The places nested in a shape: siblings and contents only where there are lists, bodies unless null. -/
def Shape.nesting? : Shape → Option Nesting
  | multi => some ⟨.node, 1, true, Value.isList⟩
  | text => some ⟨.node, 2, true, Value.isList⟩
  | control | interpolate | embedded => some ⟨.node, 3, false, fun v => !v.isNull⟩
  | output => some ⟨.node, 4, false, fun v => !v.isNull⟩
  | tag => some ⟨.node, 4, false, Value.isList⟩
  | attrs => some ⟨.attr, 2, true, fun _ => true⟩
  | newline => none

/-! ## Places -/

/-- Raw data at a path. -/
structure Place where
  role : Role
  raw : Value
  path : Path

/-- The part of a list that a nesting is about. -/
def Nesting.window {α : Type} (n : Nesting) (items : List α) : List α :=
  if n.isOpen then items.drop n.start else (items.drop n.start).take 1

theorem Nesting.mem_window {α : Type} {n : Nesting} {items : List α} {x : α} (h : x ∈ n.window items) : x ∈ items := by
  unfold Nesting.window at h
  split at h
  · exact List.mem_of_mem_drop h
  · exact List.mem_of_mem_drop (List.mem_of_mem_take h)

/-- The places among the items of a list at a path, from left to right. -/
def Nesting.places (n : Nesting) (items : List Value) (p : Path) : List Place :=
  (((n.window items).zipIdx n.start).filter fun x => n.admits x.1).map fun x => ⟨n.role, x.1, p.child x.2⟩

/-- The places nested in a list of a shape. -/
def Shape.places (s : Shape) (items : List Value) (p : Path) : List Place :=
  match s.nesting? with
  | some n => n.places items p
  | none => []

/-- The places nested in raw data that are read as a node. -/
def Value.places (raw : Value) (p : Path) : List Place :=
  match raw.items? with
  | some items =>
    match Shape.read items with
    | .known s => s.places items p
    | _ => []
  | none => []

/-- The places in raw data are those of one nesting, or there are none. -/
theorem Value.places_cases (v : Value) (p : Path) :
    v.places p = [] ∨ ∃ items, ∃ n : Nesting, v.items? = some items ∧ v.places p = n.places items p := by
  unfold places Shape.places
  split
  · rename_i items hitems
    split
    · split
      · exact .inr ⟨items, _, hitems, rfl⟩
      · exact .inl rfl
    · exact .inl rfl
  · exact .inl rfl

namespace Place

/-- The places directly below a place. -/
def nested (pl : Place) : List Place :=
  match pl.role with
  | .node => pl.raw.places pl.path
  | .attr => []

theorem raw_mem_items {n : Nesting} {items : List Value} {p : Path} {q : Place} (h : q ∈ n.places items p) :
    q.raw ∈ items := by
  obtain ⟨x, hx, rfl⟩ := List.mem_map.1 h
  exact Nesting.mem_window (List.fst_mem_of_mem_zipIdx (List.mem_filter.1 hx).1)

theorem nested_of_attr {pl : Place} (h : pl.role = .attr) : pl.nested = [] := by rw [nested, h]

theorem nested_cases (pl : Place) : pl.nested = [] ∨
    ∃ items, ∃ n : Nesting, pl.raw.items? = some items ∧ pl.nested = n.places items pl.path := by
  unfold nested
  split
  · exact pl.raw.places_cases pl.path
  · exact .inl rfl

theorem sizeOf_lt_of_mem_nested {pl q : Place} (h : q ∈ pl.nested) : sizeOf q.raw < sizeOf pl.raw := by
  rcases pl.nested_cases with hnone | ⟨items, n, hitems, hplaces⟩
  · rw [hnone] at h
    exact absurd h List.not_mem_nil
  · rw [hplaces] at h
    exact Value.sizeOf_lt_of_mem_items hitems (raw_mem_items h)

/-- A place and all below it, in the order of the document. -/
def inOrder (pl : Place) : List Place :=
  pl :: pl.nested.attach.flatMap fun q => inOrder q.1
termination_by sizeOf pl.raw
decreasing_by exact sizeOf_lt_of_mem_nested q.2

theorem inOrder_eq (pl : Place) : pl.inOrder = pl :: pl.nested.flatMap inOrder := by
  rw [inOrder, List.flatMap_subtype fun _ _ => rfl, List.unattach_attach]

theorem self_mem_inOrder (pl : Place) : pl ∈ pl.inOrder := by
  rw [inOrder_eq]
  exact List.mem_cons_self

/-- What is nested in a place below another stands below that one too. -/
theorem mem_inOrder_of_nested {root pl q : Place} (hpl : pl ∈ root.inOrder) (hq : q ∈ pl.nested) :
    q ∈ root.inOrder := by
  rw [inOrder_eq] at hpl ⊢
  rcases List.mem_cons.1 hpl with rfl | hpl
  · exact List.mem_cons_of_mem _ (List.mem_flatMap.2 ⟨q, hq, q.self_mem_inOrder⟩)
  · obtain ⟨child, hchild, hpl⟩ := List.mem_flatMap.1 hpl
    have := sizeOf_lt_of_mem_nested hchild
    exact List.mem_cons_of_mem _ (List.mem_flatMap.2 ⟨child, hchild, mem_inOrder_of_nested hpl hq⟩)
termination_by sizeOf root.raw

end Place

/-! ## Violations -/

/-- The failure of a list that lacks a field or has one of a wrong type. -/
def Requirement.violation? (r : Requirement) (word : String) (v : Visit) : Option Failure :=
  match v.items[r.index]? with
  | none => some ⟨.missingField word r.what r.index, v.path, v.raw⟩
  | some (.str _) => none
  | some x => if r.isText then some ⟨.notText r.what x.typeName, v.path.child r.index, v.raw⟩ else none

/-- The field that holds an attribute's name. -/
def attributeName : Requirement := ⟨"attribute name", 2, true⟩

/-- The field that holds an attribute's value. -/
def attributeValue : Requirement := ⟨"attribute value", 3, false⟩

/-- The failure of the text in an attribute's value. A lenient reader lets the code of a dynamic value be missing, and a
text be of any type. -/
def Visit.textViolation? (lenient : Bool) (v : Visit) (name : String) (kind : ValueKind) (items : List Value) :
    Option Failure :=
  match items[kind.textIndex]? with
  | none =>
    if lenient && kind == .dynamic then none
    else some ⟨.missingValueText name kind.textIndex, v.path.child 3, v.raw⟩
  | some (.str _) => none
  | some x =>
    if lenient then none
    else some ⟨.valueNotText name x.typeName, (v.path.child 3).child kind.textIndex, v.raw⟩

/-- The failure of an attribute's value. -/
def Visit.valueViolation? (lenient : Bool) (v : Visit) (name : String) (value : Value) : Option Failure :=
  match value.items? with
  | none | some [] => some ⟨.valueNotAList, v.path.child 3, v.raw⟩
  | some (first :: rest) => v.textViolation? lenient name (ValueKind.ofFirst first) (first :: rest)

/-- The first failure of an attribute's fields. -/
def Visit.attributeViolation? (lenient : Bool) (v : Visit) : Option Failure :=
  (attributeName.violation? "attr" v).or ((attributeValue.violation? "attr" v).or do
    let name ← v.items[attributeName.index]?.bind Value.word?
    let value ← v.items[attributeValue.index]?
    v.valueViolation? lenient name value)

/-- The failure of raw data as a node: of what is no list, or a list of a known shape without the field it needs. -/
def Value.nodeViolation? (raw : Value) (p : Path) : Option Failure :=
  match raw.items? with
  | none => some ⟨.notAList, p, raw⟩
  | some items =>
    match Shape.read items with
    | .known s => s.requirement?.bind fun r => r.violation? s.word ⟨raw, items, p⟩
    | _ => none

/-- The first failure of raw data as an attribute. -/
def Value.attributeViolation? (lenient : Bool) (raw : Value) (p : Path) : Option Failure :=
  match raw.attributeItems? with
  | none => some ⟨.notAnAttribute, p, raw⟩
  | some items => Visit.attributeViolation? lenient ⟨raw, items, p⟩

/-- How a place violates the grammar by itself, whatever stands below it. -/
def Place.violation? (lenient : Bool) (pl : Place) : Option Failure :=
  match pl.role with
  | .node => pl.raw.nodeViolation? pl.path
  | .attr => pl.raw.attributeViolation? lenient pl.path

/-- The failures of raw data are structural, with the code of malformed nodes. -/
def Failure.IsMalformedNode (f : Failure) : Prop :=
  f.cause.family = .structural ∧ f.cause.code? = some .malformedNode

theorem Requirement.violation?_isMalformedNode {r : Requirement} {word : String} {v : Visit} {f : Failure}
    (h : r.violation? word v = some f) : f.IsMalformedNode := by
  unfold Requirement.violation? at h
  split at h
  · obtain rfl := Option.some.inj h
    exact ⟨rfl, rfl⟩
  · cases h
  · split at h
    · obtain rfl := Option.some.inj h
      exact ⟨rfl, rfl⟩
    · cases h

theorem Visit.valueViolation?_isMalformedNode {lenient : Bool} {v : Visit} {name : String} {value : Value}
    {f : Failure} (h : v.valueViolation? lenient name value = some f) : f.IsMalformedNode := by
  unfold Visit.valueViolation? Visit.textViolation? at h
  split at h
  · obtain rfl := Option.some.inj h
    exact ⟨rfl, rfl⟩
  · obtain rfl := Option.some.inj h
    exact ⟨rfl, rfl⟩
  · split at h
    · split at h
      · cases h
      · obtain rfl := Option.some.inj h
        exact ⟨rfl, rfl⟩
    · cases h
    · split at h
      · cases h
      · obtain rfl := Option.some.inj h
        exact ⟨rfl, rfl⟩

theorem Place.violation?_isMalformedNode {lenient : Bool} {pl : Place} {f : Failure}
    (h : pl.violation? lenient = some f) : f.IsMalformedNode := by
  unfold Place.violation? at h
  split at h
  · unfold Value.nodeViolation? at h
    split at h
    · obtain rfl := Option.some.inj h
      exact ⟨rfl, rfl⟩
    · split at h
      · obtain ⟨r, -, h⟩ := Option.bind_eq_some_iff.1 h
        exact r.violation?_isMalformedNode h
      · cases h
  · unfold Value.attributeViolation? at h
    split at h
    · obtain rfl := Option.some.inj h
      exact ⟨rfl, rfl⟩
    · rcases Option.or_eq_some_iff.1 h with h | ⟨-, h⟩
      · exact Requirement.violation?_isMalformedNode h
      · rcases Option.or_eq_some_iff.1 h with h | ⟨-, h⟩
        · exact Requirement.violation?_isMalformedNode h
        · obtain ⟨name, -, h⟩ := Option.bind_eq_some_iff.1 h
          obtain ⟨value, -, h⟩ := Option.bind_eq_some_iff.1 h
          exact Visit.valueViolation?_isMalformedNode h

end TemplateProjection
