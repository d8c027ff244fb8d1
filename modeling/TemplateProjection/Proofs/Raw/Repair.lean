import TemplateProjection.Proofs.Raw.Rewritten

/-!
# Repaired trees

A lenient reader takes attribute values that a strict one does not: a dynamic value may end before its code, and the
text of a value may be of any type. A tree is repaired by writing out what the lenient reader makes of such values
(`Value.repair`). Only the values of attributes are touched, and only where a reader comes to them; so the shape of a
list and what it holds elsewhere stay (`repairItems_getElem?`, `read_repairItems`).
-/

namespace TemplateProjection

/-! ## Attributes -/

/-- The items of an attribute's value, with a text where its text belongs. Another value there gives way to its lenient
text; a dynamic value that ends before its code is filled up, and has the empty text for its code. -/
def ValueKind.repair (kind : ValueKind) (items : List Value) : List Value :=
  match items[kind.textIndex]?, kind with
  | some x, _ => items.set kind.textIndex (.str x.lenientText)
  | none, static => items
  | none, dynamic => items ++ List.replicate (kind.textIndex - items.length) .null ++ [.str ""]

/-- An attribute's value, repaired after its kind. -/
def Value.repairValue (value : Value) : Value :=
  match value.items? with
  | some (first :: rest) => value.withItems ((ValueKind.ofFirst first).repair (first :: rest))
  | _ => value

/-- An entry of an attribute list, with its value repaired. -/
def Value.repairAttribute (entry : Value) : Value :=
  match entry.attributeItems? with
  | some items => entry.withItems (items.modify 3 Value.repairValue)
  | none => entry

/-- The first item, which names the kind, is not repaired. -/
theorem ValueKind.repair_cons (kind : ValueKind) (first : Value) (rest : List Value) :
    ∃ others, kind.repair (first :: rest) = first :: others := by
  have hset : ∀ x, (first :: rest).set kind.textIndex x = first :: rest.set (kind.textIndex - 1) x := by
    cases kind <;> exact fun _ => rfl
  unfold repair
  split
  · exact ⟨_, hset _⟩
  · exact ⟨rest, rfl⟩
  · exact ⟨_, rfl⟩

/-- The text of a value is repaired to its lenient text. -/
theorem ValueKind.repair_text {kind : ValueKind} {items : List Value} {x : Value}
    (h : items[kind.textIndex]? = some x) : (kind.repair items)[kind.textIndex]? = some (.str x.lenientText) := by
  unfold repair
  rw [h]
  exact List.getElem?_set_self (List.getElem?_eq_some_iff.1 h).1

/-- A dynamic value without code is filled up as far as its code. -/
theorem ValueKind.repair_no_code {items : List Value} (h : items[dynamic.textIndex]? = none) :
    (dynamic.repair items)[dynamic.textIndex]? = some (.str "") := by
  have hlength : items.length ≤ dynamic.textIndex := List.getElem?_eq_none_iff.1 h
  let filled := items ++ List.replicate (dynamic.textIndex - items.length) Value.null
  have hfilled : filled.length = dynamic.textIndex := by
    rw [List.length_append, List.length_replicate, Nat.add_sub_of_le hlength]
  unfold repair
  rw [h]
  exact (congrArg (_[·]?) hfilled.symm).trans List.getElem?_concat_length

theorem Value.items?_repairValue (value : Value) : value.repairValue.items? = value.items?.map fun
    | [] => []
    | first :: rest => (ValueKind.ofFirst first).repair (first :: rest) := by
  cases h : value.items? with
  | none =>
    have hself : value.repairValue = value := by rw [repairValue, h]
    rw [hself, h]
    rfl
  | some items =>
    cases items with
    | nil =>
      have hself : value.repairValue = value := by rw [repairValue, h]
      rw [hself, h]
      rfl
    | cons first rest =>
      rw [repairValue, h]
      exact items?_withItems h _

/-- Only the fourth item of an attribute is repaired, so its tag stays. -/
theorem Value.attributeItems?_repairAttribute (entry : Value) :
    entry.repairAttribute.attributeItems? = entry.attributeItems?.map fun items => items.modify 3 repairValue := by
  unfold repairAttribute
  cases h : entry.attributeItems? with
  | none => exact h
  | some items =>
    obtain ⟨hitems, htag⟩ := Option.filter_eq_some_iff.1 h
    refine Option.filter_eq_some_iff.2 ⟨items?_withItems hitems _, ?_⟩
    unfold Shape.symbolAt at htag ⊢
    rw [List.getElem?_modify_ne _ _ (by decide)]
    exact htag

/-! ## Trees -/

mutual

/-- Raw data with the values of all attributes repaired that a reader comes to. -/
def Value.repair : Value → Value
  | .list items => .list (Value.repairItems items (roleIn items) 0)
  | .tuple items => .tuple (Value.repairItems items (roleIn items) 0)
  | v => v

/-- The items from index `i` on, each repaired after its role. -/
def Value.repairItems : List Value → (role : Nat → Option Role) → (i : Nat) → List Value
  | [], _, _ => []
  | v :: rest, role, i =>
    (match role i with
      | some .node => v.repair
      | some .attr => v.repairAttribute
      | none => v) :: Value.repairItems rest role (i + 1)

end

/-- A value repaired after its role. -/
def Value.repairAs (v : Value) : Option Role → Value
  | some .node => v.repair
  | some .attr => v.repairAttribute
  | none => v

theorem Value.repair_of_items {v : Value} {items : List Value} (h : v.items? = some items) :
    v.repair = v.withItems (Value.repairItems items (roleIn items) 0) := by
  cases v with
  | list l | tuple l =>
    obtain rfl := Option.some.inj h
    rfl
  | _ => cases h

theorem Value.items?_repair {v : Value} {items : List Value} (h : v.items? = some items) :
    v.repair.items? = some (Value.repairItems items (roleIn items) 0) := by
  rw [repair_of_items h]
  exact items?_withItems h _

/-- What is no list is not repaired. -/
theorem Value.repairAs_of_not_list {v : Value} (h : v.items? = none) (role : Option Role) : v.repairAs role = v := by
  rcases role with _ | _ | _
  · rfl
  · cases v <;> first | rfl | cases h
  · have hattribute : v.attributeItems? = none := by rw [attributeItems?, h, Option.filter_none]
    show v.repairAttribute = v
    rw [repairAttribute, hattribute]

/-- A list is repaired to a list. -/
theorem Value.items?_repairAs {v : Value} {items : List Value} (h : v.items? = some items) (role : Option Role) :
    ∃ xs, (v.repairAs role).items? = some xs := by
  rcases role with _ | _ | _
  · exact ⟨items, h⟩
  · exact ⟨_, items?_repair h⟩
  · show ∃ xs, v.repairAttribute.items? = some xs
    unfold repairAttribute
    split
    · exact ⟨_, items?_withItems h _⟩
    · exact ⟨items, h⟩

/-- A list is repaired to a list, and anything else is kept. -/
theorem Value.sameOrLists_repairAs (v : Value) (role : Option Role) : v.SameOrLists (v.repairAs role) := by
  cases h : v.items? with
  | none =>
    rw [repairAs_of_not_list h]
    exact .same v
  | some items =>
    obtain ⟨xs, hxs⟩ := items?_repairAs h role
    exact .lists (isList_of_items h) (isList_of_items hxs)

/-! ## Items -/

theorem repairItems_cons (v : Value) (rest : List Value) (role : Nat → Option Role) (k : Nat) :
    Value.repairItems (v :: rest) role k = v.repairAs (role k) :: Value.repairItems rest role (k + 1) := by
  rw [Value.repairItems]
  rcases role k with _ | _ | _ <;> rfl

/-- Every item is repaired after its role, in its place. -/
theorem repairItems_getElem? : ∀ (items : List Value) (role : Nat → Option Role) (k i : Nat),
    (Value.repairItems items role k)[i]? = items[i]?.map fun v => v.repairAs (role (k + i))
  | [], _, _, _ => rfl
  | v :: rest, role, k, 0 => by
    rw [repairItems_cons]
    rfl
  | v :: rest, role, k, i + 1 => by
    rw [repairItems_cons, List.getElem?_cons_succ, List.getElem?_cons_succ, repairItems_getElem? rest role (k + 1) i,
      Nat.add_right_comm, Nat.add_assoc]

/-- The tags of a list stay, and with them its shape. -/
theorem read_repairItems (items : List Value) (role : Nat → Option Role) :
    Shape.read (Value.repairItems items role 0) = Shape.read items :=
  Shape.read_rewritten (fun i => repairItems_getElem? items role 0 i) fun _ v => v.sameOrLists_repairAs _

/-- A list is left alone if all its items are. -/
theorem Value.repair_eq_self {v : Value} {items : List Value} (hv : v.items? = some items)
    (h : ∀ (i : Nat) (x : Value), items[i]? = some x → x.repairAs (roleIn items i) = x) : v.repair = v := by
  have hkept : Value.repairItems items (roleIn items) 0 = items := by
    refine List.ext_getElem? fun i => ?_
    rw [repairItems_getElem?, Nat.zero_add]
    cases hx : items[i]? with
    | none => rfl
    | some x => exact congrArg some (h i x hx)
  rw [repair_of_items hv, hkept, withItems_self hv]

/-- Nothing is repaired in a list whose shape is not known. -/
theorem Value.repair_of_unknown {v : Value} {items : List Value} (hv : v.items? = some items)
    (h : ∀ s, Shape.read items ≠ .known s) : v.repair = v := by
  refine repair_eq_self hv fun i x _ => ?_
  have hrole : roleIn items i = none := by
    unfold roleIn
    split
    · rename_i s hs
      exact absurd hs (h s)
    · rfl
  rw [hrole]
  rfl

/-- Every entry of an attribute list is repaired as an attribute. -/
theorem repairItems_attributes (items : List Value) :
    (Value.repairItems items Shape.attrs.roleAt 0).drop 2 = (items.drop 2).map Value.repairAttribute := by
  refine List.ext_getElem? fun i => ?_
  have hrole := Shape.roleAt_of_open (s := .attrs) rfl rfl (Nat.le_add_right 2 i)
  rw [List.getElem?_drop, repairItems_getElem?, Nat.zero_add, hrole, List.getElem?_map, List.getElem?_drop]
  rfl

end TemplateProjection
