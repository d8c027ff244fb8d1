import Mathlib.Data.Option.Basic
import TemplateProjection.Proofs.Grammar.Places
import TemplateProjection.Proofs.Raw.Fields

/-!
# Rewritten raw data

Raw data may be rewritten item by item, where a list stays a list and anything else stays as it is
(`Value.SameOrLists`): the tags of a list stay, and with them its shape (`Shape.read_rewritten`). What an item is read
as follows from the shape and the index (`Shape.roleAt`).
-/

namespace TemplateProjection

/-! ## Rewritten values -/

/-- The list or tuple with other items; any other value is left alone. -/
def Value.withItems : Value → List Value → Value
  | .list _, items => .list items
  | .tuple _, items => .tuple items
  | v, _ => v

theorem Value.items?_withItems {v : Value} {items : List Value} (h : v.items? = some items) (xs : List Value) :
    (v.withItems xs).items? = some xs := by
  cases v <;> first | rfl | cases h

theorem Value.withItems_self {v : Value} {items : List Value} (h : v.items? = some items) : v.withItems items = v := by
  cases v with
  | list l | tuple l =>
    obtain rfl := Option.some.inj h
    rfl
  | _ => rfl

/-- The same value, or two lists. -/
inductive Value.SameOrLists : Value → Value → Prop
  | same (v : Value) : SameOrLists v v
  | lists {v w : Value} (hv : v.isList = true) (hw : w.isList = true) : SameOrLists v w

namespace Value

theorem symbol?_of_isList {v : Value} (h : v.isList = true) : v.symbol? = none := by
  cases v <;> first | rfl | cases h

namespace SameOrLists

variable {u v w : Value}

theorem trans (h : u.SameOrLists v) (h' : v.SameOrLists w) : u.SameOrLists w := by
  cases h with
  | same => exact h'
  | lists hu hv =>
    cases h' with
    | same => exact .lists hu hv
    | lists _ hw => exact .lists hu hw

theorem isList (h : v.SameOrLists w) : w.isList = v.isList := by
  cases h with
  | same => rfl
  | lists hv hw => rw [hv, hw]

theorem isNull (h : v.SameOrLists w) : w.isNull = v.isNull := by
  cases h with
  | same => rfl
  | lists hv hw => rw [isNull_of_isList hv, isNull_of_isList hw]

theorem symbol? (h : v.SameOrLists w) : w.symbol? = v.symbol? := by
  cases h with
  | same => rfl
  | lists hv hw => rw [symbol?_of_isList hv, symbol?_of_isList hw]

end SameOrLists

end Value

/-! ## Items -/

/-- Of related items both are there or neither is. -/
theorem rel_cases {α β : Type} {R : α → β → Prop} {x? : Option α} {y? : Option β} (h : Option.Rel R x? y?) :
    (x? = none ∧ y? = none) ∨ ∃ x y, x? = some x ∧ y? = some y ∧ R x y := by
  cases h with
  | none => exact .inl ⟨rfl, rfl⟩
  | some h => exact .inr ⟨_, _, rfl, rfl, h⟩

/-! ## Roles -/

/-- The item of the index may be a place. -/
def Nesting.covers (n : Nesting) (i : Nat) : Bool := n.start ≤ i && (n.isOpen || i = n.start)

/-- What a shape's item of an index is read as; an item that no reader of the shape comes to has no role. -/
def Shape.roleAt (s : Shape) (i : Nat) : Option Role :=
  s.nesting?.bind fun n => if n.covers i then some n.role else none

/-- What the item of an index is read as; nothing is read in a list whose shape is not known. -/
def roleIn (items : List Value) (i : Nat) : Option Role :=
  match Shape.read items with
  | .known s => s.roleAt i
  | _ => none

/-- From the start of an open nesting on, every item has its role. -/
theorem Shape.roleAt_of_open {s : Shape} {n : Nesting} (hs : s.nesting? = some n) (hopen : n.isOpen = true) {i : Nat}
    (hi : n.start ≤ i) : s.roleAt i = some n.role := by
  have hcovers : n.covers i = true := by rw [Nesting.covers, hopen, decide_eq_true hi, Bool.true_or, Bool.and_self]
  rw [roleAt, hs, Option.bind_some, if_pos hcovers]

/-- No entry of an attribute list is read as a node. -/
theorem Shape.roleAt_attrs_ne_node (i : Nat) : attrs.roleAt i ≠ some .node := by
  show (if Nesting.covers _ i then some Role.attr else none) ≠ some .node
  split <;> nofun

/-- What a nesting admits is told by whether it is a list and whether it is null. -/
theorem Shape.admits_eq {s : Shape} {n : Nesting} (hs : s.nesting? = some n) {v w : Value} (hlist : w.isList = v.isList)
    (hnull : w.isNull = v.isNull) : n.admits w = n.admits v := by
  cases s <;> cases hs <;> first | exact hlist | exact congrArg (!·) hnull | rfl

theorem roleIn_of_read {items : List Value} {s : Shape} (h : Shape.read items = .known s) :
    roleIn items = s.roleAt := by
  funext i
  rw [roleIn, h]

/-- The tags of a rewritten list stay, and with them its shape. -/
theorem Shape.read_rewritten {xs ys : List Value} {f : Nat → Value → Value}
    (hitem : ∀ i : Nat, ys[i]? = xs[i]?.map (f i)) (hf : ∀ (i : Nat) (v : Value), v.SameOrLists (f i v)) :
    read ys = read xs := by
  have hsymbol : ∀ i, symbolAt ys i = symbolAt xs i := by
    intro i
    unfold symbolAt
    rw [hitem]
    cases xs[i]? with
    | none => rfl
    | some v => exact (hf i v).symbol?
  unfold read
  simp only [hsymbol]

end TemplateProjection
