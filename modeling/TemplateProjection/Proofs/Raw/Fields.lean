import TemplateProjection.Proofs.Value.Nodes
import TemplateProjection.Raw.Adapt

/-!
# The fields of a raw list

A raw list is adapted by its items, each beside the outcome that it has at its own path; anything else is an error.
-/

namespace TemplateProjection

variable (lenient : Bool) (p : Path)

theorem Value.adapt_of_items {v : Value} {items : List Value} (h : v.items? = some items) :
    v.adapt lenient p = assemble lenient ⟨v, items, p⟩ (Value.adaptFields lenient items p 0) := by
  cases v with
  | list l | tuple l =>
    obtain rfl := Option.some.inj h
    rfl
  | _ => cases h

theorem Value.adapt_of_not_list {v : Value} (h : v.items? = none) :
    v.adapt lenient p = .fail (.atPath p .notAList v) := by
  cases v <;> first | rfl | cases h

/-- The fields are the items with their indices, each at its own path. -/
theorem adaptFields_eq_map : ∀ (items : List Value) (i : Nat),
    Value.adaptFields lenient items p i =
      (items.zipIdx i).map fun x => ⟨x.1, x.1.adapt lenient (p.child x.2)⟩
  | [], _ => rfl
  | _ :: rest, i => congrArg (_ :: ·) (adaptFields_eq_map rest (i + 1))

theorem adaptFields_getElem? (items : List Value) (i : Nat) :
    (Value.adaptFields lenient items p 0)[i]? = items[i]?.map fun v => ⟨v, v.adapt lenient (p.child i)⟩ := by
  have h := adaptFields_eq_map lenient p items 0
  rw [Int.natCast_zero] at h
  rw [h, List.getElem?_map, List.getElem?_zipIdx, Nat.zero_add, Option.map_map]
  rfl

theorem adaptFields_drop : ∀ (items : List Value) (i : Int) (k : Nat),
    (Value.adaptFields lenient items p i).drop k = Value.adaptFields lenient (items.drop k) p (i + k)
  | items, i, 0 => by
    rw [List.drop_zero, List.drop_zero, Int.natCast_zero, Int.add_zero]
  | [], _, k + 1 => rfl
  | v :: rest, i, k + 1 => by
    have h := adaptFields_drop rest (i + 1) k
    have hi : i + 1 + (k : Int) = i + ((k + 1 : Nat) : Int) := by omega
    rw [hi] at h
    exact h

theorem siblings_cons_list {f : Field} (h : f.raw.isList = true) (rest : List Field) :
    siblings (f :: rest) = (do
      let n ← f.node
      let ns ← siblings rest
      pure (n :: ns)) := by
  rw [siblings, if_pos h]

theorem siblings_cons_other {f : Field} (h : ¬f.raw.isList = true) (rest : List Field) :
    siblings (f :: rest) = siblings rest := by
  rw [siblings, if_neg h]

/-- Every field is an item with its outcome. -/
theorem mem_adaptFields {f : Field} : ∀ {items : List Value} {i : Int}, f ∈ Value.adaptFields lenient items p i →
    ∃ v ∈ items, ∃ q, f = ⟨v, v.adapt lenient q⟩
  | [], _, h => absurd h List.not_mem_nil
  | v :: rest, i, h => by
    rcases List.mem_cons.1 h with rfl | h
    · exact ⟨v, List.mem_cons_self, p.child i, rfl⟩
    · obtain ⟨u, hu, q, rfl⟩ := mem_adaptFields h
      exact ⟨u, List.mem_cons_of_mem v hu, q, rfl⟩

end TemplateProjection
