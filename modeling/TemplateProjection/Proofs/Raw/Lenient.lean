import TemplateProjection.Proofs.Raw.Comparison
import TemplateProjection.Proofs.Raw.Repair

/-!
# Lenient reading of raw data, strict reading of repaired data

Adapting raw data leniently gives what adapting the repaired data strictly gives: the same node, or an error with the
same cause and path (`Value.adapt_repair`). The readers differ in the text of an attribute's value only
(`Visit.valueText_alike`). For all else, a repaired list is one that is rewritten item by item (`adaptShape_repair`).
-/

namespace TemplateProjection

/-! ## Attributes -/

section Attributes

variable {v w : Visit}

/-- The text that a lenient reader makes of a value stands in the repaired value. -/
theorem Visit.valueText_alike (hpath : w.path = v.path) (name : String) (kind : ValueKind) (items : List Value) :
    (v.valueText true name kind items).Alike (w.valueText false name kind (kind.repair items)) := by
  cases hx : items[kind.textIndex]? with
  | some x =>
    refine .of_result_eq ?_
    unfold valueText
    rw [hx, ValueKind.repair_text hx]
    cases x <;> rfl
  | none =>
    cases kind with
    | static =>
      have hrepair : ValueKind.static.repair items = items := by
        unfold ValueKind.repair
        rw [hx]
      unfold valueText
      rw [hrepair, hx]
      exact failAt_alike hpath 3 _
    | dynamic =>
      unfold valueText
      rw [hx, ValueKind.repair_no_code hx]
      exact .refl _

/-- Read leniently, an attribute is what it is if its value is repaired and read strictly. -/
theorem Visit.toAttr_alike (hitems : w.items = v.items.modify 3 Value.repairValue) (hpath : w.path = v.path) :
    (v.toAttr true).Alike (w.toAttr false) := by
  have hname : w.items[2]? = v.items[2]? := by
    rw [hitems, List.getElem?_modify_ne _ _ (by decide)]
  refine Logged.Alike.bind (text_alike hpath hname _ _) fun name => ?_
  have hvalue : w.items[3]? = v.items[3]?.map Value.repairValue := by
    rw [hitems, List.getElem?_modify_eq, Option.map_eq_map]
  unfold field
  rw [hvalue]
  cases v.items[3]? with
  | none => exact fail_alike hpath _
  | some value =>
    refine Logged.Alike.bind_of_ok rfl rfl ?_
    rw [Value.items?_repairValue]
    cases value.items? with
    | none => exact failAt_alike hpath 3 _
    | some items =>
      cases items with
      | nil => exact failAt_alike hpath 3 _
      | cons first rest =>
        obtain ⟨others, hothers⟩ := (ValueKind.ofFirst first).repair_cons first rest
        have htext := valueText_alike hpath name (ValueKind.ofFirst first) (first :: rest)
        rw [hothers] at htext
        simp only [Option.map_some, hothers]
        exact htext.bind fun _ => .refl _

theorem Value.adaptAttribute_repair (entry : Value) (p : Path) :
    (entry.adaptAttribute true p).Alike (entry.repairAttribute.adaptAttribute false p) := by
  unfold adaptAttribute
  rw [attributeItems?_repairAttribute]
  cases h : entry.attributeItems? with
  | none => exact .fail rfl
  | some items => exact Visit.toAttr_alike rfl rfl

theorem adaptAttributes_repair (p : Path) : ∀ (entries : List Value) (i : Nat),
    (adaptAttributes true entries p i).Alike (adaptAttributes false (entries.map Value.repairAttribute) p i)
  | [], _ => .refl _
  | entry :: rest, i =>
    (entry.adaptAttribute_repair _).bind fun _ => (adaptAttributes_repair p rest (i + 1)).bind fun _ => .refl _

end Attributes

/-! ## Trees -/

/-- A list of a known shape, read leniently, is what it is if its items are repaired and read strictly, provided that
this holds of its items. -/
theorem adaptShape_repair {items : List Value} {s : Shape}
    (h : ∀ x ∈ items, ∀ p, (x.adapt true p).Alike (x.repair.adapt false p)) (v w : Value) (p : Path) :
    (adaptShape true ⟨v, items, p⟩ (Value.adaptFields true items p 0) s).Alike
      (adaptShape false ⟨w, Value.repairItems items s.roleAt 0, p⟩
        (Value.adaptFields false (Value.repairItems items s.roleAt 0) p 0) s) := by
  have hitem : ∀ i : Nat,
      (Value.repairItems items s.roleAt 0)[i]? = items[i]?.map fun x => x.repairAs (s.roleAt i) := by
    intro i
    rw [repairItems_getElem?, Nat.zero_add]
  have hkept : ∀ (i : Nat) (x : Value), s.roleAt i = none → x.repairAs (s.roleAt i) = x := by
    intro i x hi
    rw [hi]
    rfl
  refine alikeResults_iff.2 (adaptShape_rewritten (c := .equal) (fun _ => rfl) (fun _ => rfl) hitem
    (fun _ x => x.sameOrLists_repairAs _) hkept v w p ?_ ?_)
  · rintro rfl
    have hattributes := adaptAttributes_repair p (items.drop 2) 2
    rw [← repairItems_attributes] at hattributes
    exact (alikeResults_iff.1 hattributes).mono (fun _ _ he => he) fun _ _ hsame => by rw [hsame]; rfl
  · intro i x hx hi
    have hnode := alikeResults_iff.1 (h x hx (p.child i))
    have hnested : Comparison.equal.nested s = Eq := by cases s <;> rfl
    rw [hi, hnested]
    exact hnode

/-- **A lenient reader is a strict reader of repaired data**, but for the value that an error blames. -/
theorem Value.adapt_repair : ∀ (v : Value) (p : Path), (v.adapt true p).Alike (v.repair.adapt false p) := by
  refine Value.items_induction fun v ih p => ?_
  cases hv : v.items? with
  | none =>
    have hself : v.repair = v := repairAs_of_not_list hv (some .node)
    rw [hself, adapt_of_not_list true p hv, adapt_of_not_list false p hv]
    exact .refl _
  | some items =>
    rw [adapt_of_items true p hv, adapt_of_items false p (items?_repair hv)]
    unfold assemble
    simp only [read_repairItems]
    cases hs : Shape.read items with
    | known s =>
      rw [roleIn_of_read hs]
      exact adaptShape_repair (ih items hv) v _ p
    | _ =>
      have hself : v.repair = v := repair_of_unknown hv fun _ h => by cases hs.symm.trans h
      rw [hself]
      exact .refl _

end TemplateProjection
