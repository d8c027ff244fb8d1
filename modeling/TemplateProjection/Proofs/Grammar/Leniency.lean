import TemplateProjection.Proofs.Grammar.FirstViolation
import TemplateProjection.Proofs.Raw.Lenient

/-!
# What a lenient reader lets pass

A lenient reader sees the violations of a strict one, but for those that a repair mends (`Place.violation?_lenient`).
Where a strict reader sees none there is nothing to repair (`Place.repairAs_of_valid`). So lenient reading is strict
reading of the repaired data, and changes nothing about data that a strict reader takes (`lenient_adapts_as_repaired`).
-/

namespace TemplateProjection

/-- The causes that a repair does away with: a dynamic value without code, and a text of another type. -/
def Cause.isMended : Cause → Bool
  | missingValueText _ index => index == ValueKind.dynamic.textIndex
  | valueNotText _ _ => true
  | _ => false

/-! ## Violations -/

section Violations

variable {v : Visit}

/-- A strict reader is satisfied with a value only if there is a text. -/
theorem Visit.text_of_valid {name : String} {kind : ValueKind} {items : List Value}
    (h : v.textViolation? false name kind items = none) : ∃ s, items[kind.textIndex]? = some (.str s) := by
  unfold textViolation? at h
  split at h
  · cases h
  · rename_i s hs
    exact ⟨s, hs⟩
  · cases h

theorem ValueKind.repair_of_text {kind : ValueKind} {items : List Value} {s : String}
    (h : items[kind.textIndex]? = some (.str s)) : kind.repair items = items := by
  obtain ⟨hindex, hs⟩ := List.getElem?_eq_some_iff.1 h
  unfold repair
  rw [h]
  show items.set kind.textIndex (.str s) = items
  rw [← hs, List.set_getElem_self]

theorem Value.repairValue_of_valid {name : String} {value : Value} (h : v.valueViolation? false name value = none) :
    value.repairValue = value := by
  unfold Visit.valueViolation? at h
  split at h
  · cases h
  · cases h
  · rename_i first rest hitems
    obtain ⟨s, hs⟩ := Visit.text_of_valid h
    rw [repairValue, hitems]
    show value.withItems _ = value
    rw [ValueKind.repair_of_text hs, withItems_self hitems]

theorem Requirement.text_of_valid {r : Requirement} (hr : r.isText = true) {word : String}
    (h : r.violation? word v = none) : ∃ s, v.items[r.index]? = some (.str s) := by
  unfold violation? at h
  split at h
  · cases h
  · rename_i s hs
    exact ⟨s, hs⟩
  · rw [if_pos hr] at h
    cases h

theorem Value.repairAttribute_of_valid {entry : Value} {p : Path} (h : entry.attributeViolation? false p = none) :
    entry.repairAttribute = entry := by
  unfold attributeViolation? at h
  split at h
  · cases h
  · rename_i items hitems
    obtain ⟨hname, h⟩ := Option.or_eq_none_iff.1 h
    obtain ⟨name, hname⟩ := Requirement.text_of_valid rfl hname
    obtain ⟨-, hvalue⟩ := Option.or_eq_none_iff.1 h
    have hkept : items.modify 3 repairValue = items := by
      refine List.ext_getElem? fun i => ?_
      by_cases hi : 3 = i
      · subst hi
        rw [List.getElem?_modify_eq]
        cases h3 : items[3]? with
        | none => rfl
        | some value =>
          have hitem : items[attributeValue.index]? = some value := h3
          rw [hname, hitem] at hvalue
          have hvalid : Visit.valueViolation? false ⟨entry, items, p⟩ name value = none := hvalue
          exact congrArg some (repairValue_of_valid hvalid)
      · rw [List.getElem?_modify_ne _ _ hi]
    rw [repairAttribute, hitems]
    show entry.withItems (items.modify 3 repairValue) = entry
    rw [hkept, withItems_self (Option.filter_eq_some_iff.1 hitems).1]

end Violations

/-! ## Places -/

/-- An item that a nesting covers is in its window. -/
theorem Nesting.mem_zipIdx_window {n : Nesting} {items : List Value} {i : Nat} {x : Value} (hcovers : n.covers i = true)
    (hx : items[i]? = some x) : (x, i) ∈ (n.window items).zipIdx n.start := by
  obtain ⟨hstart, hlast⟩ : n.start ≤ i ∧ (n.isOpen = true ∨ i = n.start) := by
    simpa only [covers, Bool.and_eq_true, Bool.or_eq_true, decide_eq_true_eq] using hcovers
  rw [List.mk_mem_zipIdx_iff_le_and_getElem?_sub]
  refine ⟨hstart, ?_⟩
  have hdrop : (items.drop n.start)[i - n.start]? = some x := by
    rw [List.getElem?_drop, Nat.add_sub_of_le hstart, hx]
  unfold window
  split
  · exact hdrop
  · rename_i hopen
    obtain rfl := hlast.resolve_left hopen
    rw [List.getElem?_take_of_lt (by omega)]
    exact hdrop

/-- What a nesting covers but does not admit is no list. -/
theorem Shape.items?_of_not_admitted {s : Shape} {n : Nesting} (hs : s.nesting? = some n) {x : Value}
    (hx : ¬n.admits x = true) : x.items? = none := by
  cases s <;> cases hs <;> cases x <;> first | rfl | exact absurd rfl hx

/-- An item with a role is a place of that role, or no list. -/
theorem Value.mem_places_of_roleIn {raw : Value} {items : List Value} (hitems : raw.items? = some items) {i : Nat}
    {x : Value} (hx : items[i]? = some x) {role : Role} (hrole : roleIn items i = some role) (p : Path) :
    x.items? = none ∨ ⟨role, x, p.child i⟩ ∈ raw.places p := by
  unfold roleIn at hrole
  split at hrole
  · rename_i s hs
    obtain ⟨n, hn, hrole⟩ := Option.bind_eq_some_iff.1 hrole
    split at hrole
    · rename_i hcovers
      obtain rfl := Option.some.inj hrole
      by_cases hadmits : n.admits x = true
      · right
        rw [places, hitems]
        simp only [hs, Shape.places, hn]
        exact List.mem_map.2 ⟨(x, i), List.mem_filter.2 ⟨Nesting.mem_zipIdx_window hcovers hx, hadmits⟩, rfl⟩
      · exact .inl (Shape.items?_of_not_admitted hn hadmits)
    · cases hrole
  · cases hrole

/-- Where a strict reader sees no violation there is nothing to repair. -/
theorem Place.repairAs_of_valid (pl : Place) (h : ∀ q ∈ pl.inOrder, q.violation? false = none) :
    pl.raw.repairAs pl.role = pl.raw := by
  rw [inOrder_eq] at h
  -- The induction is on the size of the raw data: what is nested in a place is smaller.
  have below : ∀ q ∈ pl.nested, q.raw.repairAs q.role = q.raw := fun q hq =>
    have := Place.sizeOf_lt_of_mem_nested hq
    q.repairAs_of_valid fun q' hq' => h q' (List.mem_cons_of_mem _ (List.mem_flatMap.2 ⟨q, hq, hq'⟩))
  have hself := h pl List.mem_cons_self
  obtain ⟨role, raw, p⟩ := pl
  cases role with
  | attr => exact Value.repairAttribute_of_valid hself
  | node =>
    show raw.repair = raw
    cases hitems : raw.items? with
    | none => exact Value.repairAs_of_not_list hitems (some .node)
    | some items =>
      refine Value.repair_eq_self hitems fun i x hx => ?_
      cases hrole : roleIn items i with
      | none => rfl
      | some role =>
        rcases Value.mem_places_of_roleIn hitems hx hrole p with hother | hplace
        · exact Value.repairAs_of_not_list hother _
        · exact below _ hplace
termination_by sizeOf pl.raw

/-! ## Lenient readers -/

/-- What a lenient reader sees of a violation. -/
def Failure.unmended? (f : Failure) : Option Failure := if f.cause.isMended then none else some f

section Lenient

variable {v : Visit}

/-- A field that is needed is needed by a lenient reader too. -/
theorem Requirement.violation?_unmended (r : Requirement) (word : String) (v : Visit) :
    (r.violation? word v).bind Failure.unmended? = r.violation? word v := by
  unfold violation?
  split
  · rfl
  · rfl
  · split <;> rfl

theorem Visit.textViolation?_lenient (v : Visit) (name : String) (kind : ValueKind) (items : List Value) :
    v.textViolation? true name kind items = (v.textViolation? false name kind items).bind Failure.unmended? := by
  unfold textViolation?
  cases items[kind.textIndex]? with
  | none => cases kind <;> rfl
  | some x => cases x <;> rfl

theorem Visit.valueViolation?_lenient (v : Visit) (name : String) (value : Value) :
    v.valueViolation? true name value = (v.valueViolation? false name value).bind Failure.unmended? := by
  unfold valueViolation?
  split
  · rfl
  · rfl
  · exact v.textViolation?_lenient name _ _

/-- Parts of which the first is seen alike by both readers. -/
theorem or_bind_unmended {a b c : Option Failure} (ha : a.bind Failure.unmended? = a)
    (hb : c = b.bind Failure.unmended?) : a.or c = (a.or b).bind Failure.unmended? := by
  cases a with
  | none => exact hb
  | some f => exact ha.symm

theorem Value.attributeViolation?_lenient (raw : Value) (p : Path) :
    raw.attributeViolation? true p = (raw.attributeViolation? false p).bind Failure.unmended? := by
  unfold attributeViolation?
  cases raw.attributeItems? with
  | none => rfl
  | some items =>
    refine or_bind_unmended (Requirement.violation?_unmended _ _ _) ?_
    refine or_bind_unmended (Requirement.violation?_unmended _ _ _) ?_
    cases items[attributeName.index]?.bind Value.word? with
    | none => rfl
    | some name =>
      cases items[attributeValue.index]? with
      | none => rfl
      | some value => exact Visit.valueViolation?_lenient _ name value

theorem Value.nodeViolation?_unmended (raw : Value) (p : Path) :
    (raw.nodeViolation? p).bind Failure.unmended? = raw.nodeViolation? p := by
  unfold nodeViolation?
  cases raw.items? with
  | none => rfl
  | some items =>
    dsimp only
    cases Shape.read items with
    | known s =>
      exact (Option.bind_assoc _ _ _).trans
        (congrArg s.requirement?.bind (funext fun r => r.violation?_unmended _ _))
    | _ => rfl

/-- A lenient reader sees the violations of a strict one that no repair mends, and no others. -/
theorem Place.violation?_lenient (pl : Place) :
    pl.violation? true = (pl.violation? false).bind Failure.unmended? := by
  obtain ⟨role, raw, p⟩ := pl
  cases role with
  | node => exact (raw.nodeViolation?_unmended p).symm
  | attr => exact raw.attributeViolation?_lenient p

theorem FirstViolation.lenient {places : List Place} {f : Failure} (h : FirstViolation false places f)
    (hf : f.cause.isMended = false) : FirstViolation true places f := by
  obtain ⟨before, pl, after, hplaces, hbefore, hpl⟩ := h
  refine ⟨before, pl, after, hplaces, fun q hq => ?_, ?_⟩
  · rw [q.violation?_lenient, hbefore q hq]
    rfl
  · rw [pl.violation?_lenient, hpl]
    show f.unmended? = some f
    rw [Failure.unmended?, hf]
    rfl

end Lenient

/-- **A lenient reader is a strict reader of repaired data.** It returns the node that a strict reader returns for the
repaired data. If either fails then both do, with one cause and one path: the error is structural. Data that a strict
reader takes need no repair, so a lenient reader makes the same of them; and what no repair mends fails as ever. -/
theorem lenient_adapts_as_repaired (raw : Value) (p : Path) :
    (∀ n, (raw.adapt true p).result = .ok n ↔ (raw.repair.adapt false p).result = .ok n) ∧
    ((∃ e, (raw.adapt true p).result = .error e) ∨ (∃ e, (raw.repair.adapt false p).result = .error e) →
      ∃ f f', (raw.adapt true p).result = .error (.failure f) ∧
        (raw.repair.adapt false p).result = .error (.failure f') ∧
        f.IsMalformedNode ∧ f'.cause = f.cause ∧ f'.path? = f.path?) ∧
    (∀ n, (raw.adapt false p).result = .ok n → raw.repair = raw ∧ (raw.adapt true p).result = .ok n) ∧
    ∀ f, (raw.adapt false p).result = .error (.failure f) → f.cause.isMended = false →
      (raw.adapt true p).result = .error (.failure f) := by
  have halike : AlikeResults (raw.adapt true p).result (raw.repair.adapt false p).result := raw.adapt_repair p
  refine ⟨halike.ok_iff, fun herror => ?_, fun n hn => ?_, fun f hf hmended => ?_⟩
  · rcases halike.cases with ⟨n, hn, hn'⟩ | ⟨e, e', he, he', hee'⟩
    · rw [hn, hn'] at herror
      rcases herror with ⟨_, h⟩ | ⟨_, h⟩ <;> cases h
    · obtain ⟨f, rfl, hf⟩ := adapt_error_iff.1 he
      obtain ⟨f', rfl, -⟩ := adapt_error_iff.1 he'
      obtain ⟨hcause, hpath, -⟩ := Failure.mk.inj (Error.failure.inj hee')
      exact ⟨f, f', he, he', hf.isMalformedNode, hcause.symm, hpath.symm⟩
  · have hself : raw.repair = raw := Place.repairAs_of_valid ⟨.node, raw, p⟩ (adapt_ok_iff.1 ⟨n, hn⟩)
    refine ⟨hself, (halike.ok_iff n).2 ?_⟩
    rw [hself]
    exact hn
  · obtain ⟨f', hff', hfirst⟩ := adapt_error_iff.1 hf
    obtain rfl := Error.failure.inj hff'
    exact adapt_error_iff.2 ⟨f, rfl, hfirst.lenient hmended⟩

/-- A source without code and a width that is a number are repaired, and both are then read by either reader. -/
theorem lenient_adapts_as_repaired_image :
    let entry (name : String) (value : List Value) := Value.list [.str "html", .str "attr", .str name, .list value]
    let attrs (source width : List Value) := Value.list
      [.str "multi", .tuple [.str "html", .str ":attrs", entry "src" source, entry "width" width]]
    let raw := attrs [.str "slim", .str "attrvalue", .bool true] [.str "static", .int 40]
    let repaired := attrs [.str "slim", .str "attrvalue", .bool true, .str ""] [.str "static", .str "40"]
    raw.repair = repaired ∧
      ∃ n, (repaired.adapt false .root).result = .ok n ∧ (raw.adapt true .root).result = .ok n := by
  intro entry attrs raw repaired
  have hrepair : raw.repair = repaired := by rfl
  obtain ⟨n, hn⟩ : ∃ n, (repaired.adapt false .root).result = .ok n := ⟨_, rfl⟩
  refine ⟨hrepair, n, hn, ((lenient_adapts_as_repaired raw .root).1 n).2 ?_⟩
  rw [hrepair]
  exact hn

end TemplateProjection
