import TemplateProjection.Proofs.Grammar.Places
import TemplateProjection.Proofs.Logged.Outcome
import TemplateProjection.Proofs.Raw.Fields

/-!
# Adapting by the grammar

The error of adapting raw data at a place is the first violation among the place and all below it
(`Place.error?_inOrder`). A shape fails with its own violation, or else with the first failure of the places nested in
it (`adaptShape_error?`); an induction on the size of raw data carries this to all that stands below.
-/

namespace TemplateProjection

/-- The error of reading a place. -/
def Place.error? (lenient : Bool) (pl : Place) : Option Error :=
  match pl.role with
  | .node => (pl.raw.adapt lenient pl.path).error?
  | .attr => (pl.raw.adaptAttribute lenient pl.path).error?

/-! ## Searches -/

theorem findSome?_cons_or {α β : Type} (f : α → Option β) (a : α) (l : List α) :
    (a :: l).findSome? f = (f a).or (l.findSome? f) := by
  rw [List.findSome?_cons]
  cases f a <;> rfl

theorem findSome?_congr {α β : Type} {f g : α → Option β} : ∀ {l : List α}, (∀ a ∈ l, f a = g a) →
    l.findSome? f = l.findSome? g
  | [], _ => rfl
  | a :: l, h => by
    rw [findSome?_cons_or, findSome?_cons_or, h a List.mem_cons_self,
      findSome?_congr fun b hb => h b (List.mem_cons_of_mem a hb)]

theorem findSome?_flatMap {α β γ : Type} (f : β → Option γ) (g : α → List β) : ∀ l : List α,
    (l.flatMap g).findSome? f = l.findSome? fun a => (g a).findSome? f
  | [] => rfl
  | a :: l => by
    rw [List.flatMap_cons, List.findSome?_append, findSome?_flatMap f g l,
      ← findSome?_cons_or fun a => (g a).findSome? f]

/-! ## Fields -/

section Fields

variable {v : Visit} {word : String}

theorem field_error? {r : Requirement} (hr : r.isText = false) :
    errorOf (v.field word r.what r.index) = (r.violation? word v).map Error.failure := by
  unfold Visit.field Requirement.violation?
  cases v.items[r.index]? with
  | none => rfl
  | some x => cases x <;> simp only [hr] <;> rfl

theorem text_error? {r : Requirement} (hr : r.isText = true) :
    errorOf (v.text word r.what r.index) = (r.violation? word v).map Error.failure := by
  unfold Visit.text Visit.field Requirement.violation?
  cases v.items[r.index]? with
  | none => rfl
  | some x => cases x <;> simp only [hr] <;> rfl

theorem field_ok {what : String} {i : Nat} {x : Value} (h : v.field word what i = .ok x) : v.items[i]? = some x := by
  unfold Visit.field at h
  split at h
  · rename_i y hy
    rw [hy, Except.ok.inj h]
  · cases h

theorem text_ok {what : String} {i : Nat} {s : String} (h : v.text word what i = .ok s) :
    v.items[i]? = some (.str s) := by
  unfold Visit.text at h
  cases hf : v.field word what i with
  | error e =>
    rw [hf] at h
    cases h
  | ok x =>
    rw [hf] at h
    cases x with
    | str t =>
      obtain rfl := Except.ok.inj h
      exact field_ok hf
    | _ => cases h

end Fields

/-! ## Attributes -/

section Attributes

variable (lenient : Bool)

theorem valueText_error? (v : Visit) (name : String) (kind : ValueKind) (items : List Value) :
    (v.valueText lenient name kind items).error? =
      (v.textViolation? lenient name kind items).map Error.failure := by
  unfold Visit.valueText Visit.textViolation?
  cases items[kind.textIndex]? with
  | none =>
    by_cases h : (lenient && kind == .dynamic) = true
    · simp only [h, if_true]
      rfl
    · simp only [h]
      rfl
  | some x =>
    cases lenient with
    | false => cases x <;> rfl
    | true => cases x <;> rfl

/-- An attribute fails with the first of its fields that fails. -/
theorem toAttr_error? (v : Visit) :
    (v.toAttr lenient).error? = (v.attributeViolation? lenient).map Error.failure := by
  unfold Visit.toAttr Visit.attributeViolation?
  rw [Option.map_or, Option.map_or, ← text_error? rfl, ← field_error? rfl]
  -- Each part fails by itself, or hands on a field that is there: so the rest does not depend on how it was read.
  refine Logged.error?_bind fun name hname => Logged.error?_bind fun value hvalue => ?_
  have hname : v.items[attributeName.index]? = some (.str name) := text_ok hname
  have hvalue : v.items[attributeValue.index]? = some value := field_ok hvalue
  rw [hname, hvalue]
  show _ = (v.valueViolation? lenient name value).map Error.failure
  unfold Visit.valueViolation?
  cases value.items? with
  | none => rfl
  | some items =>
    cases items with
    | nil => rfl
    | cons first rest =>
      rw [← valueText_error?]
      exact Logged.error?_bind_pure

theorem adaptAttribute_error? (entry : Value) (p : Path) :
    (entry.adaptAttribute lenient p).error? = (entry.attributeViolation? lenient p).map Error.failure := by
  unfold Value.adaptAttribute Value.attributeViolation?
  cases entry.attributeItems? with
  | none => rfl
  | some items => exact toAttr_error? lenient ⟨entry, items, p⟩

end Attributes

/-! ## Nested places -/

section Nested

variable (lenient : Bool)

/-- The first error among the fields whose items a test admits. -/
def firstError (admits : Value → Bool) (fields : List Field) : Option Error :=
  (fields.filter fun f => admits f.raw).findSome? fun f => f.node.error?

theorem firstError_cons_pos {admits : Value → Bool} {f : Field} (h : admits f.raw = true) (rest : List Field) :
    firstError admits (f :: rest) = f.node.error?.or (firstError admits rest) := by
  unfold firstError
  rw [List.filter_cons, if_pos h, findSome?_cons_or]

theorem firstError_cons_neg {admits : Value → Bool} {f : Field} (h : ¬admits f.raw = true) (rest : List Field) :
    firstError admits (f :: rest) = firstError admits rest := by
  unfold firstError
  rw [List.filter_cons, if_neg h]

theorem siblings_error? : ∀ fields : List Field, (siblings fields).error? = firstError Value.isList fields
  | [] => rfl
  | f :: rest => by
    have ih := siblings_error? rest
    unfold siblings
    by_cases h : f.raw.isList = true
    · rw [if_pos h, firstError_cons_pos h, ← ih]
      exact Logged.error?_bind fun _ _ => Logged.error?_bind_pure
    · rw [if_neg h, firstError_cons_neg h, ih]

theorem body_error? (fields : List Field) (i : Nat) :
    (body fields i).error? = firstError (fun v => !v.isNull) ((fields.drop i).take 1) := by
  rw [List.take_one, List.head?_drop]
  unfold body
  cases fields[i]? with
  | none => rfl
  | some f =>
    show (if f.raw.isNull = true then _ else _ : Logged Value).error? = firstError _ [f]
    by_cases h : f.raw.isNull = true
    · rw [if_pos h, firstError_cons_neg (by rw [h]; decide)]
      rfl
    · rw [if_neg h, firstError_cons_pos (by simpa using h)]
      exact Logged.error?_bind fun _ _ => rfl

theorem content_error? (fields : List Field) (i : Nat) :
    (content fields i).error? = firstError Value.isList ((fields.drop i).take 1) := by
  rw [List.take_one, List.head?_drop]
  unfold content
  cases fields[i]? with
  | none => rfl
  | some f =>
    show (if f.raw.isList = true then _ else _ : Logged Value).error? = firstError _ [f]
    by_cases h : f.raw.isList = true
    · rw [if_pos h, firstError_cons_pos h]
      exact Logged.error?_bind fun _ _ => rfl
    · rw [if_neg h, firstError_cons_neg h]
      rfl

theorem adaptAttributes_error? (p : Path) : ∀ (entries : List Value) (i : Nat),
    (adaptAttributes lenient entries p i).error? =
      (entries.zipIdx i).findSome? fun x => (x.1.adaptAttribute lenient (p.child x.2)).error?
  | [], _ => rfl
  | entry :: rest, i => by
    rw [List.zipIdx_cons, findSome?_cons_or, ← adaptAttributes_error? p rest (i + 1)]
    exact Logged.error?_bind fun _ _ => Logged.error?_bind_pure

theorem window_adaptFields (n : Nesting) (items : List Value) (p : Path) :
    n.window (Value.adaptFields lenient items p 0) =
      ((n.window items).zipIdx n.start).map fun x => ⟨x.1, x.1.adapt lenient (p.child x.2)⟩ := by
  have hdrop : (Value.adaptFields lenient items p 0).drop n.start =
      ((items.drop n.start).zipIdx n.start).map fun x => ⟨x.1, x.1.adapt lenient (p.child x.2)⟩ := by
    rw [adaptFields_drop, Int.zero_add, adaptFields_eq_map]
  unfold Nesting.window
  rw [hdrop]
  split
  · rfl
  · cases items.drop n.start <;> rfl

/-- The places nested in a shape fail as the fields that it takes over. -/
theorem findSome?_places {s : Shape} {n : Nesting} (hs : s.nesting? = some n) (hn : n.role = .node)
    (items : List Value) (p : Path) : (s.places items p).findSome? (Place.error? lenient) =
      firstError n.admits (n.window (Value.adaptFields lenient items p 0)) := by
  obtain ⟨role, start, isOpen, admits⟩ := n
  obtain rfl : role = .node := hn
  unfold firstError Shape.places
  rw [window_adaptFields, List.filter_map, List.findSome?_map, hs]
  exact List.findSome?_map

end Nested

/-! ## Shapes -/

theorem adaptStatement_error? {r : Requirement} (hr : r.isText = true) (v : Visit) (fields : List Field) (shape : Shape)
    (kind : ConstructKind) : (adaptStatement v fields shape kind r.what r.index).error? =
      ((r.violation? shape.word v).map Error.failure).or
        (firstError (fun v => !v.isNull) ((fields.drop (r.index + 1)).take 1)) := by
  rw [← text_error? hr, ← body_error?]
  exact Logged.error?_bind fun _ _ => Logged.error?_bind_pure

/-- A shape fails with its own violation, or else with the first failure below it. -/
theorem adaptShape_error? (lenient : Bool) (v : Visit) (s : Shape) :
    (adaptShape lenient v (Value.adaptFields lenient v.items v.path 0) s).error? =
      ((s.requirement?.bind fun r => r.violation? s.word v).map Error.failure).or
        ((s.places v.items v.path).findSome? (Place.error? lenient)) := by
  cases s with
  | newline => rfl
  | multi =>
    rw [findSome?_places lenient rfl rfl]
    exact Logged.error?_bind_pure.trans (siblings_error? _)
  | text =>
    rw [findSome?_places lenient rfl rfl]
    exact Logged.error?_bind_pure.trans (siblings_error? _)
  | control =>
    rw [findSome?_places lenient rfl rfl]
    exact adaptStatement_error? (r := ⟨"code", 2, true⟩) rfl v _ _ _
  | interpolate =>
    rw [findSome?_places lenient rfl rfl]
    exact adaptStatement_error? (r := ⟨"text", 2, true⟩) rfl v _ _ _
  | output =>
    rw [findSome?_places lenient rfl rfl]
    exact adaptStatement_error? (r := ⟨"code", 3, true⟩) rfl v _ _ _
  | embedded =>
    rw [findSome?_places lenient rfl rfl]
    show _ = ((Requirement.violation? ⟨"body", 3, false⟩ Shape.embedded.word v).map Error.failure).or _
    rw [← field_error? rfl]
    exact Logged.error?_bind fun _ _ => Logged.error?_bind_pure.trans (body_error? _ 3)
  | tag =>
    rw [findSome?_places lenient rfl rfl]
    show _ = ((Requirement.violation? ⟨"tag name", 2, true⟩ Shape.tag.word v).map Error.failure).or _
    rw [← text_error? rfl]
    exact Logged.error?_bind fun _ _ => Logged.error?_bind_pure.trans (content_error? _ 4)
  | attrs =>
    refine Logged.error?_bind_pure.trans ((adaptAttributes_error? lenient v.path _ 2).trans ?_)
    show _ = List.findSome? _ (List.map _ (List.filter (fun _ => true) ((v.items.drop 2).zipIdx 2)))
    rw [List.filter_eq_self.2 fun _ _ => rfl, List.findSome?_map]
    rfl

/-! ## Trees -/

theorem Value.adapt_error? (lenient : Bool) (v : Value) (p : Path) : (v.adapt lenient p).error? =
    ((v.nodeViolation? p).map Error.failure).or ((v.places p).findSome? (Place.error? lenient)) := by
  unfold Value.nodeViolation? Value.places
  cases hv : v.items? with
  | none =>
    rw [Value.adapt_of_not_list lenient p hv]
    rfl
  | some items =>
    rw [Value.adapt_of_items lenient p hv]
    cases hs : Shape.read items with
    | known s =>
      simp only [assemble, hs]
      exact adaptShape_error? lenient ⟨v, items, p⟩ s
    | _ =>
      simp only [assemble, hs]
      rfl

/-- A place fails with its own violation, or else with the first failure directly below it. -/
theorem Place.error?_eq (lenient : Bool) (pl : Place) : pl.error? lenient =
    ((pl.violation? lenient).map Error.failure).or (pl.nested.findSome? (Place.error? lenient)) := by
  obtain ⟨role, raw, p⟩ := pl
  cases role with
  | node => exact raw.adapt_error? lenient p
  | attr => exact (adaptAttribute_error? lenient raw p).trans Option.or_none.symm

/-- **The error of a place is the first violation among it and all below it.** -/
theorem Place.error?_inOrder (lenient : Bool) (pl : Place) :
    pl.error? lenient = (pl.inOrder.findSome? (Place.violation? lenient)).map Error.failure := by
  -- The induction is on the size of the raw data: what is nested in a place is smaller.
  have below : ∀ q ∈ pl.nested, q.error? lenient =
      (q.inOrder.findSome? (Place.violation? lenient)).map Error.failure := fun q hq =>
    have := Place.sizeOf_lt_of_mem_nested hq
    q.error?_inOrder lenient
  rw [error?_eq, inOrder_eq, findSome?_cons_or, Option.map_or, findSome?_flatMap, List.map_findSome?]
  exact congrArg _ (findSome?_congr below)
termination_by sizeOf pl.raw

end TemplateProjection
