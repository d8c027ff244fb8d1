import TemplateProjection.Proofs.Raw.Fields

/-!
# Adapting in another place

A path may be started where another one ends (`Path.under`). Raw data that are adapted at such a path give the same
node, or fail for the same reason and by the same value, and are noted for the same; only the paths in failures and
notices start elsewhere (`Value.adapt_under`). So what raw data are adapted to depends on their place in nothing but
paths.
-/

namespace TemplateProjection

variable {α β : Type}

/-! ## Paths, failures and notices -/

/-- The path `q`, started where `p` ends. -/
def Path.under (q p : Path) : Path := ⟨p.base, p.steps ++ q.steps⟩

theorem Path.child_under (q p : Path) (i : Int) : (q.child i).under p = (q.under p).child i := by
  simp only [under, child, List.append_assoc]

/-- A path without steps leads nowhere else. -/
theorem Path.ofText_under (base : String) (p : Path) : (ofText base).under p = p := by
  simp only [under, ofText, List.append_nil]

def Failure.under (f : Failure) (p : Path) : Failure := { f with path? := f.path?.map (·.under p) }

def Error.under (e : Error) (p : Path) : Error :=
  match e with
  | .failure f => .failure (f.under p)
  | .access fault => .access fault
  | .notAMember value typeName => .notAMember value typeName

def Notice.under (n : Notice) (p : Path) : Notice :=
  match n with
  | .unknownKind opening q => .unknownKind opening (q.under p)
  | .unknownConstruct word q => .unknownConstruct word (q.under p)
  | .unknownMarkup word q => .unknownMarkup word (q.under p)
  | .valueWithoutCode name q => .valueWithoutCode name (q.under p)
  | .skippedNode typeName => .skippedNode typeName
  | .skippedConstruct word => .skippedConstruct word
  | .skippedText => .skippedText

/-! ## Outcomes -/

namespace Logged

def under (x : Logged α) (p : Path) : Logged α := ⟨x.result.mapError (·.under p), x.log.map (·.under p)⟩

theorem under_pure (a : α) (p : Path) : (pure a : Logged α).under p = pure a := rfl

theorem under_bind (x : Logged α) (f : α → Logged β) (p : Path) :
    (x >>= f).under p = x.under p >>= fun a => (f a).under p := by
  obtain ⟨r, log⟩ := x
  cases r with
  | error e => rfl
  | ok a =>
    rw [bind_ok rfl, bind_ok (a := a) rfl]
    exact congrArg (Logged.mk _) List.map_append

end Logged

def Visit.under (v : Visit) (p : Path) : Visit := { v with path := v.path.under p }

def Field.under (f : Field) (p : Path) : Field := { f with node := f.node.under p }

variable (p : Path)

theorem Visit.failAt_under (v : Visit) (i : Nat) (cause : Cause) :
    ((v.under p).failAt i cause : Except Error α) = (v.failAt i cause).mapError (·.under p) := by
  have hpath : (v.under p).path.child i = (v.path.child i).under p := (v.path.child_under p i).symm
  rw [failAt, hpath]
  rfl

theorem Visit.field_under (v : Visit) (node what : String) (i : Nat) :
    (v.under p).field node what i = (v.field node what i).mapError (·.under p) := by
  have hitems : (v.under p).items = v.items := rfl
  unfold field
  rw [hitems]
  cases v.items[i]? <;> rfl

theorem Visit.text_under (v : Visit) (node what : String) (i : Nat) :
    (v.under p).text node what i = (v.text node what i).mapError (·.under p) := by
  unfold text
  rw [field_under]
  cases v.field node what i with
  | error e => rfl
  | ok x =>
    cases x with
    | str s => rfl
    | _ => exact v.failAt_under p i _

/-! ## Attributes -/

section Attributes

variable (lenient : Bool)

theorem Visit.valueText_under (v : Visit) (name : String) (kind : ValueKind) (items : List Value) :
    (v.under p).valueText lenient name kind items = (v.valueText lenient name kind items).under p := by
  unfold valueText
  cases items[kind.textIndex]? with
  | none =>
    dsimp only
    split
    · rfl
    · rw [failAt_under]
      rfl
  | some x =>
    have hpath : ((v.under p).path.child 3).child kind.textIndex = ((v.path.child 3).child kind.textIndex).under p := by
      rw [Path.child_under, Path.child_under]
      rfl
    cases x with
    | str s => rfl
    | _ =>
      dsimp only
      split
      · rfl
      · rw [hpath]
        rfl

theorem Visit.toAttr_under (v : Visit) : (v.under p).toAttr lenient = (v.toAttr lenient).under p := by
  unfold toAttr
  rw [text_under, Logged.under_bind]
  refine bind_congr fun name => ?_
  rw [field_under, Logged.under_bind]
  refine bind_congr fun value => ?_
  cases value.items? with
  | none => rw [failAt_under]; rfl
  | some items =>
    cases items with
    | nil => rw [failAt_under]; rfl
    | cons first rest =>
      rw [Logged.under_bind]
      dsimp only
      rw [valueText_under]
      rfl

theorem Value.adaptAttribute_under (entry : Value) (q : Path) :
    entry.adaptAttribute lenient (q.under p) = (entry.adaptAttribute lenient q).under p := by
  unfold adaptAttribute
  cases entry.attributeItems? with
  | none => rfl
  | some items => exact Visit.toAttr_under p lenient ⟨entry, items, q⟩

theorem adaptAttributes_under (q : Path) : ∀ (entries : List Value) (i : Nat),
    adaptAttributes lenient entries (q.under p) i = (adaptAttributes lenient entries q i).under p
  | [], _ => rfl
  | entry :: rest, i => by
    unfold adaptAttributes
    rw [← Path.child_under, Value.adaptAttribute_under, adaptAttributes_under q rest (i + 1)]
    simp only [Logged.under_bind, Logged.under_pure]

end Attributes

/-! ## Nested nodes -/

theorem siblings_under : ∀ fields : List Field, siblings (fields.map (·.under p)) = (siblings fields).under p
  | [] => rfl
  | f :: rest => by
    rw [List.map_cons]
    by_cases h : f.raw.isList = true
    · have hmoved : (f.under p).raw.isList = true := h
      rw [siblings_cons_list h, siblings_cons_list hmoved, siblings_under rest]
      simp only [Logged.under_bind, Logged.under_pure]
      rfl
    · have hmoved : ¬(f.under p).raw.isList = true := h
      rw [siblings_cons_other h, siblings_cons_other hmoved, siblings_under rest]

theorem body_under (fields : List Field) (i : Nat) : body (fields.map (·.under p)) i = (body fields i).under p := by
  unfold body
  rw [List.getElem?_map]
  cases fields[i]? with
  | none => rfl
  | some f =>
    show (if f.raw.isNull = true then _ else _ : Logged Value) = Logged.under (if f.raw.isNull = true then _ else _) p
    split
    · rfl
    · rw [Logged.under_bind]
      rfl

theorem content_under (fields : List Field) (i : Nat) :
    content (fields.map (·.under p)) i = (content fields i).under p := by
  unfold content
  rw [List.getElem?_map]
  cases fields[i]? with
  | none => rfl
  | some f =>
    show (if f.raw.isList = true then _ else _ : Logged Value) = Logged.under (if f.raw.isList = true then _ else _) p
    split
    · rw [Logged.under_bind]
      rfl
    · rfl

/-! ## Shapes -/

theorem adaptStatement_under (v : Visit) (fields : List Field) (shape : Shape) (kind : ConstructKind) (what : String)
    (code : Nat) : adaptStatement (v.under p) (fields.map (·.under p)) shape kind what code =
      (adaptStatement v fields shape kind what code).under p := by
  unfold adaptStatement
  rw [Visit.text_under, body_under]
  simp only [Logged.under_bind, Logged.under_pure]
  rfl

theorem adaptShape_under (lenient : Bool) (v : Visit) (fields : List Field) (s : Shape) :
    adaptShape lenient (v.under p) (fields.map (·.under p)) s = (adaptShape lenient v fields s).under p := by
  cases s with
  | multi | text =>
    dsimp only [adaptShape]
    rw [← List.map_drop, siblings_under, Logged.under_bind]
    rfl
  | newline => rfl
  | control | interpolate | output => exact adaptStatement_under p v fields _ _ _ _
  | embedded =>
    unfold adaptShape
    rw [Visit.field_under, body_under]
    simp only [Logged.under_bind, Logged.under_pure]
    rfl
  | tag =>
    unfold adaptShape
    rw [Visit.text_under, content_under]
    simp only [Logged.under_bind, Logged.under_pure]
    rfl
  | attrs =>
    have hattributes := adaptAttributes_under p lenient v.path (v.items.drop 2) 2
    unfold adaptShape
    rw [Logged.under_bind, ← hattributes]
    rfl

theorem assemble_under (lenient : Bool) (v : Visit) (fields : List Field) :
    assemble lenient (v.under p) (fields.map (·.under p)) = (assemble lenient v fields).under p := by
  have hitems : (v.under p).items = v.items := rfl
  unfold assemble
  rw [hitems]
  cases Shape.read v.items with
  | known s => exact adaptShape_under p lenient v fields s
  | _ => rfl

/-! ## Trees -/

mutual

/-- **Raw data are adapted alike in every place.** -/
theorem Value.adapt_under (lenient : Bool) : ∀ (v : Value) (q : Path),
    v.adapt lenient (q.under p) = (v.adapt lenient q).under p
  | .list items, q => by
    have hfields := adaptFields_under lenient items q 0
    show assemble lenient _ (Value.adaptFields lenient items (q.under p) 0) = _
    rw [hfields]
    exact assemble_under p lenient ⟨.list items, items, q⟩ _
  | .tuple items, q => by
    have hfields := adaptFields_under lenient items q 0
    show assemble lenient _ (Value.adaptFields lenient items (q.under p) 0) = _
    rw [hfields]
    exact assemble_under p lenient ⟨.tuple items, items, q⟩ _
  | .null, _ | .bool _, _ | .int _, _ | .float _, _ | .str _, _ | .dict _, _ | .collection _ _, _ | .object _, _
  | .node _, _ | .tagHead _, _ | .attrsHead _ _, _ | .attr _ _ _, _ => rfl

theorem adaptFields_under (lenient : Bool) : ∀ (items : List Value) (q : Path) (i : Int),
    Value.adaptFields lenient items (q.under p) i = (Value.adaptFields lenient items q i).map (·.under p)
  | [], _, _ => rfl
  | v :: rest, q, i => by
    show (⟨v, v.adapt lenient ((q.under p).child i)⟩ : Field) :: Value.adaptFields lenient rest (q.under p) (i + 1) = _
    rw [← Path.child_under, Value.adapt_under lenient v (q.child i), adaptFields_under lenient rest q (i + 1)]
    rfl

end

end TemplateProjection
