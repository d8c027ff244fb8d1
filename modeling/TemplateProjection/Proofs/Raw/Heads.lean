import TemplateProjection.Proofs.Grammar.Leniency
import TemplateProjection.Proofs.Projection.Heads
import TemplateProjection.Proofs.Projection.Total
import TemplateProjection.Proofs.Raw.Related

/-!
# Markup does not leak

No character of a tag's name, of an attribute's name or of its value reaches the text that a projection gives: the head
of a markup element counts by its width alone. In raw data the width is that of a tag's name, or of the names and the
value texts of all attributes (`attributesColumns`); the attributes that are given with a tag count for nothing. Trees
and raw data with heads of the same widths are projected alike (`markup_does_not_leak`).
-/

namespace TemplateProjection

/-! ## Columns -/

/-- The columns of a text; what is no text takes none. -/
def columnsOf (v? : Option Value) : Nat := ((v?.bind Value.word?).map String.length).getD 0

/-- The columns of the text in an attribute's value. -/
def Value.valueColumns (value : Value) : Nat :=
  match value.items? with
  | some (first :: rest) => columnsOf (first :: rest)[(ValueKind.ofFirst first).textIndex]?
  | _ => 0

/-- The columns of an attribute: of its name and of the text in its value. -/
def Value.attributeColumns (entry : Value) : Nat :=
  match entry.items? with
  | some items => columnsOf items[2]? + (items[3]?.map Value.valueColumns).getD 0
  | none => 0

/-- The columns of all entries. -/
def attributesColumns (entries : List Value) : Nat := (entries.map Value.attributeColumns).foldr (· + ·) 0

/-! ## Differences -/

/-- The same value, or two texts that may stand for one another. -/
inductive Value.SameOrTexts (R : String → String → Prop) : Value → Value → Prop
  | same (v : Value) : Value.SameOrTexts R v v
  | texts {a b : String} : R a b → Value.SameOrTexts R (.str a) (.str b)

/-- Names of tags of one length, and attributes that take the same columns together. -/
def RawDifferences.heads : RawDifferences where
  text s := Value.SameOrTexts fun a b => s = .tag ∧ a.length = b.length
  name := Value.SameOrTexts fun _ _ => True
  valueText := Value.SameOrTexts fun _ _ => True
  attributes xs ys := attributesColumns xs = attributesColumns ys

theorem Value.SameOrTexts.sameText {R : String → String → Prop} {v w : Value} (h : v.SameOrTexts R w)
    (cause cause' : String → Cause) : SameText (fun _ _ => True) cause cause' v w := by
  cases h with
  | texts => exact .text _ _
  | same =>
    cases v with
    | str s => exact .text s s
    | _ => exact .other rfl rfl trivial

theorem RawDifferences.heads_refl (v : Value) : v.RawSameBut heads v :=
  .refl (fun _ => rfl) (fun _ => Value.SameOrTexts.same) Value.SameOrTexts.same Value.SameOrTexts.same (fun _ => rfl) v

/-! ## Reading -/

section Reading

variable {v : Visit}

theorem Visit.text_of_valueText {name : String} {kind : ValueKind} {items : List Value} {s : String}
    (h : (v.valueText false name kind items).result = .ok s) : items[kind.textIndex]? = some (.str s) := by
  cases hx : items[kind.textIndex]? with
  | none =>
    unfold valueText at h
    rw [hx] at h
    cases h
  | some x =>
    cases hword : x.word? with
    | none =>
      rw [valueText_of_not_text hx hword] at h
      cases h
    | some t =>
      cases x with
      | str =>
        rw [valueText_of_str hx] at h
        rw [Except.ok.inj h]
      | _ => cases hword

/-- An attribute that is read takes its columns. -/
theorem Visit.toAttr_columns {a : Value} (h : (v.toAttr false).result = .ok a) : a.attributeWidth =
    .ok (columnsOf v.items[2]? + (v.items[3]?.map Value.valueColumns).getD 0) := by
  obtain ⟨name, hname, h⟩ := Logged.bind_result_ok.1 h
  obtain ⟨value, hvalue, h⟩ := Logged.bind_result_ok.1 h
  have hname : v.items[2]? = some (.str name) := text_ok hname
  have hvalue : v.items[3]? = some value := field_ok hvalue
  split at h
  · cases h
  · cases h
  · rename_i first rest hitems
    obtain ⟨text, htext, h⟩ := Logged.bind_result_ok.1 h
    have hcolumns : value.valueColumns = text.length := by
      unfold Value.valueColumns
      rw [hitems]
      show columnsOf (first :: rest)[(ValueKind.ofFirst first).textIndex]? = text.length
      rw [text_of_valueText htext]
      rfl
    rw [← Except.ok.inj h, hname, hvalue, Option.map_some, hcolumns]
    exact attributeOf_width name (ValueKind.ofFirst first) text

theorem Value.adaptAttribute_columns {entry a : Value} {p : Path}
    (h : (entry.adaptAttribute false p).result = .ok a) : a.attributeWidth = .ok entry.attributeColumns := by
  unfold adaptAttribute at h
  split at h
  · rename_i items hitems
    have hitems := (Option.filter_eq_some_iff.1 hitems).1
    unfold attributeColumns
    rw [hitems]
    exact Visit.toAttr_columns h
  · cases h

theorem attributesWidth_cons {a : Value} {rest : List Value} {m n : Nat} (ha : a.attributeWidth = .ok m)
    (hrest : attributesWidth rest = .ok n) : attributesWidth (a :: rest) = .ok (m + n) := by
  rw [attributesWidth_step, ha, hrest]
  rfl

/-- Attributes that are read take the columns of their entries. -/
theorem adaptAttributes_columns {p : Path} : ∀ {entries : List Value} {i : Nat} {as : List Value},
    (adaptAttributes false entries p i).result = .ok as → attributesWidth as = .ok (attributesColumns entries)
  | [], _, _, h => by
    rw [← Except.ok.inj h]
    rfl
  | entry :: rest, i, as, h => by
    obtain ⟨a, ha, h⟩ := Logged.bind_result_ok.1 h
    obtain ⟨others, hothers, h⟩ := Logged.bind_result_ok.1 h
    rw [← Except.ok.inj h]
    exact attributesWidth_cons (Value.adaptAttribute_columns ha) (adaptAttributes_columns hothers)

end Reading

/-! ## Heads -/

section Heads

variable {o : Options}

theorem tagHead_spans (name : String) : (Value.tagHead (.str name)).Spans o name.length := ⟨rfl, fun _ => rfl⟩

theorem attrsHead_spans {attributes : List Value} {width : Nat} (h : attributesWidth attributes = .ok width) :
    (Value.attrsHead (.tuple attributes) .null).Spans o (1 + width) := by
  refine ⟨?_, fun _ => rfl⟩
  unfold Value.headWidth
  simp only [Value.elements?, h]

theorem RawDifferences.heads_readsTags : heads.ReadsTags fun _ _ => True where
  tag h := congrArg Value.symbol? h.symm
  cause _ := trivial

theorem RawDifferences.heads_readsAttributes :
    heads.ReadsAttributes false (fun _ _ => True) (fun _ _ => True) where
  toReadsTags := heads_readsTags
  name _ h := h.sameText _ _
  noText _ _ := trivial
  valueText _ _ h := h.sameText _ _
  entry _ _ _ _ := trivial
  noCode _ := trivial

theorem RawDifferences.heads_readAs (o : Options) : heads.ReadAs false (fun _ _ => True) (.heads o) where
  toReadsTags := heads_readsTags
  text _ h := h.sameText _ _
  fragment hs h := by
    cases h with
    | same => rfl
    | texts h => exact absurd h.1 hs
  noFragment := rfl
  tagName h := by
    cases h with
    | same => exact .same _
    | texts h => exact .width _ (tagHead_spans _) (h.2 ▸ tagHead_spans _)
  attributes {xs ys} p h := by
    have hread := adaptAttributes_related heads_readsAttributes h.entries p 2
    unfold Logged.Related at hread ⊢
    generalize hx : (adaptAttributes false xs p 2).result = r, hy : (adaptAttributes false ys p 2).result = s at hread
    cases hread with
    | error he => exact .error he
    | ok _ =>
      have htogether : attributesColumns xs = attributesColumns ys := h.together
      have hys := adaptAttributes_columns hy
      rw [← htogether] at hys
      exact .ok (.width _ (attrsHead_spans (adaptAttributes_columns hx)) (attrsHead_spans hys))

end Heads

/-! ## Trees -/

/-- A lenient reader makes the same of data that a strict reader takes. -/
theorem Value.adapt_of_strict {raw : Value} {p : Path} {n : Node} (h : (raw.adapt false p).result = .ok n) :
    ∀ lenient, (raw.adapt lenient p).result = .ok n
  | false => h
  | true => by
    have hrepair : AlikeResults (raw.adapt true p).result (raw.repair.adapt false p).result := raw.adapt_repair p
    have hself : raw.repair = raw := Place.repairAs_of_valid ⟨.node, raw, p⟩ (adapt_ok_iff.1 ⟨n, h⟩)
    rw [hself] at hrepair
    exact (hrepair.ok_iff n).2 h

/-- **Markup does not leak.** A projection sees no more of a head than its width. Trees that differ in heads of the same
widths are projected alike: at every level, at the root or below it and on every memo they give the same text, make the
same notices and leave the same memo, or they fail for the same cause. If a strict reader takes raw data, it takes other
data that differ in names of tags of the same length, in attributes that take the same columns together and in whatever
comes with a tag's name, and requests on both give one text. -/
theorem markup_does_not_leak (o : Options) :
    (∀ t u : Value, t.SameBut (.heads o) u → ∀ (level : Int) (isRoot : Bool),
      (t.project o level isRoot).Alike (u.project o level isRoot)) ∧
    ∀ raw raw' : Value, raw.RawSameBut .heads raw' → (∃ n, (raw.adapt false .root).result = .ok n) →
      (∃ n, (raw'.adapt false .root).result = .ok n) ∧
        ∀ (level : Nat) (isRoot : Bool), ∃ text, (raw.projectRaw o level isRoot).fresh.result = .ok text ∧
          (raw'.projectRaw o level isRoot).fresh.result = .ok text := by
  refine ⟨fun t u h => h.project_heads, ?_⟩
  rintro raw raw' h ⟨n, hn⟩
  have hadapt := h.adapt (RawDifferences.heads_readAs o) .root
  obtain ⟨n', hn', hnodes⟩ := hadapt.exists_ok hn
  refine ⟨⟨n', hn'⟩, fun level isRoot => ?_⟩
  have hlenient := Value.adapt_of_strict hn o.lenientAttributes
  have hlenient' := Value.adapt_of_strict hn' o.lenientAttributes
  obtain ⟨text, htext⟩ := adapted_project_returns hlenient level isRoot
  have hprojects := (Value.SameBut.project_heads (.node hnodes) level isRoot .empty).result
  refine ⟨text, ?_, ?_⟩
  · exact (Value.projectRaw_of_ok level isRoot .empty hlenient).trans htext
  · exact (Value.projectRaw_of_ok level isRoot .empty hlenient').trans ((hprojects.ok_iff text).1 htext)

/-- A tag gives way to an attribute that takes as many columns, as the reported width says and the options check. In raw
data, a tag is renamed and loses its attributes, and an attribute's name gets longer by what its value gets shorter. -/
theorem markup_does_not_leak_cell :
    let o : Options := { checkSourceWidth := true }
    let shown := Value.node (.construct (.known .output) (.str "x") .null)
    let cell := Value.tuple [.node (.markup (.tagHead (.str "div")) shown)]
    let attributes := Value.list [.attr (.str "a") (.known .static) (.str "b")]
    let other := Value.tuple [.node (.markup (.attrsHead attributes (.int 3)) shown)]
    let page (tag : String) (attributes : Value) (name text : String) := Value.list [.str "multi",
      .list [.str "html", .str "tag", .str tag, attributes, .list [.str "slim", .str "output", .bool true, .str "x"]],
      .list [.str "html", .str "attrs", .list [.str "html", .str "attr", .str name, .list [.str "static", .str text]]]]
    let raw := page "td" (.list [.str "html", .str "attrs", .int 5]) "id" "cell"
    let raw' := page "th" .null "class" "c"
    cell.SameBut (.heads o) other ∧ (cell.project o 1 true).Alike (other.project o 1 true) ∧
      raw.RawSameBut .heads raw' ∧
      ∃ text, (raw.projectRaw o 0 true).fresh.result = .ok text ∧
        (raw'.projectRaw o 0 true).fresh.result = .ok text := by
  intro o shown cell attributes other page raw raw'
  have hcell : cell.SameBut (.heads o) other := by
    refine .tuple (.node (.markup (.width 3 ⟨rfl, fun _ => rfl⟩ ⟨rfl, fun _ => by decide⟩) (.node ?_)) .nil)
    exact .refl (fun _ => rfl) Value.SameSpan.same _
  have hraw : raw.RawSameBut .heads raw' := by
    have hentry : AttributeSameBut .heads
        (.list [.str "html", .str "attr", .str "id", .list [.str "static", .str "cell"]])
        (.list [.str "html", .str "attr", .str "class", .list [.str "static", .str "c"]]) :=
      .tagged rfl rfl (.some rfl) (.some (.texts trivial))
        (.some (.value rfl rfl rfl (.some (.texts trivial))))
    refine .siblings (s := .multi) rfl rfl rfl rfl ⟨.some rfl, nofun⟩ ?_
    rintro (_ | _ | i)
    · refine .nested rfl rfl ?_
      refine .single (s := .tag) rfl rfl rfl rfl rfl rfl ⟨.some rfl, fun _ => .some rfl⟩ ?_ ?_
      · rintro r ⟨⟩
        exact .some fun _ => .texts ⟨rfl, by decide⟩
      exact .nested rfl rfl (RawDifferences.heads_refl _)
    · refine .nested rfl rfl (.known (s := .attrs) rfl rfl rfl ⟨.some rfl, fun _ => .some rfl⟩ nofun
        (fun _ => ⟨.cons hentry .nil, rfl⟩) ?_)
      rintro n i ⟨⟩ ⟨⟩
    · exact .passedOver nofun nofun
  have hprojects := markup_does_not_leak o
  exact ⟨hcell, hprojects.1 cell other hcell 1 true, hraw, (hprojects.2 raw raw' hraw ⟨_, rfl⟩).2 0 true⟩

end TemplateProjection
