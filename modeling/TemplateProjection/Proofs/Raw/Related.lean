import TemplateProjection.Proofs.Projection.Differences
import TemplateProjection.Proofs.Raw.Comparison
import TemplateProjection.Proofs.Raw.Differences
import TemplateProjection.Session

/-!
# What a reader makes of differences

If a reader makes the same of the differences between raw data where they stand (`RawDifferences.ReadAs`), then it makes
the same of the data: nodes that are the same but for corresponding differences, or failures at one path for
corresponding causes (`Value.RawSameBut.adapt`). If no projection sees these differences, requests on the data give the
same text (`Value.RawSameBut.projectRaw`).

Attributes are read to related outcomes one by one (`adaptAttributes_related`); for all else that a reader looks at, to
be the same but for differences is a comparison of readers (`RawDifferences.ReadAs.comparison`).
-/

namespace TemplateProjection

variable {d : RawDifferences} {lenient : Bool} {K : Cause → Cause → Prop} {A : Value → Value → Prop} {D : Differences}

/-! ## What corresponds -/

/-- Tags that may stand for one another are one symbol, and every cause corresponds to itself. -/
structure RawDifferences.ReadsTags (d : RawDifferences) (K : Cause → Cause → Prop) : Prop where
  tag : ∀ {x y : Value}, d.tag x y → y.symbol? = x.symbol?
  cause : ∀ c, K c c

/-- Names and texts that may stand for one another are read to corresponding attributes. -/
structure RawDifferences.ReadsAttributes (d : RawDifferences) (lenient : Bool) (K : Cause → Cause → Prop)
    (A : Value → Value → Prop) : Prop extends d.ReadsTags K where
  name : ∀ {x y : Value} (what : String), d.name x y → SameText K (.notText what) (.notText what) x y
  noText : ∀ {a b : String} (index : Nat), d.name (.str a) (.str b) →
    K (.missingValueText a index) (.missingValueText b index)
  valueText : ∀ {a b : String} {x y : Value}, lenient = false → d.name (.str a) (.str b) → d.valueText x y →
    SameText K (.valueNotText a) (.valueNotText b) x y
  entry : ∀ {a b : String} {x y : Value} (kind : ValueKind),
    (lenient = false → ∃ s t, x = .str s ∧ y = .str t) → d.name (.str a) (.str b) → d.valueText x y →
    A (attributeOf a kind x.lenientText) (attributeOf b kind y.lenientText)
  noCode : ∀ {a b : String}, d.name (.str a) (.str b) → A (attributeOf a .dynamic "") (attributeOf b .dynamic "")

/-- The differences that may stand where a reader looks are read to corresponding ones. -/
structure RawDifferences.ReadAs (d : RawDifferences) (lenient : Bool) (K : Cause → Cause → Prop) (D : Differences) :
    Prop extends d.ReadsTags K where
  text : ∀ {s : Shape} {x y : Value} (what : String), d.text s x y → SameText K (.notText what) (.notText what) x y
  fragment : ∀ {s : Shape} {a b : String}, s ≠ .tag → d.text s (.str a) (.str b) → D.fragment (.str a) (.str b)
  noFragment : D.fragment .null .null
  tagName : ∀ {a b : String}, d.text .tag (.str a) (.str b) → D.head (.tagHead (.str a)) (.tagHead (.str b))
  attributes : ∀ {xs ys : List Value} (p : Path), AttributesSameBut d xs ys →
    (adaptAttributes lenient xs p 2).Related (Error.Corresponds K)
      (fun as bs => D.head (.attrsHead (.tuple as) .null) (.attrsHead (.tuple bs) .null))
      (adaptAttributes lenient ys p 2)

/-! ## Attributes -/

section Attributes

variable {v w : Visit}

section ValueTexts

variable {name : String} {kind : ValueKind} {items : List Value}

theorem Visit.valueText_lenient {x : Value} (h : items[kind.textIndex]? = some x) :
    (v.valueText true name kind items).result = .ok x.lenientText := by
  unfold valueText
  rw [h]
  cases x <;> rfl

theorem Visit.valueText_of_str {s : String} (h : items[kind.textIndex]? = some (.str s)) :
    (v.valueText lenient name kind items).result = .ok s := by
  unfold valueText
  rw [h]
  rfl

theorem Visit.valueText_of_not_text {x : Value} (h : items[kind.textIndex]? = some x) (hx : x.word? = none) :
    (v.valueText false name kind items).result =
      .error (.atPath ((v.path.child 3).child kind.textIndex) (.valueNotText name x.typeName) v.raw) := by
  unfold valueText
  rw [h]
  cases x with
  | str => cases hx
  | _ => rfl

end ValueTexts

section Reading

variable (hd : d.ReadsAttributes lenient K A)
include hd

/-- Values whose texts may stand for one another are read to texts of corresponding attributes, or both fail. -/
theorem Visit.valueText_related (hpath : w.path = v.path) {a b : String} (hname : d.name (.str a) (.str b))
    (kind : ValueKind) {xs ys : List Value} (h : Option.Rel d.valueText xs[kind.textIndex]? ys[kind.textIndex]?) :
    (v.valueText lenient a kind xs).Related (Error.Corresponds K)
      (fun s t => A (attributeOf a kind s) (attributeOf b kind t)) (w.valueText lenient b kind ys) := by
  rcases rel_cases h with ⟨hx, hy⟩ | ⟨x, y, hx, hy, hxy⟩
  · have hmissing : (Logged.ofExcept (v.failAt 3 (.missingValueText a kind.textIndex))).Related (Error.Corresponds K)
        (fun s t => A (attributeOf a kind s) (attributeOf b kind t))
        (Logged.ofExcept (w.failAt 3 (.missingValueText b kind.textIndex))) :=
      failAt_related hpath 3 (hd.noText kind.textIndex hname)
    unfold valueText
    rw [hx, hy]
    cases lenient with
    | false => exact hmissing
    | true =>
      cases kind with
      | static => exact hmissing
      | dynamic => exact .ok (hd.noCode hname)
  · unfold Logged.Related
    cases hlenient : lenient with
    | true =>
      have hnotStrict : lenient ≠ false := by simp [hlenient]
      rw [valueText_lenient hx, valueText_lenient hy]
      exact .ok (hd.entry kind (absurd · hnotStrict) hname hxy)
    | false =>
      cases hd.valueText hlenient hname hxy with
      | text s t =>
        rw [valueText_of_str hx, valueText_of_str hy]
        exact .ok (hd.entry kind (fun _ => ⟨s, t, rfl, rfl⟩) hname hxy)
      | other hx' hy' hcause =>
        rw [valueText_of_not_text hx hx', valueText_of_not_text hy hy', hpath]
        exact .error (.atPath _ _ _ hcause)

theorem Visit.toAttr_related (hpath : w.path = v.path) (hname : Option.Rel d.name v.items[2]? w.items[2]?)
    (hvalue : Option.Rel (ValueSameBut d) v.items[3]? w.items[3]?) :
    (v.toAttr lenient).Related (Error.Corresponds K) A (w.toAttr lenient) := by
  refine Logged.Related.bind (text_related hpath hd.cause (hd.name _) hname) fun a b hab => ?_
  have hvalueNotAList : (Logged.ofExcept (v.failAt 3 .valueNotAList)).Related (Error.Corresponds K) A
      (Logged.ofExcept (w.failAt 3 .valueNotAList)) := failAt_related hpath 3 (hd.cause _)
  unfold field
  rcases rel_cases hvalue with ⟨hx, hy⟩ | ⟨x, y, hx, hy, hxy⟩
  · rw [hx, hy]
    exact fail_related hpath (hd.cause _)
  · rw [hx, hy]
    refine .bind_of_ok rfl rfl ?_
    cases hxy with
    | notList hv hw =>
      rw [hv, hw]
      exact hvalueNotAList
    | empty hv hw =>
      rw [hv, hw]
      exact hvalueNotAList
    | @value first first' rest rest' hv hw htag htext =>
      have hkind : ValueKind.ofFirst first' = ValueKind.ofFirst first := by
        rw [ValueKind.ofFirst, ValueKind.ofFirst, hd.tag htag]
      simp only [hv, hw, hkind]
      exact (valueText_related hd hpath hab _ htext).bind fun s t hst => .pure hst

theorem Value.adaptAttribute_related {x y : Value} (h : AttributeSameBut d x y) (p : Path) :
    (x.adaptAttribute lenient p).Related (Error.Corresponds K) A (y.adaptAttribute lenient p) := by
  have hnone : (Logged.fail (.atPath p .notAnAttribute x)).Related (Error.Corresponds K) A
      (Logged.fail (.atPath p .notAnAttribute y)) := .fail (.atPath p _ _ (hd.cause _))
  unfold adaptAttribute
  cases h with
  | other hx hy =>
    rw [hx, hy]
    exact hnone
  | @tagged xs ys hx hy htag hname hvalue =>
    have htag := symbolAt_of_rel hd.tag htag
    unfold attributeItems?
    rw [hx, hy, Option.filter_some, Option.filter_some, htag]
    cases decide (Shape.symbolAt xs 1 = some "attr") with
    | true => exact Visit.toAttr_related (v := ⟨x, xs, p⟩) (w := ⟨y, ys, p⟩) hd rfl hname hvalue
    | false => exact hnone

/-- Attribute lists that are the same but for the differences are read to corresponding attributes. -/
theorem adaptAttributes_related {xs ys : List Value} (h : List.Forall₂ (AttributeSameBut d) xs ys) (p : Path)
    (i : Nat) : (adaptAttributes lenient xs p i).Related (Error.Corresponds K) (List.Forall₂ A)
      (adaptAttributes lenient ys p i) := by
  induction h generalizing i with
  | nil => exact .pure .nil
  | cons hentry _ ih =>
    refine (Value.adaptAttribute_related hd hentry (p.child i)).bind fun a b hab => ?_
    exact (ih (i + 1)).bind fun as bs hrest => .pure (.cons hab hrest)

end Reading

/-- Attributes of which nothing that differs is read make equal heads. -/
theorem sameHead_of_attributes (hd : d.ReadsAttributes lenient K Eq) (hhead : ∀ head, D.head head head)
    {xs ys : List Value} (h : AttributesSameBut d xs ys) (p : Path) :
    (adaptAttributes lenient xs p 2).Related (Error.Corresponds K)
      (fun as bs => D.head (.attrsHead (.tuple as) .null) (.attrsHead (.tuple bs) .null))
      (adaptAttributes lenient ys p 2) := by
  refine RelatedResults.mono (adaptAttributes_related hd h.entries p 2) (fun _ _ he => he) fun as bs hsame => ?_
  rw [List.forall₂_eq_eq_eq] at hsame
  exact hsame ▸ hhead _

end Attributes

/-! ## Nodes -/

theorem childTuple_sameBut {ms ns : List Node} (h : List.Forall₂ (Node.SameBut D) ms ns) :
    (childTuple ms).SameBut D (childTuple ns) := by
  have hentries : EntriesSameBut D (ms.map Value.node) (ns.map Value.node) := by
    induction h with
    | nil => exact .nil
    | cons hmn _ ih => exact .node hmn ih
  exact .tuple hentries

namespace RawDifferences.ReadAs

variable (hd : d.ReadAs lenient K D)

/-- Nodes that are the same but for the differences, made of parts that are. -/
def comparison : Comparison where
  cause := K
  node := Node.SameBut D
  contentNode := Node.SameBut D
  children := Value.SameBut D
  content := ContentSameBut D
  fragment := D.fragment
  head := D.head
  cause_refl := hd.cause
  childTuple := childTuple_sameBut
  noBody := .other rfl
  contentOf := .node
  noContent := .other rfl
  noFragment := hd.noFragment
  lineBreak := .lineBreak
  multi := .multi
  textBlock := .textBlock
  construct := .construct
  markup := .markup

theorem readsTexts : hd.comparison.ReadsTexts d.text where
  text := hd.text
  fragment := hd.fragment
  tagName := hd.tagName

theorem nested_eq (s : Shape) : hd.comparison.nested s = Node.SameBut D := by cases s <;> rfl

end RawDifferences.ReadAs

/-! ## Trees -/

/-- **Raw data that are the same but for differences are read as the same but for corresponding ones.** At every path,
adapting them gives nodes that are the same but for the differences that the reader makes of those of the data; or both
fail, at one path and for corresponding causes. -/
theorem Value.RawSameBut.adapt {v w : Value} (h : v.RawSameBut d w) (hd : d.ReadAs lenient K D) (p : Path) :
    (v.adapt lenient p).Related (Error.Corresponds K) (Node.SameBut D) (w.adapt lenient p) := by
  -- What is nested in the first tree is smaller, and stands at the same index of the second one.
  induction v using Value.items_induction generalizing w p with
  | step v ih =>
    cases h with
    | notList hv hw =>
      rw [adapt_of_not_list lenient p hv, adapt_of_not_list lenient p hw]
      exact .fail (.atPath p v w (hd.cause _))
    | @unrecognized _ _ xs ys hv hw hunknown hother =>
      have hunknown' : ∀ s, Shape.read ys ≠ .known s := by
        rcases hother with htags | hother
        · rw [htags.read hd.tag]
          exact hunknown.read_ne_known
        · exact hother.read_ne_known
      rw [adapt_of_items lenient p hv, adapt_of_items lenient p hw]
      unfold Logged.Related
      rw [assemble_unknown hunknown.read_ne_known, assemble_unknown hunknown']
      exact .ok (.unrecognized v w)
    | @known _ _ xs ys s hv hw hs htags hrequired hattributes hnodes =>
      rw [adapt_of_items lenient p hv, adapt_of_items lenient p hw, assemble_known hs,
        assemble_known ((htags.read hd.tag).trans hs)]
      refine adaptShape_related hd.readsTexts s rfl hrequired (fun hs => hd.attributes p (hattributes hs))
        fun n i hn hrole hcovers => ?_
      have hitem := hnodes n i hn hrole hcovers
      rw [adaptFields_getElem?, adaptFields_getElem?, hd.nested_eq]
      generalize hx : xs[i]? = x?, ys[i]? = y? at hitem
      cases hitem with
      | nested hadmits hadmits' hxy =>
        have hnode := ih xs hv _ (List.mem_of_getElem? hx) hxy (p.child i)
        exact .nested _ _ rfl rfl hadmits hadmits' hnode
      | passedOver hx' hy' =>
        have passed : ∀ {z? : Option Value} {q : Path}, (∀ z, z? = some z → n.admits z = false) →
            ∀ f, z?.map (fun z => Field.mk z (z.adapt lenient q)) = some f → n.admits f.raw = false := by
          intro z? q hz f hf
          obtain ⟨z, hz', rfl⟩ := Option.map_eq_some_iff.1 hf
          exact hz z hz'
        exact .passedOver (passed hx') (passed hy')

section Requests

variable {o : Options} {raw : Value} (level : Int) (isRoot : Bool) (m : Memo)

theorem Value.projectRaw_of_ok {n : Node} (h : (raw.adapt o.lenientAttributes .root).result = .ok n) :
    ((raw.projectRaw o level isRoot).run m).result = (((Value.node n).project o level isRoot).run m).result := by
  rw [projectRaw, Run.run_bind]
  simp only [Run.ofLogged, h]

theorem Value.projectRaw_of_error {e : Error} (h : (raw.adapt o.lenientAttributes .root).result = .error e) :
    ((raw.projectRaw o level isRoot).run m).result = .error e := by
  rw [projectRaw, Run.run_bind]
  simp only [Run.ofLogged, h]

/-- **Requests on such data give the same text**, if no projection sees the differences of the nodes; or both fail, with
corresponding errors. -/
theorem Value.RawSameBut.projectRaw {v w : Value} (h : v.RawSameBut d w) (hd : d.ReadAs o.lenientAttributes K D)
    (hD : D.UnseenBy Run.Congruence.alike o o) :
    RelatedResults (Error.Corresponds K) Eq ((v.projectRaw o level isRoot).run m).result
      ((w.projectRaw o level isRoot).run m).result := by
  have hadapt := h.adapt hd .root
  unfold Logged.Related at hadapt
  generalize hv : (v.adapt o.lenientAttributes .root).result = r, hw : (w.adapt o.lenientAttributes .root).result = s
    at hadapt
  cases hadapt with
  | error he =>
    rw [projectRaw_of_error level isRoot m hv, projectRaw_of_error level isRoot m hw]
    exact .error he
  | ok hnodes =>
    have hproject := (Value.SameBut.project (.node hnodes) hD level isRoot m).result
    rw [projectRaw_of_ok level isRoot m hv, projectRaw_of_ok level isRoot m hw]
    rcases hproject.cases with ⟨text, ht, hu⟩ | ⟨e, e', ht, hu, he⟩
    · rw [ht, hu]
      exact .ok rfl
    · rw [ht, hu]
      exact .error (.alike he)

end Requests

end TemplateProjection
