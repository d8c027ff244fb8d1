import Mathlib.Data.List.Forall2
import TemplateProjection.Proofs.Raw.Image
import TemplateProjection.Proofs.Raw.Rewritten

/-!
# Raw data that differ in part

A reader of raw data looks at the tags of a list, at the field that its shape requires, at the nodes that are nested in
it and at its attributes. `Value.RawSameBut` compares two trees of raw data by what a reader looks at, and by nothing
else; `RawDifferences` says which tags, texts and attributes may stand for one another there. So these are never
compared:

* the escape flag of an output and the engine of an embedded block, the attributes of a tag, the items behind the last
  one that a shape knows, and what stands behind the tag of a line break;
* what is passed over: entries of a container or a text block, and a content, that are no lists;
* the first item of an attribute, what stands between the tag and the code of a dynamic value, and all that stands
  behind the name and the value of an attribute or behind the text of a value;
* what a list holds whose tags name no shape.

Raw data that correspond item by item are the same but for differences if corresponding items may stand for one another
(`RawDifferences.Allow.sameBut`); in particular, every tree is the same as itself (`Value.RawSameBut.refl`).
-/

namespace TemplateProjection

/-! ## Differences -/

/-- What may differ between two trees of raw data where a reader looks. -/
structure RawDifferences where
  /-- First items of lists, and second ones where they are tags. -/
  tag : Value → Value → Prop := Eq
  /-- The texts that shapes require. -/
  text : Shape → Value → Value → Prop := fun _ => Eq
  /-- Names of attributes. -/
  name : Value → Value → Prop := Eq
  /-- The texts in the values of attributes. -/
  valueText : Value → Value → Prop := Eq
  /-- The attributes of a list, taken together. -/
  attributes : List Value → List Value → Prop := fun _ _ => True

/-- The tags of two lists may stand for one another: the first items, and the second ones if the first names a family of
shapes. -/
structure SameTags (d : RawDifferences) (xs ys : List Value) : Prop where
  first : Option.Rel d.tag xs[0]? ys[0]?
  second : Shape.symbolAt xs 0 = some "slim" ∨ Shape.symbolAt xs 0 = some "html" → Option.Rel d.tag xs[1]? ys[1]?

/-- The values of two attributes are the same but for the differences: their first items and their texts. -/
inductive ValueSameBut (d : RawDifferences) : Value → Value → Prop
  | notList {v w : Value} : v.items? = none → w.items? = none → ValueSameBut d v w
  | empty {v w : Value} : v.items? = some [] → w.items? = some [] → ValueSameBut d v w
  | value {v w first first' : Value} {rest rest' : List Value} : v.items? = some (first :: rest) →
      w.items? = some (first' :: rest') → d.tag first first' →
      Option.Rel d.valueText (first :: rest)[(ValueKind.ofFirst first).textIndex]?
        (first' :: rest')[(ValueKind.ofFirst first).textIndex]? → ValueSameBut d v w

/-- Two entries of attribute lists are the same but for the differences: their tags, their names and their values. -/
inductive AttributeSameBut (d : RawDifferences) : Value → Value → Prop
  | other {v w : Value} : v.attributeItems? = none → w.attributeItems? = none → AttributeSameBut d v w
  | tagged {v w : Value} {xs ys : List Value} : v.items? = some xs → w.items? = some ys →
      Option.Rel d.tag xs[1]? ys[1]? → Option.Rel d.name xs[2]? ys[2]? →
      Option.Rel (ValueSameBut d) xs[3]? ys[3]? → AttributeSameBut d v w

/-- Entry by entry, and taken together, the attributes are the same but for the differences. -/
structure AttributesSameBut (d : RawDifferences) (xs ys : List Value) : Prop where
  entries : List.Forall₂ (AttributeSameBut d) xs ys
  together : d.attributes xs ys

mutual

/-- Raw data at one place are the same for a reader but for the differences. -/
inductive Value.RawSameBut (d : RawDifferences) : Value → Value → Prop
  | notList {v w : Value} : v.items? = none → w.items? = none → Value.RawSameBut d v w
  /-- The first is left unrecognized, and the other one has the same tags or is left unrecognized as well. -/
  | unrecognized {v w : Value} {xs ys : List Value} : v.items? = some xs → w.items? = some ys → NoShape xs →
      SameTags d xs ys ∨ NoShape ys → Value.RawSameBut d v w
  | known {v w : Value} {xs ys : List Value} {s : Shape} : v.items? = some xs → w.items? = some ys →
      Shape.read xs = .known s → SameTags d xs ys →
      (∀ r, s.requirement? = some r →
        Option.Rel (fun x y => r.isText = true → d.text s x y) xs[r.index]? ys[r.index]?) →
      (s = .attrs → AttributesSameBut d (xs.drop 2) (ys.drop 2)) →
      (∀ (n : Nesting) (i : Nat), s.nesting? = some n → n.role = .node → n.covers i = true →
        ItemSameBut d n.admits xs[i]? ys[i]?) → Value.RawSameBut d v w

/-- Items that may be nested nodes: both are, and are the same but for the differences, or neither is. -/
inductive ItemSameBut (d : RawDifferences) : (admits : Value → Bool) → Option Value → Option Value → Prop
  | nested {admits : Value → Bool} {x y : Value} : admits x = true → admits y = true → x.RawSameBut d y →
      ItemSameBut d admits (some x) (some y)
  | passedOver {admits : Value → Bool} {x? y? : Option Value} : (∀ x, x? = some x → admits x = false) →
      (∀ y, y? = some y → admits y = false) → ItemSameBut d admits x? y?

end

variable {d : RawDifferences}

/-! ## Tags -/

theorem symbolAt_of_rel (htag : ∀ {x y : Value}, d.tag x y → y.symbol? = x.symbol?) {xs ys : List Value} {i : Nat}
    (h : Option.Rel d.tag xs[i]? ys[i]?) : Shape.symbolAt ys i = Shape.symbolAt xs i := by
  unfold Shape.symbolAt
  rcases rel_cases h with ⟨hx, hy⟩ | ⟨x, y, hx, hy, hxy⟩
  · rw [hx, hy]
  · rw [hx, hy]
    exact htag hxy

/-- Lists with the same tags are read as the same shape, or as none. -/
theorem SameTags.read {xs ys : List Value} (h : SameTags d xs ys)
    (htag : ∀ {x y : Value}, d.tag x y → y.symbol? = x.symbol?) : Shape.read ys = Shape.read xs := by
  have hfirst := symbolAt_of_rel htag h.first
  unfold Shape.read
  rw [hfirst]
  by_cases hfamily : Shape.symbolAt xs 0 = some "slim" ∨ Shape.symbolAt xs 0 = some "html"
  · rw [symbolAt_of_rel htag (h.second hfamily)]
  · -- The second item is no tag.
    obtain ⟨hslim, hhtml⟩ := not_or.1 hfamily
    simp only [if_neg hslim, if_neg hhtml]

/-! ## Lists of one shape -/

/-- Lists of a shape that nests one item only are the same if their tags, what the shape requires and that item are. -/
theorem Value.RawSameBut.single {v w : Value} {xs ys : List Value} {s : Shape} {n : Nesting} (hv : v.items? = some xs)
    (hw : w.items? = some ys) (hs : Shape.read xs = .known s) (hn : s.nesting? = some n) (hrole : n.role = .node)
    (hopen : n.isOpen = false) (htags : SameTags d xs ys)
    (hrequired : ∀ r, s.requirement? = some r →
      Option.Rel (fun x y => r.isText = true → d.text s x y) xs[r.index]? ys[r.index]?)
    (hitem : ItemSameBut d n.admits xs[n.start]? ys[n.start]?) : v.RawSameBut d w := by
  refine .known hv hw hs htags hrequired ?_ ?_
  · rintro rfl
    obtain rfl := Option.some.inj hn
    cases hrole
  · intro n' i hn' _ hcovers
    obtain rfl := Option.some.inj (hn.symm.trans hn')
    have hi : i = n.start := by
      simp only [Nesting.covers, hopen, Bool.false_or, Bool.and_eq_true, decide_eq_true_eq] at hcovers
      exact hcovers.2
    exact hi ▸ hitem

/-- Lists of siblings are the same if their tags and the items behind these are. -/
theorem Value.RawSameBut.siblings {v w : Value} {xs ys : List Value} {s : Shape} {start : Nat} (hv : v.items? = some xs)
    (hw : w.items? = some ys) (hs : Shape.read xs = .known s) (hn : s.nesting? = some ⟨.node, start, true, isList⟩)
    (htags : SameTags d xs ys) (hitems : ∀ i, ItemSameBut d isList xs[i + start]? ys[i + start]?) :
    v.RawSameBut d w := by
  refine .known hv hw hs htags ?_ ?_ ?_
  · intro r hr
    cases s <;> cases hn <;> cases hr
  · rintro rfl
    cases hn
  · intro n i hn' _ hcovers
    obtain rfl := Option.some.inj (hn.symm.trans hn')
    obtain ⟨k, rfl⟩ : ∃ k, i = k + start := by
      simp only [Nesting.covers, Bool.true_or, Bool.and_true, decide_eq_true_eq] at hcovers
      exact ⟨i - start, by omega⟩
    exact hitems k

/-! ## Data that correspond item by item -/

theorem rel_getElem? {R S : Value → Value → Prop} {xs ys : List Value} (h : List.Forall₂ R xs ys)
    (hS : ∀ x y, R x y → S x y) (i : Nat) : Option.Rel S xs[i]? ys[i]? := by
  induction h generalizing i with
  | nil => exact .none
  | cons h _ ih =>
    cases i with
    | zero => exact .some (hS _ _ h)
    | succ i => exact ih i

/-- Items are compared as nested nodes if both may be nested nodes or neither. -/
theorem ItemSameBut.of_rel {admits : Value → Bool} {x? y? : Option Value}
    (h : Option.Rel (fun x y => admits y = admits x ∧ x.RawSameBut d y) x? y?) : ItemSameBut d admits x? y? := by
  cases h with
  | none => exact .passedOver nofun nofun
  | @some x y h =>
    obtain ⟨hadmits, h⟩ := h
    cases hx : admits x with
    | true => exact .nested hx (hadmits.trans hx) h
    | false =>
      have passed : ∀ {u v : Value}, admits u = false → some u = some v → admits v = false := by
        intro u v hu huv
        exact Option.some.inj huv ▸ hu
      exact .passedOver (fun _ => passed hx) fun _ => passed (hadmits.trans hx)

/-- The relation goes from lists to their items, and what it relates may stand for one another where a reader looks. -/
structure RawDifferences.Allow (d : RawDifferences) (R : Value → Value → Prop) : Prop where
  items : ∀ {v w : Value}, R v w → Option.Rel (List.Forall₂ R) v.items? w.items?
  isNull : ∀ {v w : Value}, R v w → w.isNull = v.isNull
  tag : ∀ {v w : Value}, R v w → d.tag v w
  text : ∀ {v w : Value} (s : Shape), R v w → d.text s v w
  name : ∀ {v w : Value}, R v w → d.name v w
  valueText : ∀ {v w : Value}, R v w → d.valueText v w
  attributes : ∀ {xs ys : List Value}, List.Forall₂ R xs ys → d.attributes xs ys

namespace RawDifferences.Allow

variable {R : Value → Value → Prop} {v w : Value} {xs ys : List Value} (hd : d.Allow R)
include hd

theorem isList (h : R v w) : w.isList = v.isList := by
  rcases rel_cases (hd.items h) with ⟨hv, hw⟩ | ⟨xs, ys, hv, hw, -⟩
  · rw [Value.isList, Value.isList, hv, hw]
  · rw [Value.isList_of_items hv, Value.isList_of_items hw]

theorem valueSameBut (h : R v w) : ValueSameBut d v w := by
  rcases rel_cases (hd.items h) with ⟨hv, hw⟩ | ⟨xs, ys, hv, hw, hitems⟩
  · exact .notList hv hw
  · cases hitems with
    | nil => exact .empty hv hw
    | cons hfirst hrest =>
      exact .value hv hw (hd.tag hfirst) (rel_getElem? (.cons hfirst hrest) (fun _ _ => hd.valueText) _)

theorem attributeSameBut (h : R v w) : AttributeSameBut d v w := by
  rcases rel_cases (hd.items h) with ⟨hv, hw⟩ | ⟨xs, ys, hv, hw, hitems⟩
  · have hother : ∀ {u : Value}, u.items? = none → u.attributeItems? = none := by
      intro u hu
      rw [Value.attributeItems?, hu, Option.filter_none]
    exact .other (hother hv) (hother hw)
  · exact .tagged hv hw (rel_getElem? hitems (fun _ _ => hd.tag) 1) (rel_getElem? hitems (fun _ _ => hd.name) 2)
      (rel_getElem? hitems (fun _ _ => hd.valueSameBut) 3)

theorem attributesSameBut (h : List.Forall₂ R xs ys) : AttributesSameBut d xs ys :=
  ⟨h.imp fun _ _ => hd.attributeSameBut, hd.attributes h⟩

theorem sameTags (h : List.Forall₂ R xs ys) : SameTags d xs ys :=
  ⟨rel_getElem? h (fun _ _ => hd.tag) 0, fun _ => rel_getElem? h (fun _ _ => hd.tag) 1⟩

/-- Data that correspond item by item are the same but for the differences. -/
theorem sameBut (h : R v w) : v.RawSameBut d w := by
  induction v using Value.items_induction generalizing w with
  | step v ih =>
    rcases rel_cases (hd.items h) with ⟨hv, hw⟩ | ⟨xs, ys, hv, hw, hitems⟩
    · exact .notList hv hw
    rcases Shape.read_cases xs with ⟨s, hs⟩ | hunknown
    · refine .known hv hw hs (hd.sameTags hitems) (fun r _ => rel_getElem? hitems (fun _ _ h _ => hd.text s h) r.index)
        ?_ ?_
      · intro _
        exact hd.attributesSameBut (List.forall₂_drop 2 hitems)
      · intro n i hn _ _
        have hpairs := (List.forall₂_and_left xs ys).2 ⟨ih xs hv, hitems⟩
        refine .of_rel (rel_getElem? hpairs ?_ i)
        rintro x y ⟨hx, hxy⟩
        exact ⟨Shape.admits_eq hn (hd.isList hxy) (hd.isNull hxy), hx hxy⟩
    · exact .unrecognized hv hw (.of_read hunknown) (.inl (hd.sameTags hitems))

end RawDifferences.Allow

/-- Data are the same as themselves if what is equal may stand for one another. -/
theorem Value.RawSameBut.refl (htag : ∀ v, d.tag v v) (htext : ∀ s v, d.text s v v) (hname : ∀ v, d.name v v)
    (hvalueText : ∀ v, d.valueText v v) (hattributes : ∀ xs, d.attributes xs xs) (v : Value) : v.RawSameBut d v := by
  have hallow : d.Allow Eq := {
    items := by
      rintro v _ rfl
      cases v.items? with
      | none => exact .none
      | some xs => exact .some (List.forall₂_same.2 fun _ _ => rfl)
    isNull := by
      rintro v _ rfl
      rfl
    tag := fun h => h ▸ htag _
    text := fun s h => h ▸ htext s _
    name := fun h => h ▸ hname _
    valueText := fun h => h ▸ hvalueText _
    attributes := by
      intro xs ys h
      rw [List.forall₂_eq_eq_eq] at h
      exact h ▸ hattributes xs }
  exact hallow.sameBut rfl

end TemplateProjection
