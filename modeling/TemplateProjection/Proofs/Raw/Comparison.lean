import TemplateProjection.Proofs.Logged.Outcome
import TemplateProjection.Proofs.Logged.Related
import TemplateProjection.Proofs.Raw.Rewritten

/-!
# Comparing what readers make of lists

Two readers are compared list by list, or one reader on two lists of one shape. A `Comparison` says which nodes
correspond, and which of the parts that nodes are made of; what is made of corresponding parts corresponds. So what two
lists are read to corresponds, or both readings fail at one path and for corresponding causes, if what the shape
requires corresponds, and the attributes, and what is nested (`adaptShape_related`).

The second list may be the first one, rewritten item by item (`adaptShape_rewritten`). Readers that make equal nodes are
the case of equality (`Comparison.equal`).
-/

namespace TemplateProjection

variable {K : Cause → Cause → Prop}

/-! ## Errors -/

/-- The errors differ in nothing but the values that they blame, or they are failures at one path for corresponding
causes. -/
inductive Error.Corresponds (K : Cause → Cause → Prop) : Error → Error → Prop
  | alike {e e' : Error} : e.withoutNode = e'.withoutNode → Error.Corresponds K e e'
  | atPath {cause cause' : Cause} (path : Path) (node node' : Value) : K cause cause' →
      Error.Corresponds K (.atPath path cause node) (.atPath path cause' node')

theorem Error.Corresponds.withoutNode_eq {e e' : Error} (h : e.Corresponds Eq e') : e.withoutNode = e'.withoutNode := by
  cases h with
  | alike h => exact h
  | atPath path node node' h =>
    obtain rfl := h
    rfl

/-- A result is alike to another one after a change if it is related to it by the change. -/
theorem alikeResults_map_iff {α β : Type} {f : α → β} {r : Except Error α} {s : Except Error β} :
    AlikeResults (r.map f) s ↔ RelatedResults (Error.Corresponds Eq) (fun a b => f a = b) r s := by
  cases r with
  | ok a =>
    cases s with
    | ok b => exact ⟨fun h => .ok (Except.ok.inj h), fun | .ok h => congrArg _ (congrArg Except.ok h)⟩
    | error e' => exact ⟨fun h => (by cases h), nofun⟩
  | error e =>
    cases s with
    | ok b => exact ⟨fun h => (by cases h), nofun⟩
    | error e' => exact ⟨fun h => .error (.alike (Except.error.inj h)), fun | .error h => .error h.withoutNode_eq⟩

theorem alikeResults_iff {α : Type} {r s : Except Error α} :
    AlikeResults r s ↔ RelatedResults (Error.Corresponds Eq) Eq r s := by
  have h := alikeResults_map_iff (f := id) (r := r) (s := s)
  rwa [Except.map_id] at h

theorem Logged.alike_map_iff {α β : Type} {f : α → β} {x : Logged α} {y : Logged β} :
    (f <$> x).Alike y ↔ x.Related (Error.Corresponds Eq) (fun a b => f a = b) y := by
  have hmap : (f <$> x).result = x.result.map f := by
    rw [map_eq_pure_bind]
    cases h : x.result with
    | ok a => rw [bind_ok h]; rfl
    | error e => rw [bind_error h]; rfl
  unfold Alike
  rw [hmap]
  exact alikeResults_map_iff

/-! ## Texts -/

section Texts

variable {v w : Visit} {node what : String} {i : Nat}

/-- Both values are texts, or neither is, and the failures that name their types correspond. -/
inductive SameText (K : Cause → Cause → Prop) (cause cause' : String → Cause) : Value → Value → Prop
  | text (s t : String) : SameText K cause cause' (.str s) (.str t)
  | other {x y : Value} : x.word? = none → y.word? = none → K (cause x.typeName) (cause' y.typeName) →
      SameText K cause cause' x y

theorem SameText.refl (hK : ∀ c, K c c) (cause : String → Cause) (x : Value) : SameText K cause cause x x := by
  cases x with
  | str s => exact .text s s
  | _ => exact .other rfl rfl (hK _)

theorem Visit.fail_related {α β : Type} {R : α → β → Prop} (hpath : w.path = v.path) {c c' : Cause} (h : K c c') :
    RelatedResults (Error.Corresponds K) R (v.fail c) (w.fail c') := by
  unfold fail
  rw [hpath]
  exact .error (.atPath _ _ _ h)

theorem Visit.failAt_related {α β : Type} {R : α → β → Prop} (hpath : w.path = v.path) (i : Nat) {c c' : Cause}
    (h : K c c') : RelatedResults (Error.Corresponds K) R (v.failAt i c) (w.failAt i c') := by
  unfold failAt
  rw [hpath]
  exact .error (.atPath _ _ _ h)

theorem Visit.text_of_str {s : String} (h : v.items[i]? = some (.str s)) : v.text node what i = .ok s := by
  unfold text field
  rw [h]
  rfl

theorem Visit.text_of_not_text {x : Value} (h : v.items[i]? = some x) (hx : x.word? = none) :
    v.text node what i = v.failAt i (.notText what x.typeName) := by
  unfold text field
  rw [h]
  cases x with
  | str => cases hx
  | _ => rfl

theorem Visit.text_of_missing (h : v.items[i]? = none) : v.text node what i = v.fail (.missingField node what i) := by
  unfold text field
  rw [h]
  rfl

/-- Texts that may stand for one another are read, or both readings fail. -/
theorem Visit.text_related {R : Value → Value → Prop} (hpath : w.path = v.path) (hK : ∀ c, K c c)
    (hR : ∀ {x y : Value}, R x y → SameText K (.notText what) (.notText what) x y)
    (h : Option.Rel R v.items[i]? w.items[i]?) :
    RelatedResults (Error.Corresponds K) (fun a b => R (.str a) (.str b)) (v.text node what i)
      (w.text node what i) := by
  rcases rel_cases h with ⟨hx, hy⟩ | ⟨x, y, hx, hy, hxy⟩
  · rw [text_of_missing hx, text_of_missing hy]
    exact fail_related hpath (hK _)
  · cases hR hxy with
    | text s t =>
      rw [text_of_str hx, text_of_str hy]
      exact .ok hxy
    | other hx' hy' hcause =>
      rw [text_of_not_text hx hx', text_of_not_text hy hy']
      exact failAt_related hpath i hcause

end Texts

section Alike

variable {v w : Visit} (hpath : w.path = v.path)
include hpath

theorem Visit.fail_alike {α : Type} (cause : Cause) :
    AlikeResults (v.fail cause : Except Error α) (w.fail cause) := alikeResults_iff.2 (fail_related hpath rfl)

theorem Visit.failAt_alike {α : Type} (i : Nat) (cause : Cause) :
    AlikeResults (v.failAt i cause : Except Error α) (w.failAt i cause) :=
  alikeResults_iff.2 (failAt_related hpath i rfl)

/-- Fields are looked up by their index, and named by the path of the list. -/
theorem Visit.text_alike {i : Nat} (hitem : w.items[i]? = v.items[i]?) (node what : String) :
    AlikeResults (v.text node what i) (w.text node what i) := by
  have hequal : Option.Rel Eq v.items[i]? w.items[i]? := by
    rw [hitem]
    cases v.items[i]? with
    | none => exact .none
    | some x => exact .some rfl
  have htext : RelatedResults (Error.Corresponds Eq) (fun a b => Value.str a = .str b) (v.text node what i)
      (w.text node what i) :=
    text_related hpath (fun _ => rfl) (fun h => h ▸ .refl (fun _ => rfl) _ _) hequal
  exact alikeResults_iff.2 (htext.mono (fun _ _ h => h) fun _ _ h => Value.str.inj h)

end Alike

/-! ## Comparisons -/

/-- When the outcomes of two readers correspond. -/
structure Comparison where
  /-- The causes of failures. -/
  cause : Cause → Cause → Prop
  node : Node → Node → Prop
  /-- The nodes that are contents of markup elements. -/
  contentNode : Node → Node → Prop
  /-- The children of containers, and bodies. -/
  children : Value → Value → Prop
  /-- The contents of markup elements. -/
  content : Value → Value → Prop
  fragment : Value → Value → Prop
  head : Value → Value → Prop
  cause_refl : ∀ c, cause c c
  childTuple : ∀ {ms ns : List Node}, List.Forall₂ node ms ns → children (childTuple ms) (childTuple ns)
  noBody : children .null .null
  contentOf : ∀ {m n : Node}, contentNode m n → content (.node m) (.node n)
  noContent : content .null .null
  noFragment : fragment .null .null
  lineBreak : node .lineBreak .lineBreak
  multi : ∀ {a b : Value}, children a b → node (.multi a) (.multi b)
  textBlock : ∀ {a b : Value}, children a b → node (.textBlock a) (.textBlock b)
  construct : ∀ {kind : ConstructKind} {f g a b : Value}, fragment f g → children a b →
    node (.construct (.known kind) f a) (.construct (.known kind) g b)
  markup : ∀ {h i a b : Value}, head h i → content a b → node (.markup h a) (.markup i b)

namespace Comparison

/-- The outcomes correspond, the values by the relation. -/
abbrev Related (c : Comparison) {α β : Type} (R : α → β → Prop) (x : Logged α) (y : Logged β) : Prop :=
  x.Related (Error.Corresponds c.cause) R y

/-- How nested nodes correspond in a list of the shape: the node in a tag is a content. -/
def nested (c : Comparison) : Shape → Node → Node → Prop
  | .tag => c.contentNode
  | _ => c.node

/-- Texts that may stand for one another in a shape are read to corresponding parts of nodes, or fail as such. -/
structure ReadsTexts (c : Comparison) (R : Shape → Value → Value → Prop) : Prop where
  text : ∀ {s : Shape} {x y : Value} (what : String), R s x y → SameText c.cause (.notText what) (.notText what) x y
  fragment : ∀ {s : Shape} {a b : String}, s ≠ .tag → R s (.str a) (.str b) → c.fragment (.str a) (.str b)
  tagName : ∀ {a b : String}, R .tag (.str a) (.str b) → c.head (.tagHead (.str a)) (.tagHead (.str b))

/-- Equal texts are read alike. -/
theorem readsTexts_eq {c : Comparison} (hfragment : ∀ v, c.fragment v v) (hhead : ∀ v, c.head v v) :
    c.ReadsTexts fun _ => Eq where
  text _ h := h ▸ .refl c.cause_refl _ _
  fragment _ h := h ▸ hfragment _
  tagName h := by
    obtain rfl := Value.str.inj h
    exact hhead _

/-- Equal nodes, made of equal parts. -/
def equal : Comparison where
  cause := Eq
  node := Eq
  contentNode := Eq
  children := Eq
  content := Eq
  fragment := Eq
  head := Eq
  cause_refl _ := rfl
  childTuple h := by
    rw [List.forall₂_eq_eq_eq] at h
    rw [h]
  noBody := rfl
  contentOf := congrArg Value.node
  noContent := rfl
  noFragment := rfl
  lineBreak := rfl
  multi := congrArg Node.multi
  textBlock := congrArg Node.textBlock
  construct hfragment h := hfragment ▸ h ▸ rfl
  markup hhead h := hhead ▸ h ▸ rfl

end Comparison

/-! ## Nested nodes -/

/-- The fields are both visited, with related outcomes, or neither is. -/
inductive FieldsRelated (K : Cause → Cause → Prop) (N : Node → Node → Prop) (admits : Value → Bool)
    (f? g? : Option Field) : Prop
  | nested (f g : Field) : f? = some f → g? = some g → admits f.raw = true → admits g.raw = true →
      f.node.Related (Error.Corresponds K) N g.node → FieldsRelated K N admits f? g?
  | passedOver : (∀ f, f? = some f → admits f.raw = false) → (∀ g, g? = some g → admits g.raw = false) →
      FieldsRelated K N admits f? g?

section Fields

variable {N : Node → Node → Prop} {fs gs : List Field} {i : Nat}

/-- Fields that may both be visited, or neither, are related if their outcomes are. -/
theorem FieldsRelated.of_rel {admits : Value → Bool} {f? g? : Option Field}
    (h : Option.Rel (fun f g => admits g.raw = admits f.raw ∧
      (admits f.raw = true → f.node.Related (Error.Corresponds K) N g.node)) f? g?) :
    FieldsRelated K N admits f? g? := by
  rcases rel_cases h with ⟨rfl, rfl⟩ | ⟨f, g, rfl, rfl, hadmits, hnode⟩
  · exact .passedOver nofun nofun
  · cases hf : admits f.raw with
    | true => exact .nested f g rfl rfl hf (hadmits.trans hf) (hnode hf)
    | false =>
      have passed : ∀ {f g : Field}, admits f.raw = false → some f = some g → admits g.raw = false := by
        intro f g hf hfg
        exact Option.some.inj hfg ▸ hf
      exact .passedOver (fun _ => passed hf) fun _ => passed (hadmits.trans hf)

theorem siblings_related : ∀ {fs gs : List Field}, (∀ i : Nat, FieldsRelated K N Value.isList fs[i]? gs[i]?) →
    (siblings fs).Related (Error.Corresponds K) (List.Forall₂ N) (siblings gs)
  | [], [], _ => .pure .nil
  | [], g :: gs, h => by
    have hrest : (siblings []).Related (Error.Corresponds K) (List.Forall₂ N) (siblings gs) :=
      siblings_related fun i => h (i + 1)
    obtain ⟨f, -, hf, -⟩ | ⟨-, hg⟩ := h 0
    · cases hf
    · rw [siblings_cons_other (ne_true_of_eq_false (hg g rfl))]
      exact hrest
  | f :: fs, [], h => by
    have hrest : (siblings fs).Related (Error.Corresponds K) (List.Forall₂ N) (siblings []) :=
      siblings_related fun i => h (i + 1)
    obtain ⟨-, g, -, hg, -⟩ | ⟨hf, -⟩ := h 0
    · cases hg
    · rw [siblings_cons_other (ne_true_of_eq_false (hf f rfl))]
      exact hrest
  | f :: fs, g :: gs, h => by
    have hrest : (siblings fs).Related (Error.Corresponds K) (List.Forall₂ N) (siblings gs) :=
      siblings_related fun i => h (i + 1)
    obtain ⟨_, _, ⟨⟩, ⟨⟩, hf, hg, hnode⟩ | ⟨hf, hg⟩ := h 0
    · rw [siblings_cons_list hf, siblings_cons_list hg]
      exact hnode.bind fun m n hmn => hrest.bind fun ms ns hrest => .pure (.cons hmn hrest)
    · rw [siblings_cons_other (ne_true_of_eq_false (hf f rfl)), siblings_cons_other (ne_true_of_eq_false (hg g rfl))]
      exact hrest

theorem siblings_drop_related {start : Nat} (h : ∀ i ≥ start, FieldsRelated K N Value.isList fs[i]? gs[i]?) :
    (siblings (fs.drop start)).Related (Error.Corresponds K) (List.Forall₂ N) (siblings (gs.drop start)) := by
  refine siblings_related fun i => ?_
  rw [List.getElem?_drop, List.getElem?_drop]
  exact h (start + i) (Nat.le_add_right _ _)

theorem body_visited {f : Field} (hf : fs[i]? = some f) (h : (!f.raw.isNull) = true) :
    body fs i = (do
      let n ← f.node
      pure (childTuple [n])) := by
  have hnull : f.raw.isNull = false := by simpa using h
  unfold body
  rw [hf]
  simp only [hnull]
  rfl

theorem body_passedOver (h : ∀ f, fs[i]? = some f → (!f.raw.isNull) = false) : body fs i = pure .null := by
  unfold body
  cases hf : fs[i]? with
  | none => rfl
  | some f => exact if_pos (by simpa using h f hf)

theorem content_visited {f : Field} (hf : fs[i]? = some f) (h : f.raw.isList = true) :
    content fs i = (do
      let n ← f.node
      pure (.node n)) := by
  unfold content
  rw [hf]
  exact if_pos h

theorem content_passedOver (h : ∀ f, fs[i]? = some f → f.raw.isList = false) : content fs i = pure .null := by
  unfold content
  cases hf : fs[i]? with
  | none => rfl
  | some f => exact if_neg (ne_true_of_eq_false (h f hf))

variable {c : Comparison}

theorem body_related (h : FieldsRelated c.cause c.node (fun v => !v.isNull) fs[i]? gs[i]?) :
    c.Related c.children (body fs i) (body gs i) := by
  obtain ⟨f, g, hf, hg, hf', hg', hnode⟩ | ⟨hf, hg⟩ := h
  · rw [body_visited hf hf', body_visited hg hg']
    exact hnode.bind fun m n hmn => .pure (c.childTuple (.cons hmn .nil))
  · rw [body_passedOver hf, body_passedOver hg]
    exact .pure c.noBody

theorem content_related (h : FieldsRelated c.cause c.contentNode Value.isList fs[i]? gs[i]?) :
    c.Related c.content (content fs i) (content gs i) := by
  obtain ⟨f, g, hf, hg, hf', hg', hnode⟩ | ⟨hf, hg⟩ := h
  · rw [content_visited hf hf', content_visited hg hg']
    exact hnode.bind fun m n hmn => .pure (c.contentOf hmn)
  · rw [content_passedOver hf, content_passedOver hg]
    exact .pure c.noContent

end Fields

/-! ## Shapes -/

section Shapes

variable {c : Comparison} {R : Shape → Value → Value → Prop} {v w : Visit} {fs gs : List Field}
  (htexts : c.ReadsTexts R)
include htexts

theorem adaptStatement_related {shape : Shape} (hshape : shape ≠ .tag) (kind : ConstructKind) (what : String)
    {code : Nat} (hpath : w.path = v.path) (hcode : Option.Rel (R shape) v.items[code]? w.items[code]?)
    (hbody : FieldsRelated c.cause c.node (fun v => !v.isNull) fs[code + 1]? gs[code + 1]?) :
    c.Related c.node (adaptStatement v fs shape kind what code) (adaptStatement w gs shape kind what code) := by
  refine Logged.Related.bind (Visit.text_related hpath c.cause_refl (htexts.text what) hcode) fun a b hab => ?_
  exact (body_related hbody).bind fun m n hmn => .pure (c.construct (htexts.fragment hshape hab) hmn)

/-- Lists of one shape are read to related outcomes if what the shape requires is, and the attributes, and what is
nested. -/
theorem adaptShape_related {lenient lenient' : Bool} (s : Shape) (hpath : w.path = v.path)
    (hrequired : ∀ r, s.requirement? = some r →
      Option.Rel (fun x y => r.isText = true → R s x y) v.items[r.index]? w.items[r.index]?)
    (hattributes : s = .attrs →
      c.Related (fun as bs => c.head (.attrsHead (.tuple as) .null) (.attrsHead (.tuple bs) .null))
        (adaptAttributes lenient (v.items.drop 2) v.path 2) (adaptAttributes lenient' (w.items.drop 2) v.path 2))
    (hnodes : ∀ (n : Nesting) (i : Nat), s.nesting? = some n → n.role = .node → n.covers i = true →
      FieldsRelated c.cause (c.nested s) n.admits fs[i]? gs[i]?) :
    c.Related c.node (adaptShape lenient v fs s) (adaptShape lenient' w gs s) := by
  have htext : ∀ r, s.requirement? = some r → r.isText = true →
      Option.Rel (R s) v.items[r.index]? w.items[r.index]? := by
    intro r hr htext
    rcases rel_cases (hrequired r hr) with ⟨hx, hy⟩ | ⟨x, y, hx, hy, hxy⟩
    · rw [hx, hy]
      exact .none
    · rw [hx, hy]
      exact .some (hxy htext)
  have hsiblings : ∀ n, s.nesting? = some n → n.role = .node → n.isOpen = true → n.admits = Value.isList →
      c.Related (List.Forall₂ (c.nested s)) (siblings (fs.drop n.start)) (siblings (gs.drop n.start)) := by
    intro n hn hrole hopen hadmits
    refine siblings_drop_related fun i hi => ?_
    have hcovers : n.covers i = true := by
      rw [Nesting.covers, hopen, decide_eq_true hi, Bool.true_or, Bool.and_self]
    exact hadmits ▸ hnodes n i hn hrole hcovers
  cases s with
  | newline => exact .pure c.lineBreak
  | multi => exact (hsiblings _ rfl rfl rfl rfl).bind fun ms ns h => .pure (c.multi (c.childTuple h))
  | text => exact (hsiblings _ rfl rfl rfl rfl).bind fun ms ns h => .pure (c.textBlock (c.childTuple h))
  | control => exact adaptStatement_related htexts (by decide) _ _ hpath (htext _ rfl rfl) (hnodes _ 3 rfl rfl rfl)
  | interpolate =>
    exact adaptStatement_related htexts (by decide) _ _ hpath (htext _ rfl rfl) (hnodes _ 3 rfl rfl rfl)
  | output => exact adaptStatement_related htexts (by decide) _ _ hpath (htext _ rfl rfl) (hnodes _ 4 rfl rfl rfl)
  | embedded =>
    have hblock : ∀ m n : Value, c.children m n →
        c.node (.construct (.known .embedded) .null m) (.construct (.known .embedded) .null n) :=
      fun m n hmn => c.construct c.noFragment hmn
    have hbody := (body_related (hnodes _ 3 rfl rfl rfl)).bind fun m n hmn => Logged.Related.pure (hblock m n hmn)
    show Logged.Related _ _ (Logged.ofExcept (v.field Shape.embedded.word "body" 3) >>= fun _ => _)
      (Logged.ofExcept (w.field Shape.embedded.word "body" 3) >>= fun _ => _)
    unfold Visit.field
    rcases rel_cases (hrequired _ rfl) with ⟨hx, hy⟩ | ⟨x, y, hx, hy, -⟩
    · rw [hx, hy]
      exact Visit.fail_related hpath (c.cause_refl _)
    · rw [hx, hy]
      exact .bind_of_ok rfl rfl hbody
  | tag =>
    refine Logged.Related.bind (Visit.text_related hpath c.cause_refl (htexts.text _) (htext _ rfl rfl))
      fun a b hab => ?_
    exact (content_related (hnodes _ 4 rfl rfl rfl)).bind fun m n hmn => .pure (c.markup (htexts.tagName hab) hmn)
  | attrs =>
    show Logged.Related _ _ (adaptAttributes lenient (v.items.drop 2) v.path 2 >>= _)
      (adaptAttributes lenient' (w.items.drop 2) w.path 2 >>= _)
    rw [hpath]
    exact (hattributes rfl).bind fun as bs h => .pure (c.markup h c.noContent)

end Shapes

/-! ## Rewritten lists -/

section Rewritten

variable {c : Comparison} {s : Shape} {xs ys : List Value} {f : Nat → Value → Value}

theorem Shape.roleAt_required {r : Requirement} (hr : s.requirement? = some r) (htext : r.isText = true) :
    s.roleAt r.index = none := by
  cases s <;> cases hr <;> first | rfl | cases htext

/-- A list of a known shape may be rewritten item by item: lists to lists, and only where a reader goes on. If what is
nested is read to related nodes then so is the list. -/
theorem adaptShape_rewritten {lenient lenient' : Bool} (hfragment : ∀ v, c.fragment v v) (hhead : ∀ v, c.head v v)
    (hitem : ∀ i : Nat, ys[i]? = xs[i]?.map (f i)) (hsame : ∀ (i : Nat) (x : Value), x.SameOrLists (f i x))
    (hkept : ∀ (i : Nat) (x : Value), s.roleAt i = none → f i x = x) (v w : Value) (p : Path)
    (hattributes : s = .attrs →
      c.Related (fun as bs => c.head (.attrsHead (.tuple as) .null) (.attrsHead (.tuple bs) .null))
        (adaptAttributes lenient (xs.drop 2) p 2) (adaptAttributes lenient' (ys.drop 2) p 2))
    (hnodes : ∀ (i : Nat) (x : Value), x ∈ xs → s.roleAt i = some .node →
      c.Related (c.nested s) (x.adapt lenient (p.child i)) ((f i x).adapt lenient' (p.child i))) :
    c.Related c.node (adaptShape lenient ⟨v, xs, p⟩ (Value.adaptFields lenient xs p 0) s)
      (adaptShape lenient' ⟨w, ys, p⟩ (Value.adaptFields lenient' ys p 0) s) := by
  refine adaptShape_related (Comparison.readsTexts_eq hfragment hhead) s rfl ?_ hattributes ?_
  · intro r hr
    show Option.Rel _ xs[r.index]? ys[r.index]?
    rw [hitem]
    cases xs[r.index]? with
    | none => exact .none
    | some x => exact .some fun htext => (hkept _ x (Shape.roleAt_required hr htext)).symm
  · intro n i hn hrole hcovers
    have hat : s.roleAt i = some .node := by rw [Shape.roleAt, hn, Option.bind_some, if_pos hcovers, hrole]
    apply FieldsRelated.of_rel
    rw [adaptFields_getElem?, adaptFields_getElem?, hitem]
    cases hx : xs[i]? with
    | none => exact .none
    | some x =>
      have hadmits := Shape.admits_eq hn (hsame i x).isList (hsame i x).isNull
      exact .some ⟨hadmits, fun _ => hnodes i x (List.mem_of_getElem? hx) hat⟩

end Rewritten

end TemplateProjection
