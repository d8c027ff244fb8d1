import TemplateProjection.Proofs.Projection.InlineShorthand
import TemplateProjection.Proofs.Raw.Comparison
import TemplateProjection.Proofs.Raw.WellFormed
import TemplateProjection.Session

/-!
# The inline shorthand in raw data

In raw data the shorthand is a list tagged `output` or `interpolate` that is the content of a `tag` and has no body, or
null for it. It is written out by giving it a raw line end for its body (`Value.rawWrittenOut`). Raw data that are
written out stand for the tree that is written out, or they fail alike (`Value.adapt_rawWrittenOut`); so they have the
same text (`inline_shorthand`).
-/

namespace TemplateProjection

/-! ## Writing out -/

/-- The line end as raw data. -/
def LineEnd.raw : LineEnd → Value
  | plain => .list [.str "newline"]
  | contained => .list [.str "multi", .list [.str "newline"]]

/-- The items of a statement with a body behind its code, unless there is one. Without its code the statement is
malformed, and is left alone. -/
def withBody (items : List Value) (code : Nat) (body : Value) : List Value :=
  match items[code]?, items[code + 1]? with
  | none, _ => items
  | some _, none => items ++ [body]
  | some _, some x => if x.isNull then items.set (code + 1) body else items

/-- Where a raw output or interpolation has its code. -/
def shorthandCode? (items : List Value) : Option Nat :=
  match Shape.read items with
  | .known .output => some 3
  | .known .interpolate => some 2
  | _ => none

/-- A raw output or interpolation without a body, with the line end for its body. -/
def Value.withRawLineEnd (e : LineEnd) (v : Value) : Value :=
  match v.items? with
  | none => v
  | some items =>
    match shorthandCode? items with
    | some code => v.withItems (withBody items code e.raw)
    | none => v

/-- The shape of the list, if its item of the index is read as a node. -/
def shapeAbove (items : List Value) (i : Nat) : Option Shape :=
  match Shape.read items with
  | .known s => if s.roleAt i = some .node then some s else none
  | _ => none

mutual

/-- Raw data in which every shorthand is written out that a reader comes to. -/
def Value.rawWrittenOut (e : LineEnd) : Value → Value
  | .list items => .list (Value.rawWrittenOutItems e items (shapeAbove items) 0)
  | .tuple items => .tuple (Value.rawWrittenOutItems e items (shapeAbove items) 0)
  | v => v

/-- The items from index `i` on, each after the shape above it: the content of a tag may be a shorthand itself. -/
def Value.rawWrittenOutItems (e : LineEnd) : List Value → (above : Nat → Option Shape) → (i : Nat) → List Value
  | [], _, _ => []
  | v :: rest, above, i =>
    (match above i with
      | none => v
      | some s => if s = .tag then (v.rawWrittenOut e).withRawLineEnd e else v.rawWrittenOut e) ::
        Value.rawWrittenOutItems e rest above (i + 1)

end

/-- A value written out after the shape above it. -/
def Value.rawWrittenOutIn (e : LineEnd) (v : Value) : (above : Option Shape) → Value
  | none => v
  | some s => if s = .tag then (v.rawWrittenOut e).withRawLineEnd e else v.rawWrittenOut e

/-- A node written out after the shape above it. -/
def Node.writtenOutIn (e : LineEnd) (n : Node) (above : Shape) : Node :=
  if above = .tag then (n.writtenOut e).withLineEnd e else n.writtenOut e

variable (e : LineEnd)

/-! ## Items -/

theorem Value.rawWrittenOut_of_items {v : Value} {items : List Value} (h : v.items? = some items) :
    v.rawWrittenOut e = v.withItems (Value.rawWrittenOutItems e items (shapeAbove items) 0) := by
  cases v with
  | list l | tuple l =>
    obtain rfl := Option.some.inj h
    rfl
  | _ => cases h

theorem Value.rawWrittenOut_of_not_list {v : Value} (h : v.items? = none) : v.rawWrittenOut e = v := by
  cases v <;> first | rfl | cases h

theorem shapeAbove_of_read {items : List Value} {s : Shape} (h : Shape.read items = .known s) (i : Nat) :
    shapeAbove items i = if s.roleAt i = some .node then some s else none := by
  rw [shapeAbove, h]

theorem shapeAbove_of_unknown {items : List Value} (h : ∀ s, Shape.read items ≠ .known s) (i : Nat) :
    shapeAbove items i = none := by
  unfold shapeAbove
  split
  · rename_i s hs
    exact absurd hs (h s)
  · rfl

/-- Every item is written out after the shape above it, in its place. -/
theorem rawWrittenOutItems_getElem? (items : List Value) (above : Nat → Option Shape) (k i : Nat) :
    (Value.rawWrittenOutItems e items above k)[i]? = items[i]?.map fun v => v.rawWrittenOutIn e (above (k + i)) := by
  induction items generalizing k i with
  | nil => rfl
  | cons v rest ih =>
    cases i with
    | zero =>
      rw [Value.rawWrittenOutItems, Nat.add_zero]
      cases above k <;> rfl
    | succ i =>
      have hindex : k + 1 + i = k + (i + 1) := by omega
      rw [Value.rawWrittenOutItems, List.getElem?_cons_succ, List.getElem?_cons_succ, ih, hindex]

/-- Nothing is written out in a list whose shape is not known. -/
theorem Value.rawWrittenOut_of_unknown {v : Value} {items : List Value} (hv : v.items? = some items)
    (h : ∀ s, Shape.read items ≠ .known s) : v.rawWrittenOut e = v := by
  have hkept : Value.rawWrittenOutItems e items (shapeAbove items) 0 = items := by
    apply List.ext_getElem?
    intro i
    rw [rawWrittenOutItems_getElem?, shapeAbove_of_unknown h]
    exact Option.map_id'
  rw [rawWrittenOut_of_items e hv, hkept, withItems_self hv]

theorem Value.sameOrLists_withItems (v : Value) (xs : List Value) : v.SameOrLists (v.withItems xs) := by
  cases v with
  | list l | tuple l => exact .lists rfl rfl
  | _ => exact .same _

theorem Value.sameOrLists_withRawLineEnd (v : Value) : v.SameOrLists (v.withRawLineEnd e) := by
  unfold withRawLineEnd
  split
  · exact .same v
  · split
    · exact v.sameOrLists_withItems _
    · exact .same v

theorem Value.sameOrLists_rawWrittenOut (v : Value) : v.SameOrLists (v.rawWrittenOut e) := by
  cases v with
  | list l | tuple l => exact .lists rfl rfl
  | _ => exact .same _

theorem Value.sameOrLists_rawWrittenOutIn (v : Value) (above : Option Shape) :
    v.SameOrLists (v.rawWrittenOutIn e above) := by
  cases above with
  | none => exact .same v
  | some s =>
    have hbelow := v.sameOrLists_rawWrittenOut e
    by_cases hs : s = .tag
    · rw [rawWrittenOutIn, if_pos hs]
      exact hbelow.trans (sameOrLists_withRawLineEnd e _)
    · rw [rawWrittenOutIn, if_neg hs]
      exact hbelow

/-! ## The content of a tag -/

section Content

variable (lenient : Bool) (p : Path)

theorem LineEnd.adapt_raw : e.raw.adapt lenient p = pure e.node := by
  cases e <;> rfl

theorem LineEnd.isNull_raw : e.raw.isNull = false := by
  cases e <;> rfl

/-- The items up to the code stay. -/
theorem withBody_getElem? (items : List Value) {code i : Nat} (hi : i ≤ code) (b : Value) :
    (withBody items code b)[i]? = items[i]? := by
  unfold withBody
  split
  · rfl
  · rename_i hcode _
    have hlength := (List.getElem?_eq_some_iff.1 hcode).1
    apply List.getElem?_append_left
    omega
  · split
    · apply List.getElem?_set_ne
      omega
    · rfl

/-- A statement without its code, or with a body, stays as it is; else it has the body behind its code. -/
theorem withBody_cases (items : List Value) (code : Nat) (b : Value) :
    (items[code]? = none ∧ withBody items code b = items) ∨
    (∃ x, items[code + 1]? = some x ∧ x.isNull = false ∧ withBody items code b = items) ∨
    (∀ x, items[code + 1]? = some x → x.isNull = true) ∧ (withBody items code b)[code + 1]? = some b := by
  unfold withBody
  cases hcode : items[code]? with
  | none => exact .inl ⟨rfl, rfl⟩
  | some c =>
    have hlength : code < items.length := (List.getElem?_eq_some_iff.1 hcode).1
    cases hbody : items[code + 1]? with
    | none =>
      have hend : items.length = code + 1 := by
        have := List.getElem?_eq_none_iff.1 hbody
        omega
      refine .inr (.inr ⟨nofun, ?_⟩)
      show (items ++ [b])[code + 1]? = some b
      rw [← hend]
      exact List.getElem?_concat_length
    | some x =>
      cases hx : x.isNull with
      | false => exact .inr (.inl ⟨x, rfl, hx, if_neg (by simp [hx])⟩)
      | true =>
        refine .inr (.inr ⟨?_, ?_⟩)
        · intro y hy
          obtain rfl := Option.some.inj hy
          exact hx
        · simp only [hx, if_true]
          exact List.getElem?_set_self (List.getElem?_eq_some_iff.1 hbody).1

theorem read_withBody (items : List Value) {code : Nat} (hcode : 1 ≤ code) (b : Value) :
    Shape.read (withBody items code b) = Shape.read items := by
  unfold Shape.read Shape.symbolAt
  rw [withBody_getElem? items (Nat.zero_le code), withBody_getElem? items hcode]

theorem body_of_null {items : List Value} {i : Nat} (h : ∀ x, items[i]? = some x → x.isNull = true) :
    body (Value.adaptFields lenient items p 0) i = pure .null := by
  unfold body
  rw [adaptFields_getElem?]
  cases hx : items[i]? with
  | none => rfl
  | some x =>
    simp only [Option.map_some, h x hx]
    rfl

theorem body_of_item {items : List Value} {i : Nat} {x : Value} (hx : items[i]? = some x) (hnull : x.isNull = false) :
    body (Value.adaptFields lenient items p 0) i = (do
      let n ← x.adapt lenient (p.child i)
      pure (childTuple [n])) := by
  unfold body
  rw [adaptFields_getElem?, hx]
  simp only [Option.map_some, hnull]
  rfl

/-- The raw statement is given its body where the statement is. -/
theorem adaptStatement_withLineEnd (v w : Value) (items : List Value) {kind : ConstructKind}
    (hkind : kind.isInline = true) (shape : Shape) (what : String) (code : Nat) :
    let longer := withBody items code e.raw
    (Node.withLineEnd e <$>
        adaptStatement ⟨v, items, p⟩ (Value.adaptFields lenient items p 0) shape kind what code).Alike
      (adaptStatement ⟨w, longer, p⟩ (Value.adaptFields lenient longer p 0) shape kind what code) := by
  intro longer
  have htext : (Logged.ofExcept (Visit.text ⟨v, items, p⟩ shape.word what code)).Alike
      (.ofExcept (Visit.text ⟨w, longer, p⟩ shape.word what code)) :=
    Visit.text_alike (v := ⟨v, items, p⟩) (w := ⟨w, longer, p⟩) rfl (withBody_getElem? items (Nat.le_refl code) e.raw)
      _ _
  unfold adaptStatement
  rw [map_bind]
  rcases withBody_cases items code e.raw with ⟨hcode, hself⟩ | ⟨x, hx, hnull, hself⟩ | ⟨hnull, hbody⟩
  · -- Without its code, neither is a statement.
    have hlacks : ∀ u : Value, Visit.text ⟨u, items, p⟩ shape.word what code =
        Visit.fail ⟨u, items, p⟩ (.missingField shape.word what code) := by
      intro u
      unfold Visit.text Visit.field
      rw [hcode]
      rfl
    rw [show longer = items from hself, hlacks v, hlacks w]
    exact Visit.fail_alike (v := ⟨v, items, p⟩) (w := ⟨w, items, p⟩) rfl _
  · have hkept : ∀ (fragment : String) (n : Node),
        (Node.construct (.known kind) (.str fragment) (childTuple [n])).withLineEnd e =
          .construct (.known kind) (.str fragment) (childTuple [n]) := by
      intro fragment n
      cases kind <;> rfl
    apply Logged.Alike.bind htext
    intro fragment
    rw [show longer = items from hself, body_of_item lenient p hx hnull]
    simp only [map_bind, map_pure, bind_assoc, pure_bind, hkept]
    exact .refl _
  · have hlong : ∀ fragment : String, (Node.construct (.known kind) (.str fragment) .null).withLineEnd e =
        .construct (.known kind) (.str fragment) (childTuple [e.node]) := by
      intro fragment
      cases kind with
      | output | interpolation => rfl
      | embedded | control => cases hkind
    apply Logged.Alike.bind htext
    intro fragment
    rw [body_of_null lenient p hnull, body_of_item lenient p hbody e.isNull_raw, e.adapt_raw]
    simp only [map_pure, pure_bind, hlong]
    exact .refl _

/-- A list that is tagged otherwise stands for no output or interpolation. -/
theorem assemble_withLineEnd (v : Visit) (fields : List Field) (h : shorthandCode? v.items = none) :
    Node.withLineEnd e <$> assemble lenient v fields = assemble lenient v fields := by
  unfold shorthandCode? at h
  unfold assemble
  cases hs : Shape.read v.items with
  | unknownKind | unknownConstruct | unknownMarkup => rfl
  | known s =>
    rw [hs] at h
    cases s with
    | output | interpolate => cases h
    | newline => rfl
    | multi | control | embedded | text | tag | attrs =>
      simp only [adaptShape, adaptStatement, map_bind, map_pure]
      rfl

/-- **As the content of a tag, a raw shorthand is written out where the shorthand is.** -/
theorem Value.adapt_withRawLineEnd (v : Value) :
    (Node.withLineEnd e <$> v.adapt lenient p).Alike ((v.withRawLineEnd e).adapt lenient p) := by
  unfold withRawLineEnd
  cases hv : v.items? with
  | none =>
    rw [adapt_of_not_list lenient p hv]
    exact .refl _
  | some items =>
    simp only
    cases hcode : shorthandCode? items with
    | none =>
      rw [adapt_of_items lenient p hv, assemble_withLineEnd e lenient _ _ hcode]
      exact .refl _
    | some code =>
      have hitems := items?_withItems hv (withBody items code e.raw)
      rw [adapt_of_items lenient p hv, adapt_of_items lenient p hitems]
      unfold shorthandCode? at hcode
      unfold assemble
      split at hcode
      · rename_i hs
        obtain rfl := Option.some.inj hcode
        simp only [read_withBody items (show 1 ≤ 3 by omega), hs]
        exact adaptStatement_withLineEnd e lenient p v _ items rfl _ _ _
      · rename_i hs
        obtain rfl := Option.some.inj hcode
        simp only [read_withBody items (show 1 ≤ 2 by omega), hs]
        exact adaptStatement_withLineEnd e lenient p v _ items rfl _ _ _
      · cases hcode

end Content

/-! ## Nested nodes -/

theorem writtenOut_childTuple (nodes : List Node) :
    (childTuple nodes).writtenOut e = childTuple (nodes.map (Node.writtenOut e)) := by
  have hall : Value.writtenOutAll e (nodes.map Value.node) = (nodes.map (Node.writtenOut e)).map Value.node := by
    induction nodes with
    | nil => rfl
    | cons n rest ih => exact congrArg (Value.node (n.writtenOut e) :: ·) ih
  exact congrArg Value.tuple hall

/-- A node corresponds to what it is written out to; as a content, it is given its line end. -/
def Comparison.writtenOut : Comparison where
  cause := Eq
  node m n := m.writtenOut e = n
  contentNode m n := (m.writtenOut e).withLineEnd e = n
  children a b := a.writtenOut e = b
  content a b := a.writtenOutContent e = b
  fragment := Eq
  head := Eq
  cause_refl _ := rfl
  childTuple {ms ns} h := by
    have hnodes : ms.map (Node.writtenOut e) = ns := by
      induction h with
      | nil => rfl
      | cons hmn _ ih => rw [List.map_cons, hmn, ih]
    rw [writtenOut_childTuple, hnodes]
  noBody := rfl
  contentOf := congrArg Value.node
  noContent := rfl
  noFragment := rfl
  lineBreak := rfl
  multi := congrArg Node.multi
  textBlock := congrArg Node.textBlock
  construct hfragment h := hfragment ▸ congrArg (Node.construct _ _) h
  markup hhead h := hhead ▸ congrArg (Node.markup _) h

theorem Comparison.nested_writtenOut (s : Shape) :
    (writtenOut e).nested s = fun m n => m.writtenOutIn e s = n := by
  cases s <;> rfl

/-! ## Trees -/

section Trees

variable (lenient : Bool)

/-- A node is written out after the shape above it if the raw data are. -/
theorem Value.adapt_rawWrittenOutIn {v : Value} {p : Path}
    (h : (Node.writtenOut e <$> v.adapt lenient p).Alike ((v.rawWrittenOut e).adapt lenient p)) (s : Shape) :
    ((fun n => n.writtenOutIn e s) <$> v.adapt lenient p).Alike ((v.rawWrittenOutIn e (some s)).adapt lenient p) := by
  by_cases hs : s = .tag
  · have hnode : (fun n => Node.writtenOutIn e n s) = Node.withLineEnd e ∘ Node.writtenOut e := by
      funext n
      exact if_pos hs
    rw [rawWrittenOutIn, if_pos hs, hnode, comp_map]
    exact (h.map _).trans (adapt_withRawLineEnd e lenient p _)
  · have hnode : (fun n => Node.writtenOutIn e n s) = Node.writtenOut e := by
      funext n
      exact if_neg hs
    rw [rawWrittenOutIn, if_neg hs, hnode]
    exact h

/-- A list of a known shape is written out if the nodes among its items are, each after the shape. -/
theorem Value.adapt_rawWrittenOut_known {v : Value} {items : List Value} {s : Shape} (hv : v.items? = some items)
    (hs : Shape.read items = .known s)
    (h : ∀ x ∈ items, ∀ p, (Node.writtenOut e <$> x.adapt lenient p).Alike ((x.rawWrittenOut e).adapt lenient p))
    (p : Path) : (Node.writtenOut e <$> v.adapt lenient p).Alike ((v.rawWrittenOut e).adapt lenient p) := by
  let longer := Value.rawWrittenOutItems e items (shapeAbove items) 0
  have hitem : ∀ i : Nat, longer[i]? = items[i]?.map fun x => x.rawWrittenOutIn e (shapeAbove items i) := by
    intro i
    rw [rawWrittenOutItems_getElem?, Nat.zero_add]
  have hlonger : (v.withItems longer).items? = some longer := items?_withItems hv longer
  have hread : Shape.read longer = .known s :=
    (Shape.read_rewritten hitem fun _ x => x.sameOrLists_rawWrittenOutIn e _).trans hs
  have hkept : ∀ (i : Nat) (x : Value), s.roleAt i ≠ some .node →
      x.rawWrittenOutIn e (shapeAbove items i) = x := by
    intro i x hi
    rw [shapeAbove_of_read hs, if_neg hi]
    rfl
  rw [rawWrittenOut_of_items e hv, adapt_of_items lenient p hv, adapt_of_items lenient p hlonger, assemble_known hs,
    assemble_known hread]
  refine Logged.alike_map_iff.2 (adaptShape_rewritten (c := .writtenOut e) (fun _ => rfl) (fun _ => rfl) hitem
    (fun _ x => x.sameOrLists_rawWrittenOutIn e _) (fun i x hi => hkept i x (by simp [hi])) v _ p ?_ ?_)
  · rintro rfl
    have hsame : longer = items := by
      apply List.ext_getElem?
      intro i
      rw [hitem]
      cases items[i]? with
      | none => rfl
      | some x => exact congrArg some (hkept i x (Shape.roleAt_attrs_ne_node i))
    rw [hsame]
    exact (alikeResults_iff.1 (.refl _)).mono (fun _ _ he => he) fun _ _ hattributes => by rw [hattributes]; rfl
  · intro i x hx hi
    rw [Comparison.nested_writtenOut, shapeAbove_of_read hs, if_pos hi]
    exact Logged.alike_map_iff.1 (adapt_rawWrittenOutIn e lenient (h x hx (p.child i)) s)

/-- **What is written out raw is read as what is written out**, or both fail alike. -/
theorem Value.adapt_rawWrittenOut (v : Value) :
    ∀ p, (Node.writtenOut e <$> v.adapt lenient p).Alike ((v.rawWrittenOut e).adapt lenient p) := by
  induction v using Value.items_induction with
  | step v ih =>
    intro p
    cases hv : v.items? with
    | none =>
      rw [rawWrittenOut_of_not_list e hv, adapt_of_not_list lenient p hv]
      exact .refl _
    | some items =>
      rcases Shape.read_cases items with ⟨s, hs⟩ | hunknown
      · exact adapt_rawWrittenOut_known e lenient hv hs (ih items hv) p
      · have hnode : (v.adapt lenient p).result = .ok (.unrecognized v) := by
          rw [adapt_of_items lenient p hv]
          exact assemble_unknown hunknown
        rw [rawWrittenOut_of_unknown e hv hunknown, map_eq_pure_bind, Logged.bind_ok hnode]
        exact .of_result_eq hnode.symm

end Trees

/-! ## Texts -/

/-- Raw data that are written out give the same text on every memo, or fail for the same cause. -/
theorem Value.projectRaw_rawWrittenOut (raw : Value) (o : Options) (level : Int) (isRoot : Bool) (m : Memo) :
    AlikeResults ((raw.projectRaw o level isRoot).run m).result
      (((raw.rawWrittenOut e).projectRaw o level isRoot).run m).result := by
  have hread := raw.adapt_rawWrittenOut e o.lenientAttributes .root
  rw [map_eq_pure_bind] at hread
  unfold projectRaw
  rw [Run.run_bind, Run.run_bind]
  unfold Run.ofLogged
  cases hraw : (raw.adapt o.lenientAttributes .root).result with
  | error err =>
    rw [Logged.bind_error hraw] at hread
    rcases hread.cases with ⟨n, hn, -⟩ | ⟨err', err'', herr', herr'', hsame⟩
    · cases hn
    · cases herr'
      rw [herr'']
      exact .error hsame
  | ok n =>
    rw [Logged.bind_ok hraw] at hread
    have hlong := (hread.ok_iff _).1 rfl
    rw [hlong]
    exact (Value.project_writtenOut e (.node n) o level isRoot m).result

/-- **The inline shorthand agrees with the general path.** A tree in which every shorthand is written out is projected
alike: at every level, at the root or below it and on every memo it gives the same text, makes the same notices and
leaves the same memo, or it fails for the same cause. Raw data in which every shorthand is written out give the same
text, or fail for the same cause. -/
theorem inline_shorthand (e : LineEnd) (o : Options) :
    (∀ (tree : Value) (level : Int) (isRoot : Bool),
      (tree.project o level isRoot).Alike ((tree.writtenOut e).project o level isRoot)) ∧
    ∀ (raw : Value) (level : Int) (isRoot : Bool) (m : Memo),
      AlikeResults ((raw.projectRaw o level isRoot).run m).result
        (((raw.rawWrittenOut e).projectRaw o level isRoot).run m).result :=
  ⟨fun tree level isRoot => tree.project_writtenOut e o level isRoot,
    fun raw level isRoot m => raw.projectRaw_rawWrittenOut e o level isRoot m⟩

/-- The output in a cell is a shorthand; the one that stands beside the cell is none, for it ends no line. -/
example :
    let output (body : List Value) := Value.list ([.str "slim", .str "output", .bool true, .str "x"] ++ body)
    let row (body : List Value) := Value.list [.str "multi",
      .list [.str "html", .str "tag", .str "td", .null, output body], output []]
    (row []).rawWrittenOut .plain = row [.list [.str "newline"]] ∧
      ((row []).projectRaw {} 1 true).fresh.result = .ok "      x\n  x" :=
  ⟨rfl, rfl⟩

end TemplateProjection
