import TemplateProjection.Proofs.Logged.Outcome
import TemplateProjection.Proofs.Raw.Fields

/-!
# Well-formed trees

The trees that raw data stand for (`Node.WellFormed`): code is a text, a body is one node or none, heads have texts for
names and values and no reported width, and only a list that no shape knows is left unrecognized. Whatever the raw data,
in strict and in lenient mode, a node that they are adapted to is well formed (`Value.adapt_wellFormed`).
-/

namespace TemplateProjection

theorem childTuple_nodes (nodes : List Node) : (childTuple nodes).nodes = nodes := by
  show (nodes.map Value.node).filterMap Value.node? = nodes
  rw [List.filterMap_map]
  exact List.filterMap_some

/-- A body of one node, or none. -/
def bodyOf : Option Node → Value
  | some n => childTuple [n]
  | none => .null

/-- A content of one node, or none. -/
def contentOf : Option Node → Value
  | some n => .node n
  | none => .null

/-- An attribute with texts for its name and its value. -/
def attributeOf (name : String) (kind : ValueKind) (text : String) : Value :=
  .attr (.str name) (.known kind) (.str text)

inductive Node.WellFormed : Node → Prop
  | lineBreak : WellFormed .lineBreak
  | multi {nodes : List Node} (h : ∀ n ∈ nodes, WellFormed n) : WellFormed (.multi (childTuple nodes))
  | textBlock {nodes : List Node} (h : ∀ n ∈ nodes, WellFormed n) : WellFormed (.textBlock (childTuple nodes))
  | statement {kind : ConstructKind} {fragment : String} {inner : Option Node} (hkind : kind ≠ .embedded)
      (h : ∀ n, inner = some n → WellFormed n) :
      WellFormed (.construct (.known kind) (.str fragment) (bodyOf inner))
  | embedded {inner : Option Node} (h : ∀ n, inner = some n → WellFormed n) :
      WellFormed (.construct (.known .embedded) .null (bodyOf inner))
  | tag {name : String} {inner : Option Node} (h : ∀ n, inner = some n → WellFormed n) :
      WellFormed (.markup (.tagHead (.str name)) (contentOf inner))
  | attributes {attributes : List Value} (h : ∀ a ∈ attributes, ∃ name kind text, a = attributeOf name kind text) :
      WellFormed (.markup (.attrsHead (.tuple attributes) .null) .null)
  | unrecognized {raw : Value} {items : List Value} (hraw : raw.items? = some items)
      (h : ∀ s, Shape.read items ≠ .known s) : WellFormed (.unrecognized raw)

/-- What holds of null, and of any sequence from what holds of its nodes, holds of bodies. -/
theorem bodyOf_of_children {P : Value → Prop} {Q : Node → Prop} (hnull : P .null)
    (hchildren : ∀ nodes, (∀ n ∈ nodes, Q n) → P (childTuple nodes)) {inner : Option Node}
    (h : ∀ n, inner = some n → Q n) : P (bodyOf inner) := by
  cases inner with
  | none => exact hnull
  | some n => exact hchildren [n] (List.forall_mem_singleton.2 (h n rfl))

/-! ## Fields -/

/-- The nodes that the fields are adapted to are well formed. -/
def FieldsWellFormed (fields : List Field) : Prop :=
  ∀ f ∈ fields, ∀ n, f.node.result = .ok n → n.WellFormed

theorem FieldsWellFormed.drop {fields : List Field} (h : FieldsWellFormed fields) (k : Nat) :
    FieldsWellFormed (fields.drop k) := fun f hf => h f (List.mem_of_mem_drop hf)

theorem siblings_wellFormed : ∀ {fields : List Field} {nodes : List Node}, FieldsWellFormed fields →
    (siblings fields).result = .ok nodes → ∀ n ∈ nodes, n.WellFormed
  | [], nodes, _, hok, n, hn => by
    obtain rfl := Except.ok.inj hok
    exact absurd hn List.not_mem_nil
  | f :: rest, nodes, h, hok, n, hn => by
    have hrest : FieldsWellFormed rest := fun g hg => h g (List.mem_cons_of_mem f hg)
    unfold siblings at hok
    split at hok
    · obtain ⟨m, hm, hok⟩ := Logged.bind_result_ok.1 hok
      obtain ⟨ms, hms, hok⟩ := Logged.bind_result_ok.1 hok
      obtain rfl := Except.ok.inj hok
      rcases List.mem_cons.1 hn with rfl | hn
      · exact h f List.mem_cons_self n hm
      · exact siblings_wellFormed hrest hms n hn
    · exact siblings_wellFormed hrest hok n hn

theorem body_wellFormed {fields : List Field} (h : FieldsWellFormed fields) {i : Nat} {v : Value}
    (hok : (body fields i).result = .ok v) :
    ∃ inner, v = bodyOf inner ∧ ∀ n, inner = some n → n.WellFormed := by
  unfold body at hok
  split at hok
  · exact ⟨none, (Except.ok.inj hok).symm, nofun⟩
  · rename_i f hf
    split at hok
    · exact ⟨none, (Except.ok.inj hok).symm, nofun⟩
    · obtain ⟨m, hm, hok⟩ := Logged.bind_result_ok.1 hok
      refine ⟨some m, (Except.ok.inj hok).symm, fun n hn => ?_⟩
      obtain rfl := Option.some.inj hn
      exact h f (List.mem_of_getElem? hf) m hm

theorem content_wellFormed {fields : List Field} (h : FieldsWellFormed fields) {i : Nat} {v : Value}
    (hok : (content fields i).result = .ok v) :
    ∃ inner, v = contentOf inner ∧ ∀ n, inner = some n → n.WellFormed := by
  unfold content at hok
  split at hok
  · exact ⟨none, (Except.ok.inj hok).symm, nofun⟩
  · rename_i f hf
    split at hok
    · obtain ⟨m, hm, hok⟩ := Logged.bind_result_ok.1 hok
      refine ⟨some m, (Except.ok.inj hok).symm, fun n hn => ?_⟩
      obtain rfl := Option.some.inj hn
      exact h f (List.mem_of_getElem? hf) m hm
    · exact ⟨none, (Except.ok.inj hok).symm, nofun⟩

/-! ## Attributes -/

theorem toAttr_result {lenient : Bool} {v : Visit} {a : Value} (hok : (v.toAttr lenient).result = .ok a) :
    ∃ name kind text, a = attributeOf name kind text := by
  obtain ⟨name, -, hok⟩ := Logged.bind_result_ok.1 hok
  obtain ⟨value, -, hok⟩ := Logged.bind_result_ok.1 hok
  split at hok
  · cases hok
  · cases hok
  · rename_i first rest _
    obtain ⟨text, -, hok⟩ := Logged.bind_result_ok.1 hok
    exact ⟨name, ValueKind.ofFirst first, text, (Except.ok.inj hok).symm⟩

theorem adaptAttributes_result {lenient : Bool} {p : Path} : ∀ {entries : List Value} {i : Nat} {as : List Value},
    (adaptAttributes lenient entries p i).result = .ok as →
      ∀ a ∈ as, ∃ name kind text, a = attributeOf name kind text
  | [], _, as, hok, a, ha => by
    obtain rfl := Except.ok.inj hok
    exact absurd ha List.not_mem_nil
  | entry :: rest, i, as, hok, a, ha => by
    obtain ⟨b, hb, hok⟩ := Logged.bind_result_ok.1 hok
    obtain ⟨bs, hbs, hok⟩ := Logged.bind_result_ok.1 hok
    obtain rfl := Except.ok.inj hok
    rcases List.mem_cons.1 ha with rfl | ha
    · unfold Value.adaptAttribute at hb
      split at hb
      · exact toAttr_result hb
      · cases hb
    · exact adaptAttributes_result hbs a ha

/-! ## Shapes -/

theorem adaptStatement_wellFormed {v : Visit} {fields : List Field} (h : FieldsWellFormed fields) {shape : Shape}
    {kind : ConstructKind} (hkind : kind ≠ .embedded) {what : String} {code : Nat} {n : Node}
    (hok : (adaptStatement v fields shape kind what code).result = .ok n) : n.WellFormed := by
  obtain ⟨fragment, -, hok⟩ := Logged.bind_result_ok.1 hok
  obtain ⟨nested, hnested, hok⟩ := Logged.bind_result_ok.1 hok
  obtain rfl := Except.ok.inj hok
  obtain ⟨inner, rfl, hinner⟩ := body_wellFormed h hnested
  exact .statement hkind hinner

theorem adaptShape_wellFormed {lenient : Bool} {v : Visit} {fields : List Field} (h : FieldsWellFormed fields)
    {s : Shape} {n : Node} (hok : (adaptShape lenient v fields s).result = .ok n) : n.WellFormed := by
  cases s with
  | multi =>
    obtain ⟨nodes, hnodes, hok⟩ := Logged.bind_result_ok.1 hok
    obtain rfl := Except.ok.inj hok
    exact .multi (siblings_wellFormed (h.drop 1) hnodes)
  | newline =>
    obtain rfl := Except.ok.inj hok
    exact .lineBreak
  | control => exact adaptStatement_wellFormed h (by decide) hok
  | interpolate => exact adaptStatement_wellFormed h (by decide) hok
  | output => exact adaptStatement_wellFormed h (by decide) hok
  | embedded =>
    obtain ⟨_, -, hok⟩ := Logged.bind_result_ok.1 hok
    obtain ⟨nested, hnested, hok⟩ := Logged.bind_result_ok.1 hok
    obtain rfl := Except.ok.inj hok
    obtain ⟨inner, rfl, hinner⟩ := body_wellFormed h hnested
    exact .embedded hinner
  | text =>
    obtain ⟨nodes, hnodes, hok⟩ := Logged.bind_result_ok.1 hok
    obtain rfl := Except.ok.inj hok
    exact .textBlock (siblings_wellFormed (h.drop 2) hnodes)
  | tag =>
    obtain ⟨name, -, hok⟩ := Logged.bind_result_ok.1 hok
    obtain ⟨v, hv, hok⟩ := Logged.bind_result_ok.1 hok
    obtain rfl := Except.ok.inj hok
    obtain ⟨inner, rfl, hinner⟩ := content_wellFormed h hv
    exact .tag hinner
  | attrs =>
    obtain ⟨as, has, hok⟩ := Logged.bind_result_ok.1 hok
    obtain rfl := Except.ok.inj hok
    exact .attributes (adaptAttributes_result has)

/-- A list of no known shape is kept as it is. -/
theorem assemble_unknown {lenient : Bool} {v : Visit} {fields : List Field}
    (h : ∀ s, Shape.read v.items ≠ .known s) : (assemble lenient v fields).result = .ok (.unrecognized v.raw) := by
  unfold assemble
  split
  · rename_i s hs
    exact absurd hs (h s)
  · rfl
  · rfl
  · rfl

theorem assemble_known {lenient : Bool} {v : Visit} {fields : List Field} {s : Shape}
    (h : Shape.read v.items = .known s) : assemble lenient v fields = adaptShape lenient v fields s := by
  rw [assemble, h]

/-- A list has a known shape or none. -/
theorem Shape.read_cases (items : List Value) :
    (∃ s, Shape.read items = .known s) ∨ ∀ s, Shape.read items ≠ .known s := by
  by_cases h : ∃ s, Shape.read items = .known s
  · exact .inl h
  · exact .inr fun s hs => h ⟨s, hs⟩

/-- **Adapted trees are well formed.** -/
theorem Value.adapt_wellFormed (lenient : Bool) (v : Value) :
    ∀ (p : Path) (n : Node), (v.adapt lenient p).result = .ok n → n.WellFormed := by
  induction v using Value.items_induction with
  | step v ih =>
    intro p n hok
    cases hv : v.items? with
    | none =>
      rw [Value.adapt_of_not_list lenient p hv] at hok
      cases hok
    | some items =>
      have hfields : FieldsWellFormed (Value.adaptFields lenient items p 0) := by
        intro f hf m hm
        obtain ⟨x, hx, q, rfl⟩ := mem_adaptFields lenient p hf
        exact ih items hv x hx q m hm
      rw [Value.adapt_of_items lenient p hv] at hok
      rcases Shape.read_cases items with ⟨s, hs⟩ | hunknown
      · rw [assemble_known hs] at hok
        exact adaptShape_wellFormed hfields hok
      · rw [assemble_unknown hunknown] at hok
        obtain rfl := Except.ok.inj hok
        exact .unrecognized hv hunknown

end TemplateProjection
