import TemplateProjection.Proofs.Path.Resolution
import TemplateProjection.Proofs.Raw.WellFormed

/-!
# The trees that raw data stand for

A tree may be written back as raw data (`Node.toRaw`). If it is well formed, adapting what is written gives the tree
again, in strict and in lenient mode and wherever the raw data stand (`Node.WellFormed.toRaw_adaptsTo`). Adapted trees
are well formed, so the well-formed trees are the trees that raw data stand for, no more and no less (`adapt_image`).

A list is left unrecognized if its tags name no shape; what tags name none is listed case by case (`NoShape`).
-/

namespace TemplateProjection

/-! ## Writing trees -/

/-- An attribute in raw form. -/
def Value.rawAttribute : Value → Value
  | .attr name (.known .static) text => .list [.str "html", .str "attr", name, .list [.str "static", text]]
  | .attr name _ text =>
    .list [.str "html", .str "attr", name, .list [.str "slim", .str "attrvalue", .bool true, text]]
  | v => v

mutual

/-- A node in raw form. What no shape knows is kept as it came. -/
def Node.toRaw : Node → Value
  | .multi children => .list (.str "multi" :: children.rawItems)
  | .lineBreak => .list [.str "newline"]
  | .textBlock children => .list (.str "slim" :: .str "text" :: .null :: children.rawItems)
  | .construct (.known .control) fragment body => .list [.str "slim", .str "control", fragment, body.rawInner]
  | .construct (.known .interpolation) fragment body =>
    .list [.str "slim", .str "interpolate", fragment, body.rawInner]
  | .construct (.known .output) fragment body =>
    .list [.str "slim", .str "output", .bool true, fragment, body.rawInner]
  | .construct (.known .embedded) _ body => .list [.str "slim", .str "embedded", .null, body.rawInner]
  | .markup (.tagHead name) content => .list [.str "html", .str "tag", name, .null, content.rawInner]
  | .markup (.attrsHead (.tuple attributes) _) _ =>
    .list (.str "html" :: .str "attrs" :: attributes.map Value.rawAttribute)
  | .unrecognized raw => raw
  | _ => .null

/-- The entries of a sequence in raw form. -/
def Value.rawItems : Value → List Value
  | .tuple items => Value.rawAll items
  | _ => []

def Value.rawAll : List Value → List Value
  | [] => []
  | .node n :: rest => n.toRaw :: Value.rawAll rest
  | _ :: rest => Value.rawAll rest

/-- The one node of a body or a content in raw form, or null. -/
def Value.rawInner : Value → Value
  | .tuple (.node n :: _) => n.toRaw
  | .node n => n.toRaw
  | _ => .null

end

theorem rawItems_childTuple (nodes : List Node) : (childTuple nodes).rawItems = nodes.map Node.toRaw := by
  show Value.rawAll (nodes.map Value.node) = nodes.map Node.toRaw
  induction nodes with
  | nil => rfl
  | cons n rest ih =>
    rw [List.map_cons, List.map_cons, Value.rawAll, ih]

/-! ## Reading what is written -/

section Reading

variable {lenient : Bool}

/-- Only lists are adapted. -/
theorem Value.AdaptsTo.isList {raw : Value} {n : Node} (h : raw.AdaptsTo lenient n) : raw.isList = true := by
  cases hitems : raw.items? with
  | some items => exact Value.isList_of_items hitems
  | none =>
    have hroot := h .root
    rw [adapt_of_not_list lenient .root hitems] at hroot
    cases hroot

/-- Siblings that are adapted one by one are adapted together. -/
theorem siblingsAdaptTo_of_forall {nodes : List Node} (h : ∀ n ∈ nodes, n.toRaw.AdaptsTo lenient n) :
    SiblingsAdaptTo lenient (nodes.map Node.toRaw) nodes := by
  induction nodes with
  | nil =>
    intro p start
    rfl
  | cons n rest ih =>
    intro p start
    have hn := h n List.mem_cons_self
    have hrest := ih fun m hm => h m (List.mem_cons_of_mem n hm)
    rw [List.map_cons, adaptSiblings_cons_list hn.isList, Logged.bind_ok (hn _), Logged.bind_ok (hrest p (start + 1))]
    rfl

/-- A sequence of siblings behind the tag of a container. -/
theorem adapt_multi (items : List Value) (p : Path) : (Value.list (.str "multi" :: items)).adapt lenient p =
    (do
      let nodes ← adaptSiblings lenient items p 1
      pure (.multi (childTuple nodes))) := by
  rfl

/-- A body of one node in raw form, as the field of a list. -/
theorem body_rawInner {inner : Option Node} (h : ∀ n, inner = some n → n.toRaw.AdaptsTo lenient n)
    {items : List Value} {i : Nat} (hi : items[i]? = some (bodyOf inner).rawInner) (p : Path) :
    (body (Value.adaptFields lenient items p 0) i).result = .ok (bodyOf inner) := by
  unfold body
  rw [adaptFields_getElem?, hi]
  cases inner with
  | none => rfl
  | some n =>
    have hn : n.toRaw.AdaptsTo lenient n := h n rfl
    have hraw : (bodyOf (some n)).rawInner = n.toRaw := rfl
    simp only [hraw, Option.map_some, Value.isNull_of_isList hn.isList]
    exact Logged.bind_result_ok.2 ⟨n, hn _, rfl⟩

theorem content_rawInner {inner : Option Node} (h : ∀ n, inner = some n → n.toRaw.AdaptsTo lenient n)
    {items : List Value} {i : Nat} (hi : items[i]? = some (contentOf inner).rawInner) (p : Path) :
    (content (Value.adaptFields lenient items p 0) i).result = .ok (contentOf inner) := by
  unfold content
  rw [adaptFields_getElem?, hi]
  cases inner with
  | none => rfl
  | some n =>
    have hn : n.toRaw.AdaptsTo lenient n := h n rfl
    have hraw : (contentOf (some n)).rawInner = n.toRaw := rfl
    simp only [hraw, Option.map_some, hn.isList]
    exact Logged.bind_result_ok.2 ⟨n, hn _, rfl⟩

theorem adaptAttribute_raw (name : String) (kind : ValueKind) (text : String) (p : Path) :
    ((attributeOf name kind text).rawAttribute.adaptAttribute lenient p).result = .ok (attributeOf name kind text) := by
  cases kind <;> rfl

theorem adaptAttributes_raw {attributes : List Value}
    (h : ∀ a ∈ attributes, ∃ name kind text, a = attributeOf name kind text) (p : Path) (i : Nat) :
    (adaptAttributes lenient (attributes.map Value.rawAttribute) p i).result = .ok attributes := by
  induction attributes generalizing i with
  | nil => rfl
  | cons a rest ih =>
    obtain ⟨name, kind, text, rfl⟩ := h a List.mem_cons_self
    have hrest := ih (fun b hb => h b (List.mem_cons_of_mem _ hb)) (i + 1)
    refine Logged.bind_result_ok.2 ⟨attributeOf name kind text, adaptAttribute_raw name kind text (p.child i), ?_⟩
    exact Logged.bind_result_ok.2 ⟨rest, hrest, rfl⟩

theorem adaptStatement_result {v : Visit} {fields : List Field} {shape : Shape} {kind : ConstructKind} {what : String}
    {code : Nat} {fragment : String} {nested : Value} (hcode : v.items[code]? = some (.str fragment))
    (hbody : (body fields (code + 1)).result = .ok nested) :
    (adaptStatement v fields shape kind what code).result = .ok (.construct (.known kind) (.str fragment) nested) := by
  have htext : v.text shape.word what code = .ok fragment := by
    unfold Visit.text Visit.field
    rw [hcode]
    rfl
  exact Logged.bind_result_ok.2 ⟨fragment, htext, Logged.bind_result_ok.2 ⟨nested, hbody, rfl⟩⟩

/-- **What is written of a well-formed tree is read as that tree.** -/
theorem Node.WellFormed.toRaw_adaptsTo {n : Node} (h : n.WellFormed) : n.toRaw.AdaptsTo lenient n := by
  induction h with
  | lineBreak =>
    intro p
    rfl
  | @multi nodes _ ih =>
    intro p
    have hnodes := siblingsAdaptTo_of_forall ih p 1
    rw [toRaw, rawItems_childTuple, adapt_multi]
    exact Logged.bind_result_ok.2 ⟨nodes, hnodes, rfl⟩
  | @textBlock nodes _ ih =>
    intro p
    -- The type of the text is no list, so it is passed over, and the children start behind it.
    have hnodes := siblingsAdaptTo_of_forall ih p 3
    rw [toRaw, rawItems_childTuple]
    exact Logged.bind_result_ok.2 ⟨nodes, hnodes, rfl⟩
  | @statement kind fragment inner hkind _ ih =>
    intro p
    have hbody : ∀ {items : List Value} {i : Nat}, items[i]? = some (bodyOf inner).rawInner →
        (body (Value.adaptFields lenient items p 0) i).result = .ok (bodyOf inner) := fun hi => body_rawInner ih hi p
    cases kind with
    | embedded => exact absurd rfl hkind
    | control => exact adaptStatement_result rfl (hbody rfl)
    | interpolation => exact adaptStatement_result rfl (hbody rfl)
    | output => exact adaptStatement_result rfl (hbody rfl)
  | @embedded inner _ ih =>
    intro p
    have hbody : (body (Value.adaptFields lenient
        [.str "slim", .str "embedded", .null, (bodyOf inner).rawInner] p 0) 3).result = .ok (bodyOf inner) :=
      body_rawInner ih rfl p
    exact Logged.bind_result_ok.2 ⟨_, rfl, Logged.bind_result_ok.2 ⟨_, hbody, rfl⟩⟩
  | @tag name inner _ ih =>
    intro p
    let items : List Value := [.str "html", .str "tag", .str name, .null, (contentOf inner).rawInner]
    have hcontent : (content (Value.adaptFields lenient items p 0) 4).result = .ok (contentOf inner) :=
      content_rawInner ih rfl p
    exact Logged.bind_result_ok.2 ⟨name, rfl, Logged.bind_result_ok.2 ⟨_, hcontent, rfl⟩⟩
  | @attributes attributes h =>
    intro p
    exact Logged.bind_result_ok.2 ⟨attributes, adaptAttributes_raw h p 2, rfl⟩
  | @unrecognized raw items hraw h =>
    intro p
    rw [toRaw, Value.adapt_of_items lenient p hraw]
    exact assemble_unknown h

end Reading

/-! ## Lists of no shape -/

/-- The tags of a list name no shape: it is empty, its first item is no tag of a kind of shapes, or its first item is
the tag of a family and its second one, if there is any, is no tag of a shape of that family. -/
inductive NoShape : List Value → Prop
  | empty : NoShape []
  | kind {first : Value} {rest : List Value} (h : ∀ w ∈ ["multi", "newline", "slim", "html"], first.symbol? ≠ some w) :
      NoShape (first :: rest)
  | construct {first : Value} {rest : List Value} (hfirst : first.symbol? = some "slim")
      (h : ∀ w ∈ ["control", "interpolate", "output", "embedded", "text"], Shape.symbolAt rest 0 ≠ some w) :
      NoShape (first :: rest)
  | markup {first : Value} {rest : List Value} (hfirst : first.symbol? = some "html")
      (h : ∀ w ∈ ["tag", "attrs"], Shape.symbolAt rest 0 ≠ some w) : NoShape (first :: rest)

theorem Shape.find?_eq_none {family : List Shape} {tag : Option String} :
    Shape.find? family tag = none ↔ ∀ w ∈ family.map Shape.word, tag ≠ some w := by
  unfold Shape.find?
  rw [List.find?_eq_none]
  constructor
  · intro h w hw htag
    obtain ⟨s, hs, rfl⟩ := List.mem_map.1 hw
    exact h s hs (decide_eq_true htag.symm)
  · intro h s hs htag
    exact h s.word (List.mem_map_of_mem hs) (of_decide_eq_true htag).symm

theorem Shape.read_cons (first : Value) (rest : List Value) : Shape.read (first :: rest) =
    if first.symbol? = some "multi" then .known .multi
    else if first.symbol? = some "newline" then .known .newline
    else if first.symbol? = some "slim" then
      match find? constructs (symbolAt rest 0) with
      | some s => .known s
      | none => .unknownConstruct (symbolAt rest 0)
    else if first.symbol? = some "html" then
      match find? markups (symbolAt rest 0) with
      | some s => .known s
      | none => .unknownMarkup (symbolAt rest 0)
    else .unknownKind := by
  rfl

theorem NoShape.read_ne_known {items : List Value} (h : NoShape items) (s : Shape) : Shape.read items ≠ .known s := by
  cases h with
  | empty => nofun
  | kind h =>
    simp only [List.mem_cons, List.not_mem_nil, or_false, forall_eq_or_imp, forall_eq] at h
    obtain ⟨hmulti, hnewline, hslim, hhtml⟩ := h
    rw [Shape.read_cons, if_neg hmulti, if_neg hnewline, if_neg hslim, if_neg hhtml]
    nofun
  | @construct first rest hfirst h =>
    have hnone : Shape.find? Shape.constructs (Shape.symbolAt rest 0) = none := Shape.find?_eq_none.2 h
    simp [Shape.read_cons, hfirst, hnone]
  | @markup first rest hfirst h =>
    have hnone : Shape.find? Shape.markups (Shape.symbolAt rest 0) = none := Shape.find?_eq_none.2 h
    simp [Shape.read_cons, hfirst, hnone]

theorem NoShape.of_read {items : List Value} (h : ∀ s, Shape.read items ≠ .known s) : NoShape items := by
  cases items with
  | nil => exact .empty
  | cons first rest =>
    rw [Shape.read_cons] at h
    by_cases hmulti : first.symbol? = some "multi"
    · exact absurd (if_pos hmulti) (h .multi)
    rw [if_neg hmulti] at h
    by_cases hnewline : first.symbol? = some "newline"
    · exact absurd (if_pos hnewline) (h .newline)
    rw [if_neg hnewline] at h
    by_cases hslim : first.symbol? = some "slim"
    · rw [if_pos hslim] at h
      have hnone : Shape.find? Shape.constructs (Shape.symbolAt rest 0) = none :=
        Option.eq_none_iff_forall_ne_some.2 fun s hs => h s (by rw [hs])
      exact .construct hslim (Shape.find?_eq_none.1 hnone)
    rw [if_neg hslim] at h
    by_cases hhtml : first.symbol? = some "html"
    · rw [if_pos hhtml] at h
      have hnone : Shape.find? Shape.markups (Shape.symbolAt rest 0) = none :=
        Option.eq_none_iff_forall_ne_some.2 fun s hs => h s (by rw [hs])
      exact .markup hhtml (Shape.find?_eq_none.1 hnone)
    · refine .kind ?_
      simp [hmulti, hnewline, hslim, hhtml]

/-! ## The image -/

/-- **The trees that raw data stand for are the well-formed ones.** In strict and in lenient mode and at every path,
some raw data are adapted to a node if and only if it is well formed. The raw data that a well-formed tree may keep
unrecognized are the lists and tuples whose tags name no shape. -/
theorem adapt_image (lenient : Bool) (p : Path) :
    (∀ n : Node, (∃ raw : Value, (raw.adapt lenient p).result = .ok n) ↔ n.WellFormed) ∧
      ∀ raw : Value, (Node.unrecognized raw).WellFormed ↔ ∃ items, raw.items? = some items ∧ NoShape items := by
  constructor
  · intro n
    constructor
    · rintro ⟨raw, hraw⟩
      exact raw.adapt_wellFormed lenient p n hraw
    · intro h
      exact ⟨n.toRaw, h.toRaw_adaptsTo p⟩
  · intro raw
    constructor
    · intro h
      cases h with
      | unrecognized hraw h => exact ⟨_, hraw, .of_read h⟩
    · rintro ⟨items, hraw, h⟩
      exact .unrecognized hraw h.read_ne_known

end TemplateProjection
