import TemplateProjection.Proofs.Grammar.FirstViolation
import TemplateProjection.Proofs.Raw.WellFormed
import TemplateProjection.Proofs.Width.Attributes

/-!
# Adapted trees are projected

A well-formed tree is projected to a text at every level that is not negative (`Node.WellFormed.givesText`): its
statements have their code, its bodies and contents can be gone through, and its heads can be measured and report no
width. So a request on raw data fails only where adapting them fails (`adapted_projects`).
-/

namespace TemplateProjection

open Run

variable {o : Options}

/-! ## Heads -/

/-- The padding of a head with no reported width is as wide as the head. -/
theorem padding_of_headWidth {head : Value} {width : Nat} (h : head.headWidth = .ok width)
    (hreported : head.sourceWidth = .null) : head.padding o = .ok (spaces width) := by
  refine Value.padding_ok.2 ⟨width, h, fun _ => ?_, rfl⟩
  rw [hreported]
  rfl

theorem attributeOf_width (name : String) (kind : ValueKind) (text : String) :
    (attributeOf name kind text).attributeWidth = .ok (name.length + text.length) := rfl

theorem attributes_measurable {attributes : List Value}
    (h : ∀ a ∈ attributes, ∃ name kind text, a = attributeOf name kind text) : ∀ a ∈ attributes, a.IsMeasurable := by
  intro a ha
  obtain ⟨name, kind, text, rfl⟩ := h a ha
  exact .attr _ rfl rfl

/-- A list of attributes has a padding. -/
theorem attributes_padding {attributes : List Value}
    (h : ∀ a ∈ attributes, ∃ name kind text, a = attributeOf name kind text) :
    ∃ padding, (Value.attrsHead (.tuple attributes) .null).padding o = .ok padding :=
  ⟨_, padding_of_headWidth ((attrsHead_headWidth_ok rfl).2 ⟨attributes_measurable h, rfl⟩) rfl⟩

/-! ## Trees -/

/-- The node is projected at every level, in a sequence and as the content of a markup element. -/
structure Node.GivesText (o : Options) (n : Node) : Prop where
  inSequence : ∀ (level : Nat) (isRoot : Bool), ∃ t, (n.project o level isRoot).Returns t
  asContent : ∀ level : Nat, ∃ t, ((Value.node n).projectContent o level).Returns t

theorem Node.GivesText.of_inPlace {n : Node} (h : n.inPlace = true)
    (hn : ∀ (level : Nat) (isRoot : Bool), ∃ t, (n.project o level isRoot).Returns t) : n.GivesText o := by
  refine ⟨hn, fun level => ?_⟩
  obtain ⟨t, ht⟩ := hn level false
  exact ⟨t.getD "", (Value.content_inPlace_returns h).2 ⟨t, ht, rfl⟩⟩

theorem projectNodes_givesText {level : Nat} {isRoot : Bool} : ∀ {nodes : List Node}, (∀ n ∈ nodes, n.GivesText o) →
    ∃ t, (projectNodes o level isRoot nodes).Returns t
  | [], _ => ⟨"", projectNodes_returns_nil.2 rfl⟩
  | n :: rest, h => by
    obtain ⟨text, htext⟩ := (h n List.mem_cons_self).inSequence level isRoot
    obtain ⟨others, hothers⟩ := projectNodes_givesText fun m hm => h m (List.mem_cons_of_mem n hm)
    exact ⟨_, projectNodes_returns_cons.2 ⟨text, others, htext, hothers, rfl⟩⟩

theorem childTuple_givesText {nodes : List Node} (h : ∀ n ∈ nodes, n.GivesText o) (level : Nat) (isRoot : Bool) :
    ∃ t, ((childTuple nodes).project o level isRoot).Returns t := by
  obtain ⟨t, ht⟩ : ∃ t, (projectNodes o level isRoot nodes).Returns t := projectNodes_givesText h
  refine ⟨t, Value.project_returns.2 ⟨rfl, ?_⟩⟩
  rw [childTuple_nodes]
  exact ht

theorem bodyOf_givesText {inner : Option Node} (h : ∀ n, inner = some n → n.GivesText o) (level : Nat) :
    ∃ t, ((bodyOf inner).projectBody o level).Returns t := by
  cases inner with
  | none => exact ⟨"", returns_pure.2 rfl⟩
  | some n =>
    refine childTuple_givesText (fun m hm => ?_) level false
    obtain rfl := List.mem_singleton.1 hm
    exact h m rfl

theorem contentOf_givesText {inner : Option Node} (h : ∀ n, inner = some n → n.GivesText o) (level : Nat) :
    ∃ t, ((contentOf inner).projectContent o level).Returns t := by
  cases inner with
  | none => exact ⟨"", returns_pure.2 rfl⟩
  | some n => exact (h n rfl).asContent level

theorem Node.markup_givesText {head content : Value} (hhead : ∃ padding, head.padding o = .ok padding)
    (hcontent : ∀ level : Nat, ∃ t, (content.projectContent o level).Returns t) :
    (Node.markup head content).GivesText o := by
  refine .of_inPlace rfl fun level isRoot => ?_
  obtain ⟨padding, hpadding⟩ := hhead
  obtain ⟨text, htext⟩ := hcontent level
  exact ⟨_, Node.markup_returns.2 ⟨padding, text, hpadding, htext, rfl⟩⟩

theorem Node.statement_givesText {kind : ConstructKind} (hkind : kind ≠ .embedded) {fragment : String}
    {inner : Option Node} (h : ∀ n, inner = some n → n.GivesText o) :
    (Node.construct (.known kind) (.str fragment) (bodyOf inner)).GivesText o := by
  have hproject : ∀ (level : Nat) (isRoot : Bool),
      ∃ t, ((Node.construct (.known kind) (.str fragment) (bodyOf inner)).project o level isRoot).Returns t := by
    intro level isRoot
    obtain ⟨nested, hnested⟩ := bodyOf_givesText h (level + 1)
    exact ⟨_, (Node.statement_returns hkind).2 ⟨_, nested, rfl, hnested, rfl⟩⟩
  refine ⟨hproject, fun level => ?_⟩
  rcases Node.content_cases (.construct (.known kind) (.str fragment) (bodyOf inner)) with
    hplace | ⟨_, hn⟩ | ⟨k, f, hk, hn⟩ | ⟨_, _, _, hn⟩
  · exact (GivesText.of_inPlace hplace hproject).asContent level
  · cases hn
  · -- The body is null, so the statement stands on the line of the head.
    obtain ⟨hkind, -, hbody⟩ := Node.construct.inj hn
    obtain rfl := KindWord.known.inj hkind
    rw [hbody]
    exact ⟨_, (Value.content_inline_returns hk).2 ⟨_, rfl, rfl⟩⟩
  · cases hn

/-- A well-formed tree is projected. -/
theorem Node.WellFormed.givesText {n : Node} (h : n.WellFormed) : n.GivesText o := by
  induction h with
  | lineBreak => exact .of_inPlace rfl fun _ _ => ⟨some "\n", returns_pure.2 rfl⟩
  | multi _ ih =>
    refine .of_inPlace rfl fun level isRoot => ?_
    obtain ⟨text, htext⟩ := childTuple_givesText ih level isRoot
    exact ⟨some text, Node.multi_returns.2 ⟨text, htext, rfl⟩⟩
  | textBlock _ ih =>
    exact ⟨fun _ _ => ⟨none, skip_returns.2 rfl⟩, fun level => childTuple_givesText ih level false⟩
  | statement hkind _ ih => exact Node.statement_givesText hkind ih
  | embedded _ ih =>
    refine .of_inPlace rfl fun level isRoot => ?_
    obtain ⟨text, htext⟩ := bodyOf_givesText ih (if isRoot then 0 else level + 1)
    refine ⟨some text, Node.embedded_returns.2 ⟨text, ?_, rfl⟩⟩
    cases isRoot <;> exact htext
  | tag _ ih => exact Node.markup_givesText ⟨_, padding_of_headWidth rfl rfl⟩ (contentOf_givesText ih)
  | attributes h => exact Node.markup_givesText (attributes_padding h) fun _ => ⟨"", returns_pure.2 rfl⟩
  | unrecognized _ _ => exact .of_inPlace rfl fun _ _ => ⟨none, skip_returns.2 rfl⟩

/-! ## Requests -/

theorem adapted_givesText {raw : Value} {p : Path} {n : Node} (h : (raw.adapt o.lenientAttributes p).result = .ok n) :
    n.GivesText o := (raw.adapt_wellFormed o.lenientAttributes p n h).givesText

/-- An adapted node is projected as a sequence of its own. -/
theorem adapted_project_returns {raw : Value} {p : Path} {n : Node}
    (h : (raw.adapt o.lenientAttributes p).result = .ok n) (level : Nat) (isRoot : Bool) :
    ∃ text, ((Value.node n).project o level isRoot).Returns text := by
  have hnodes : ∀ m ∈ [n], m.GivesText o := fun m hm => List.mem_singleton.1 hm ▸ adapted_givesText h
  obtain ⟨t, ht⟩ := projectNodes_givesText hnodes
  exact ⟨t, Value.project_returns.2 ⟨rfl, ht⟩⟩

/-- A request on raw data fails where adapting them fails, and nowhere else. -/
theorem projectRaw_error_iff {raw : Value} {level : Nat} {isRoot : Bool} {e : Error} :
    (raw.projectRaw o level isRoot).fresh.result = .error e ↔
      (raw.adapt o.lenientAttributes .root).result = .error e := by
  rw [Value.projectRaw, fresh_bind (ofLogged_transparent (o := o) _) fun n =>
    (Value.node n).project_transparent level isRoot]
  show (raw.adapt o.lenientAttributes .root >>= fun n => _).result = _ ↔ _
  cases hr : (raw.adapt o.lenientAttributes .root).result with
  | error e' =>
    rw [Logged.bind_error hr]
    exact ⟨fun h => congrArg _ (Except.error.inj h), fun h => congrArg _ (Except.error.inj h)⟩
  | ok n =>
    obtain ⟨text, htext⟩ := adapted_project_returns hr level isRoot
    have hresult : ((Value.node n).project o level isRoot).fresh.result = .ok text := htext
    rw [Logged.bind_ok hr, hresult]
    exact ⟨nofun, nofun⟩

/-- **What is adapted is projected.** With the same options, a node that raw data are adapted to is projected to a text,
at every level that is not negative and at the root or below. Hence a request on raw data fails exactly with the error
of adapting them, and that is the failure of a malformed node. -/
theorem adapted_projects (o : Options) (raw : Value) (level : Nat) (isRoot : Bool) :
    (∀ p n, (raw.adapt o.lenientAttributes p).result = .ok n →
      ∃ text, ((Value.node n).project o level isRoot).fresh.result = .ok text) ∧
    (∀ e, (raw.projectRaw o level isRoot).fresh.result = .error e ↔
      (raw.adapt o.lenientAttributes .root).result = .error e) ∧
    ∀ e, (raw.projectRaw o level isRoot).fresh.result = .error e → ∃ f, e = .failure f ∧ f.IsMalformedNode := by
  refine ⟨fun p n h => adapted_project_returns h level isRoot, fun e => projectRaw_error_iff, fun e he => ?_⟩
  obtain ⟨f, hf, hfirst⟩ := adapt_error_iff.1 (projectRaw_error_iff.1 he)
  exact ⟨f, hf, hfirst.isMalformedNode⟩

/-- A lenient reader takes an attribute without code, and a cell whose output holds a text; an output that follows
without its code makes the whole request fail. -/
theorem adapted_projects_lenient :
    let o : Options := { lenientAttributes := true }
    let page := Value.list [.str "multi",
      .list [.str "html", .str "tag", .str "td", .null, .list [.str "slim", .str "output", .bool true, .str " x ",
        .list [.str "slim", .str "text", .str "inline", .list [.str "newline"]]]],
      .list [.str "html", .str "attrs", .list [.str "html", .str "attr", .str "id", .list [.str ":dynamic"]]]]
    let broken := Value.tuple [.str "multi", page, .list [.str "slim", .str "output", .bool true]]
    let failure : Failure :=
      ⟨.missingField "output" "code" 3, some ⟨"root", [2]⟩, .list [.str "slim", .str "output", .bool true]⟩
    (∃ n, (page.adapt true .root).result = .ok n ∧
      ∃ text, ((Value.node n).project o 2 false).fresh.result = .ok text) ∧
    (broken.projectRaw o 0 true).fresh.result = .error (.failure failure) ∧ failure.IsMalformedNode := by
  intro o page broken failure
  have hbroken : (broken.projectRaw o 0 true).fresh.result = .error (.failure failure) := by rfl
  refine ⟨⟨_, rfl, (adapted_projects o page 2 false).1 .root _ rfl⟩, hbroken, ?_⟩
  obtain ⟨f, hf, hmalformed⟩ := (adapted_projects o broken 0 true).2.2 _ hbroken
  exact Error.failure.inj hf ▸ hmalformed

end TemplateProjection
