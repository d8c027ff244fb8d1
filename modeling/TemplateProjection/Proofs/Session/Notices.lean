import TemplateProjection.Proofs.Grammar.Notices
import TemplateProjection.Proofs.Projection.Success
import TemplateProjection.Proofs.Projection.Total

/-!
# Dropped nodes are noted

Whatever is dropped is noted, once at each stage, and nothing else is noted (`dropped_nodes_noted`). Adapting notes the
lists that it keeps unrecognized; a projection notes the nodes that it comes to and drops. A well-formed tree holds
nothing that is dropped but unrecognized nodes and detached text blocks, so the notices of a request can be counted.
-/

namespace TemplateProjection

/-! ## What is dropped of well-formed trees -/

/-- The dropped nodes are text blocks and unrecognized nodes, whose raw data are among the kept ones, in order. -/
structure DroppedFrom (kept : List Value) (nodes : List Node) : Prop where
  raws : (nodes.filterMap Node.raw?).Sublist kept
  length : nodes.length = (nodes.filterMap Node.raw?).length + (nodes.filter Node.isTextBlock).length

theorem droppedFrom_nil (kept : List Value) : DroppedFrom kept [] := ⟨List.nil_sublist kept, rfl⟩

theorem DroppedFrom.append {kept more : List Value} {ms ns : List Node} (h : DroppedFrom kept ms)
    (h' : DroppedFrom more ns) : DroppedFrom (kept ++ more) (ms ++ ns) := by
  constructor
  · rw [List.filterMap_append]
    exact h.raws.append h'.raws
  · have hlength := h.length
    have hlength' := h'.length
    rw [List.filterMap_append, List.filter_append]
    simp only [List.length_append]
    omega

/-- What is dropped of the node comes from what it keeps, in a sequence and as a content. -/
structure Node.DropsKept (n : Node) : Prop where
  inSequence : DroppedFrom n.kept n.dropped
  asContent : DroppedFrom n.kept (Value.node n).droppedContent

theorem Node.DropsKept.of_inSequence {n : Node} (hblock : ∀ children, n ≠ .textBlock children)
    (h : DroppedFrom n.kept n.dropped) : n.DropsKept := by
  refine ⟨h, ?_⟩
  rw [Value.droppedContent_node hblock]
  exact h

theorem childTuple_droppedFrom {nodes : List Node} (h : ∀ n ∈ nodes, n.DropsKept) :
    DroppedFrom (childTuple nodes).kept (childTuple nodes).dropped := by
  rw [kept_childTuple, Value.dropped_nodes, childTuple_nodes]
  induction nodes with
  | nil => exact droppedFrom_nil []
  | cons n rest ih =>
    obtain ⟨hn, hrest⟩ := List.forall_mem_cons.1 h
    rw [List.flatMap_cons, List.flatMap_cons]
    exact hn.inSequence.append (ih hrest)

theorem bodyOf_droppedFrom {inner : Option Node} (h : ∀ n, inner = some n → n.DropsKept) :
    DroppedFrom (bodyOf inner).kept (bodyOf inner).dropped :=
  bodyOf_of_children (P := fun v => DroppedFrom v.kept v.dropped) (droppedFrom_nil [])
    (fun _ => childTuple_droppedFrom) h

theorem contentOf_droppedFrom {inner : Option Node} (h : ∀ n, inner = some n → n.DropsKept) :
    DroppedFrom (contentOf inner).kept (contentOf inner).droppedContent := by
  cases inner with
  | none => exact droppedFrom_nil []
  | some n => exact (h n rfl).asContent

theorem Node.WellFormed.dropsKept {n : Node} (h : n.WellFormed) : n.DropsKept := by
  induction h with
  | lineBreak => exact .of_inSequence nofun (droppedFrom_nil [])
  | multi _ ih => exact .of_inSequence nofun (childTuple_droppedFrom ih)
  | textBlock _ ih => exact ⟨⟨List.nil_sublist _, rfl⟩, childTuple_droppedFrom ih⟩
  | statement _ _ ih => exact .of_inSequence nofun (bodyOf_droppedFrom ih)
  | embedded _ ih => exact .of_inSequence nofun (bodyOf_droppedFrom ih)
  | tag _ ih => exact .of_inSequence nofun (contentOf_droppedFrom ih)
  | attributes _ => exact .of_inSequence nofun (droppedFrom_nil [])
  | @unrecognized raw _ _ _ => exact .of_inSequence nofun ⟨List.Sublist.refl [raw], rfl⟩

/-! ## Requests -/

/-- The notices of unknown lists lead to the raw data that the tree keeps. -/
theorem Value.adapt_leadsTo {lenient : Bool} {raw : Value} {p : Path} {n : Node}
    (h : (raw.adapt lenient p).result = .ok n) :
    List.Forall₂ (Notice.LeadsTo raw p) ((raw.adapt lenient p).log.filter Notice.isShape) n.kept :=
  (raw.adapt_accounted p n h).leadsTo fun _ hpl => Place.steps_of_mem_inOrder hpl

theorem Value.project_log {o : Options} {tree : Value} {level : Int} {isRoot : Bool} {m : Memo} {text : String}
    (h : ((tree.project o level isRoot).run m).result = .ok text) :
    ((tree.project o level isRoot).run m).log = tree.dropped.map Node.dropNotice :=
  (tree.project_succeedsAs (.refl o) level isRoot m text h).log

/-- A request that succeeds has adapted its raw data and projected the node. -/
theorem projectRaw_ok {o : Options} {raw : Value} {level : Int} {isRoot : Bool} {m : Memo} {text : String}
    (h : ((raw.projectRaw o level isRoot).run m).result = .ok text) :
    ∃ n, (raw.adapt o.lenientAttributes .root).result = .ok n ∧
      (((Value.node n).project o level isRoot).run m).result = .ok text ∧
      ((raw.projectRaw o level isRoot).run m).log =
        (raw.adapt o.lenientAttributes .root).log ++ (((Value.node n).project o level isRoot).run m).log := by
  unfold Value.projectRaw at h ⊢
  rw [Run.run_bind] at h ⊢
  cases hn : (raw.adapt o.lenientAttributes .root).result with
  | error e =>
    simp only [Run.ofLogged, hn] at h
    cases h
  | ok n =>
    simp only [Run.ofLogged, hn] at h ⊢
    exact ⟨n, rfl, h, rfl⟩

/-- **Dropped nodes are noted, each once at each stage, and nothing else is.** Raw data that are adapted have noted, in
the order of the document, the lists of no known shape and, for a lenient reader, the attributes whose dynamic value
ends before its code; the notices of the former are as many as the unrecognized nodes of the tree, and each names a path
that leads to what its node keeps. A projection that succeeds has noted the nodes that it came to and dropped, in order.
So a strict request that succeeds makes one notice for each unrecognized node of its tree, one more for each of these
that the projection comes to, and one for each detached text block that it comes to. -/
theorem dropped_nodes_noted :
    (∀ (lenient : Bool) (raw : Value) (p : Path) (n : Node), (raw.adapt lenient p).result = .ok n →
      (raw.adapt lenient p).log = (Place.inOrder ⟨.node, raw, p⟩).filterMap (Place.notice? lenient) ∧
      List.Forall₂ (Notice.LeadsTo raw p) ((raw.adapt lenient p).log.filter Notice.isShape) n.kept) ∧
    (∀ (o : Options) (tree : Value) (level : Int) (isRoot : Bool) (m : Memo) (text : String),
      ((tree.project o level isRoot).run m).result = .ok text →
        ((tree.project o level isRoot).run m).log = tree.dropped.map Node.dropNotice) ∧
    ∀ (o : Options) (raw : Value) (level : Int) (isRoot : Bool) (m : Memo) (text : String),
      o.lenientAttributes = false → ((raw.projectRaw o level isRoot).run m).result = .ok text →
        ∃ n, (raw.adapt false .root).result = .ok n ∧
          (reachedRaws (n.reached level isRoot)).Sublist n.kept ∧
          ((raw.projectRaw o level isRoot).run m).log.length = n.kept.length +
            (reachedRaws (n.reached level isRoot)).length + (n.dropped.filter Node.isTextBlock).length := by
  refine ⟨fun lenient raw p n hn => ⟨(raw.adapt_accounted p n hn).notices, Value.adapt_leadsTo hn⟩,
    fun o tree level isRoot m text => Value.project_log, ?_⟩
  intro o raw level isRoot m text hstrict htext
  obtain ⟨n, hn, htext, hlog⟩ := projectRaw_ok htext
  rw [hstrict] at hn hlog
  have hadapting : (raw.adapt false .root).log.length = n.kept.length := by
    have hshapes := (Value.adapt_leadsTo hn).length_eq
    rw [(raw.adapt_accounted .root n hn).isShape] at hshapes
    exact hshapes
  have hdrops : DroppedFrom n.kept n.dropped := (raw.adapt_wellFormed false .root n hn).dropsKept.inSequence
  have hprojecting : (((Value.node n).project o level isRoot).run m).log.length =
      (n.dropped.filterMap Node.raw?).length + (n.dropped.filter Node.isTextBlock).length := by
    rw [Value.project_log htext, List.length_map]
    exact hdrops.length
  refine ⟨n, hn, ?_⟩
  rw [n.dropsUnrecognized.inSequence level isRoot, hlog, List.length_append, hadapting, hprojecting, Nat.add_assoc]
  exact ⟨hdrops.raws, rfl⟩

/-- A page with three lists of no known shape: a comment, one inside the text of a cell, and one inside a text that
stands by itself, to which no projection comes. -/
theorem dropped_nodes_noted_page :
    let comment (words : List Value) := Value.list (.str "comment" :: words)
    let text (inner : Value) := Value.tuple [.str "slim", .str "text", .str "inline", inner]
    let cell := Value.list [.str "html", .str "tag", .str "td", .null, text (comment [.int 2])]
    let page := Value.list [.str "multi", comment [], cell, text (comment [.int 3])]
    let entry := Value.list [.str "html", .str "attr", .str "src", .list [.str "slim", .str "attrvalue"]]
    let attrs := Value.list [.str "html", .str "attrs", entry]
    let bogus := Node.construct (.unknown "bogus") .null (.tuple [.node .bare])
    (∃ n, (page.adapt false .root).result = .ok n ∧
      n.kept = [comment [], comment [.int 2], comment [.int 3]] ∧
      List.Forall₂ (Notice.LeadsTo page .root) ((page.adapt false .root).log.filter Notice.isShape) n.kept) ∧
    (attrs.adapt true .root).log = (Place.inOrder ⟨.node, attrs, .root⟩).filterMap (Place.notice? true) ∧
    (attrs.adapt true .root).log = [.valueWithoutCode "src" ⟨"root", [2]⟩] ∧
    (((Value.tuple [.node bogus, .node .bare]).project {} 0 true).run .empty).log =
      [.skippedConstruct "bogus", .skippedNode "Node"] ∧
    ((page.projectRaw {} 0 true).run .empty).log.length = 3 + 2 + 1 := by
  intro comment text cell page entry attrs bogus
  have hattrs : ∃ n, (attrs.adapt true .root).result = .ok n := ⟨_, rfl⟩
  have hpage : ∃ n, (page.adapt false .root).result = .ok n ∧
      n.kept = [comment [], comment [.int 2], comment [.int 3]] := ⟨_, rfl, rfl⟩
  obtain ⟨n, hn, hkept⟩ := hpage
  obtain ⟨_, hattrs⟩ := hattrs
  refine ⟨⟨n, hn, hkept, (dropped_nodes_noted.1 false page .root n hn).2⟩,
    (dropped_nodes_noted.1 true attrs .root _ hattrs).1, rfl,
    dropped_nodes_noted.2.1 {} _ 0 true .empty "" rfl, ?_⟩
  obtain ⟨n', hn', -, hcount⟩ := dropped_nodes_noted.2.2 {} page 0 true .empty _ rfl rfl
  obtain rfl := Except.ok.inj (hn.symm.trans hn')
  rw [hcount, hkept]
  cases hn
  rfl

end TemplateProjection
