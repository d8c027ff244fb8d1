import TemplateProjection.Proofs.Position.Walk
import TemplateProjection.Proofs.Projection.Returns

/-!
# Code keeps its position

A projected text is what the cursor's walk through the tree writes: every code fragment and every line end stands where
the walk places it, in the same order, everything else is spaces, and the walk ends where the text does
(`project_laidOut`).
-/

namespace TemplateProjection

open Run

variable {o : Options}

/-! ## Steps -/

theorem Value.padding_columns {head : Value} {padding : String} (h : head.padding o = .ok padding) :
    padding = spaces head.columns := by
  obtain ⟨width, hwidth, -, rfl⟩ := Value.padding_ok.1 h
  unfold Value.columns
  rw [hwidth]

/-- The line of a statement moves the cursor to its level and places its code. -/
theorem writes_statementHead {kind : ConstructKind} {fragment body : Value} {code : String}
    (h : shownCode (.known kind) fragment body = .ok code) (level : Nat) (w : Walk) :
    w.Writes (spaces (o.indentWidth * level) ++ code).toList ((w.indent o level).code fragment) := by
  obtain ⟨s, rfl, rfl⟩ := shownCode_ok.1 h
  rw [String.toList_append]
  exact (w.writes_spaces _).trans (Walk.writes_place _ _)

/-- The blank of a markup element moves the cursor to its level and over its head. -/
theorem writes_markupHead {head : Value} {padding : String} (h : head.padding o = .ok padding) (level : Nat)
    (w : Walk) : w.Writes (spaces (o.indentWidth * level) ++ padding).toList
      ((w.indent o level).right head.columns) := by
  rw [Value.padding_columns h, String.toList_append]
  exact (w.writes_spaces _).trans (Walk.writes_spaces _ _)

/-! ## Trees -/

/-- What the node returns, in a sequence or as a content, is what a walk through it writes. -/
structure Node.WritesItsWalk (o : Options) (n : Node) : Prop where
  inSequence : ∀ {level : Nat} {isRoot : Bool} {t : Option String}, (n.project o level isRoot).Returns t →
    ∀ w : Walk, w.Writes (t.getD "").toList (n.walk o level isRoot w)
  asContent : ∀ {level : Nat} {t : String}, ((Value.node n).projectContent o level).Returns t →
    ∀ w : Walk, w.Writes t.toList ((Value.node n).walkContent o level w)

theorem walkNodes_writes {level : Nat} {isRoot : Bool} : ∀ {nodes : List Node} {t : String},
    (∀ n ∈ nodes, n.WritesItsWalk o) → (projectNodes o level isRoot nodes).Returns t →
      ∀ w : Walk, w.Writes t.toList (walkNodes o level isRoot nodes w)
  | [], t, _, ht, w => by
    rw [projectNodes_returns_nil.1 ht]
    exact .nil w
  | n :: rest, t, h, ht, w => by
    obtain ⟨text, others, htext, hothers, rfl⟩ := projectNodes_returns_cons.1 ht
    have hn := (h n List.mem_cons_self).inSequence htext w
    have hrest := walkNodes_writes (fun m hm => h m (List.mem_cons_of_mem n hm)) hothers (n.walk o level isRoot w)
    rw [String.toList_append]
    exact hn.trans hrest

theorem Value.walk_writes {v : Value} (h : ∀ n ∈ v.nodes, n.WritesItsWalk o) {level : Nat} {isRoot : Bool}
    {t : String} (ht : (v.project o level isRoot).Returns t) (w : Walk) :
    w.Writes t.toList (v.walk o level isRoot w) := by
  rw [Value.walk_nodes]
  exact walkNodes_writes h (Value.project_returns.1 ht).2 w

theorem Value.walk_writes_body {body : Value} (h : ∀ n ∈ body.nodes, n.WritesItsWalk o) (level : Nat) {t : String}
    (ht : (body.projectBody o level).Returns t) (w : Walk) : w.Writes t.toList (body.walk o level false w) := by
  unfold Value.projectBody at ht
  split at ht
  · rename_i hnull
    rw [returns_pure.1 ht, Value.isNull_eq_true.1 hnull]
    exact .nil w
  · exact Value.walk_writes h ht w

theorem Value.walkContent_inPlace {n : Node} (h : n.inPlace = true) (level : Nat) (w : Walk) :
    (Value.node n).walkContent o level w = n.walk o level false w := by
  cases n with
  | textBlock children => cases h
  | construct kind fragment body =>
    cases kind with
    | unknown word => cases h
    | known kind =>
      rw [Node.inPlace, Bool.not_eq_true'] at h
      unfold Value.walkContent
      rw [h]
      rfl
  | _ => rfl

theorem Node.WritesItsWalk.of_inPlace {n : Node} (h : n.inPlace = true)
    (hn : ∀ {level : Nat} {isRoot : Bool} {t : Option String}, (n.project o level isRoot).Returns t →
      ∀ w : Walk, w.Writes (t.getD "").toList (n.walk o level isRoot w)) : n.WritesItsWalk o := by
  refine ⟨hn, fun ht w => ?_⟩
  obtain ⟨text, htext, rfl⟩ := (Value.content_inPlace_returns h).1 ht
  rw [Value.walkContent_inPlace h]
  exact hn htext w

/-- A node that is skipped does not move the cursor. -/
theorem writes_skip {n : Notice} {t : Option String} (ht : (skip n).Returns t) (w : Walk) :
    w.Writes (t.getD "").toList w := by
  rw [skip_returns.1 ht]
  exact .nil w

theorem Node.statement_writes {kind : ConstructKind} (hkind : kind ≠ .embedded) (fragment body : Value)
    (h : ∀ n ∈ body.nodes, n.WritesItsWalk o) : (Node.construct (.known kind) fragment body).WritesItsWalk o := by
  have hproject : ∀ {level : Nat} {isRoot : Bool} {t : Option String},
      ((Node.construct (.known kind) fragment body).project o level isRoot).Returns t →
        ∀ w : Walk, w.Writes (t.getD "").toList
          ((Node.construct (.known kind) fragment body).walk o level isRoot w) := by
    intro level isRoot t ht w
    obtain ⟨code, nested, hcode, hnested, rfl⟩ := (Node.statement_returns hkind).1 ht
    rw [Node.walk_statement o level isRoot hkind, Option.getD_some, String.toList_append]
    exact (writes_statementHead hcode level w).trans (Value.walk_writes_body h (level + 1) hnested _)
  refine ⟨hproject, fun {level t} ht w => ?_⟩
  rcases Node.content_cases (.construct (.known kind) fragment body) with
    hplace | ⟨_, hn⟩ | ⟨k, f, hk, hn⟩ | ⟨_, _, _, hn⟩
  · exact (WritesItsWalk.of_inPlace hplace hproject).asContent ht w
  · cases hn
  · cases hn
    obtain ⟨code, hcode, rfl⟩ := (Value.content_inline_returns hk).1 ht
    unfold Value.walkContent
    rw [hk, String.toList_append]
    exact (writes_statementHead hcode level w).trans (Walk.writes_lineEnd _)
  · cases hn

theorem Node.markup_writes (head content : Value) (h : ∀ n, content = .node n → n.WritesItsWalk o) :
    (Node.markup head content).WritesItsWalk o := by
  refine .of_inPlace rfl fun {level isRoot t} ht w => ?_
  obtain ⟨padding, text, hpadding, htext, rfl⟩ := Node.markup_returns.1 ht
  rw [Option.getD_some, String.toList_append]
  refine (writes_markupHead hpadding level w).trans ?_
  cases hc : content.node? with
  | none =>
    rw [Value.projectContent_not_node o level hc] at htext
    rw [returns_pure.1 htext]
    cases content <;> first | exact .nil _ | cases hc
  | some n =>
    obtain rfl := Value.node?_eq_some.1 hc
    exact (h n rfl).asContent htext _

/-- A walk through a node writes what the node returns. -/
theorem Node.writesItsWalk : ∀ n : Node, n.WritesItsWalk o :=
  TreeInduction.holds {
    bare := .of_inPlace rfl fun ht w => writes_skip ht w
    lineBreak := .of_inPlace rfl fun ht w => by
      rw [returns_pure.1 ht]
      exact w.writes_lineEnd
    unrecognized := fun _ => .of_inPlace rfl fun ht w => writes_skip ht w
    multi := fun children h => .of_inPlace rfl fun ht w => by
      obtain ⟨text, htext, rfl⟩ := Node.multi_returns.1 ht
      exact Value.walk_writes h htext w
    textBlock := fun children h => ⟨fun ht w => writes_skip ht w, fun ht w => Value.walk_writes h ht w⟩
    unknown := fun word fragment body => ⟨fun ht w => writes_skip ht w, fun ht _ => absurd ht returns_fail⟩
    embedded := fun fragment body h => .of_inPlace rfl fun {level isRoot t} ht w => by
      obtain ⟨text, htext, rfl⟩ := Node.embedded_returns.1 ht
      cases isRoot with
      | true => exact Value.walk_writes_body h 0 htext w
      | false => exact Value.walk_writes_body h (level + 1) htext w
    statement := fun kind fragment body hkind h => Node.statement_writes hkind fragment body h
    markup := fun head content h => Node.markup_writes head content h }

/-- **Code keeps its position.** If a tree is projected to a text, the text is laid out by the pieces that the cursor
places on its walk through the tree, and the walk ends at the end of the text. So every piece stands in the text at its
position. -/
theorem project_laidOut {tree : Value} {level : Nat} {isRoot : Bool} {text : String}
    (h : (tree.project o level isRoot).fresh.result = .ok text) :
    LaidOut .origin (tree.walk o level isRoot {}).pieces text.toList ∧
      (tree.walk o level isRoot {}).cursor = Cursor.origin.after text.toList ∧
        ∀ p ∈ (tree.walk o level isRoot {}).pieces, p.StandsIn text.toList := by
  have hwrites := Value.walk_writes (fun n _ => n.writesItsWalk) h {}
  obtain ⟨ps, hps, hlaid, hcursor⟩ := hwrites.laidOut
  have hpieces : (tree.walk o level isRoot {}).pieces = ps := hps
  rw [hpieces]
  exact ⟨hlaid, hcursor, hlaid.standsIn⟩

/-- Below a cell, whose output stays on the line, a control with two lines of code; in its body, a list of attributes
with an embedded block. -/
theorem project_laidOut_page :
    let cell := Node.markup (.tagHead (.str "td")) (.node (.construct (.known .output) (.str " x ") .null))
    let block := Node.construct (.known .embedded) .null
      (.tuple [.node (.construct (.known .control) (.str "y") .null), .node .lineBreak])
    let entry := Value.attr (.str "id") (.known .static) (.str "k")
    let attributes := Node.markup (.attrsHead (.tuple [entry]) .null) (.node block)
    let tree := Value.tuple [.node cell,
      .node (.construct (.known .control) (.str "if a\n or b") (.tuple [.node .lineBreak, .node attributes]))]
    let text := "      x\n  if a\n or b\n              y\n"
    let pieces := [⟨⟨0, 6⟩, "x"⟩, ⟨⟨0, 7⟩, "\n"⟩, ⟨⟨1, 2⟩, "if a\n or b"⟩, ⟨⟨2, 5⟩, "\n"⟩, ⟨⟨3, 14⟩, "y"⟩,
      ⟨⟨3, 15⟩, "\n"⟩]
    (tree.project {} 1 false).fresh.result = .ok text ∧ (tree.walk {} 1 false {}).pieces = pieces ∧
      LaidOut .origin pieces text.toList := by
  intro cell block entry attributes tree text pieces
  have hresult : (tree.project {} 1 false).fresh.result = .ok text := by rfl
  have hpieces : (tree.walk {} 1 false {}).pieces = pieces := by rfl
  have hlaid := (project_laidOut hresult).1
  rw [hpieces] at hlaid
  exact ⟨hresult, hpieces, hlaid⟩

end TemplateProjection
