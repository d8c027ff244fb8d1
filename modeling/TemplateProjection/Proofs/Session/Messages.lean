import TemplateProjection.Proofs.Grammar.Messages
import TemplateProjection.Proofs.Projection.Messages
import TemplateProjection.Proofs.Projection.Total
import TemplateProjection.Proofs.Value.SummaryLength
import TemplateProjection.Session

/-!
# Messages of errors

Whatever a template holds, the message of an error consists of the lines that belong to it and no others, as long as the
objects of other types in it write lines; and the value at fault takes a bounded part of the message
(`messages_on_lines`).
-/

namespace TemplateProjection

open Text

/-! ## Adapted trees -/

/-- No text is reported for the width of any head that is reached through the node. -/
structure Node.ReportsNoText (n : Node) : Prop where
  inSequence : ∀ (level : Int) (isRoot : Bool), ReportNoText (n.reached level isRoot)
  asContent : ∀ level : Int, ReportNoText ((Value.node n).reachedContent level)

theorem Node.ReportsNoText.of_inSequence {n : Node} (hblock : ∀ children, n ≠ .textBlock children)
    (h : ∀ (level : Int) (isRoot : Bool), ReportNoText (n.reached level isRoot)) : n.ReportsNoText := by
  refine ⟨h, fun level => ?_⟩
  rw [Value.reachedContent_node hblock]
  exact h level false

theorem childTuple_reportNoText {nodes : List Node} (h : ∀ n ∈ nodes, n.ReportsNoText) (level : Int) (isRoot : Bool) :
    ReportNoText ((childTuple nodes).reached level isRoot) := by
  rw [Value.reached_nodes, childTuple_nodes]
  intro r hr
  obtain ⟨n, hn, hr⟩ := List.mem_flatMap.1 hr
  exact (h n hn).inSequence level isRoot r hr

theorem bodyOf_reportNoText {inner : Option Node} (h : ∀ n, inner = some n → n.ReportsNoText) (level : Int) :
    ReportNoText ((bodyOf inner).reached level false) := by
  refine bodyOf_of_children (P := fun v => ReportNoText (v.reached level false)) eachHead_nil (fun nodes hn => ?_) h
  exact childTuple_reportNoText hn level false

theorem contentOf_reportNoText {inner : Option Node} (h : ∀ n, inner = some n → n.ReportsNoText) (level : Int) :
    ReportNoText ((contentOf inner).reachedContent level) := by
  cases inner with
  | none => exact eachHead_nil
  | some n => exact (h n rfl).asContent level

/-- No width is reported for the heads of adapted trees. -/
theorem Node.WellFormed.reportsNoText {n : Node} (h : n.WellFormed) : n.ReportsNoText := by
  induction h with
  | lineBreak => exact .of_inSequence nofun fun _ _ => eachHead_nil.cons (by nofun)
  | multi _ ih =>
    refine .of_inSequence nofun fun level isRoot => ?_
    exact (childTuple_reportNoText ih level isRoot).cons (by nofun)
  | textBlock _ ih =>
    refine ⟨fun _ _ => eachHead_nil.cons (by nofun), fun level => ?_⟩
    exact (childTuple_reportNoText ih level false).cons (by nofun)
  | statement hkind _ ih =>
    refine .of_inSequence nofun fun level isRoot => ?_
    rw [Node.reached_statement hkind]
    exact (bodyOf_reportNoText ih _).cons (by nofun)
  | embedded _ ih => exact .of_inSequence nofun fun level isRoot => (bodyOf_reportNoText ih _).cons (by nofun)
  | tag _ ih => exact .of_inSequence nofun fun level _ => (contentOf_reportNoText ih level).cons_markup (by nofun)
  | attributes _ => exact .of_inSequence nofun fun level _ => eachHead_nil.cons_markup (by nofun)
  | unrecognized _ _ => exact .of_inSequence nofun fun _ _ => eachHead_nil.cons (by nofun)

/-! ## Commands -/

/-- If the command brings a tree, no text is reported for the width of any head that is reached. -/
def Command.ReportsNoText : Command → Prop
  | .project tree level isRoot => ReportNoText (tree.reached level isRoot)
  | .projectNode node level isRoot => ReportNoText (node.reached level isRoot)
  | .markup head content level => ReportNoText ((Node.markup head content).reached level false)
  | .padding head => head.ReportsNoText
  | .projectRaw _ _ _ | .indentation _ | .clear => True

/-- What the command brings; null stands for nothing. -/
def Command.subject : Command → Value
  | .project tree _ _ => tree
  | .projectRaw raw _ _ => raw
  | .projectNode node _ _ => node
  | .markup head content _ => .node (.markup head content)
  | .padding head => head
  | .indentation _ | .clear => .null

theorem root_isLine : IsLine Path.root.base := by decide

theorem Value.projectRaw_failsOnLines (o : Options) {raw : Value} (hraw : raw.ObjectsOnLines) (level : Int)
    (isRoot : Bool) : (raw.projectRaw o level isRoot).FailsOnLines := by
  have hadapt : (Run.ofLogged (raw.adapt o.lenientAttributes .root)).FailsOnLines := fun _ _ he =>
    Value.adapt_onLines hraw root_isLine he
  refine hadapt.bind_of_ok fun _ n hn => ?_
  have hreported : n.ReportsNoText := (raw.adapt_wellFormed o.lenientAttributes .root n hn).reportsNoText
  exact Value.project_failsOnLines (Value.adapt_objectsOnLines hraw hn) level isRoot
    (hreported.inSequence level isRoot)

theorem Command.failsOnLines (o : Options) {c : Command} (h : c.ReportsNoText) (hc : c.subject.ObjectsOnLines) :
    (c.run o).FailsOnLines := by
  cases c with
  | project tree level isRoot => exact (Value.project_failsOnLines (v := tree) hc level isRoot h).map some
  | projectRaw raw level isRoot => exact (Value.projectRaw_failsOnLines o hc level isRoot).map some
  | projectNode node level isRoot =>
    cases node with
    | node n => exact (n.failsOnLines hc).inSequence level isRoot h
    | _ => exact skip_failsOnLines _
  | markup head content level => exact ((Node.markup head content).failsOnLines hc).inSequence level false h
  | padding head => exact (Run.FailsOnLines.ofExcept fun _ => Value.padding_onLines hc h).map some
  | indentation level => exact (Run.FailsOnLines.indentation o level).map some
  | clear => exact nofun

end TemplateProjection
