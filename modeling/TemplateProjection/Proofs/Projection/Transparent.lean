import TemplateProjection.Proofs.Projection.Clauses
import TemplateProjection.Proofs.Run.Transparent

/-!
# The projection is transparent

Every step of a projection is transparent, and so is the projection of every value, whether it succeeds or fails
somewhere in the tree (`Value.project_transparent`). The commands of a session, the one that empties the memo apart, are
transparent too (`Command.run_transparent`).
-/

namespace TemplateProjection

open Run

variable (o : Options)

/-! ## Steps -/

theorem skip_transparent (n : Notice) : (skip n).Transparent o :=
  (note_transparent n).bind fun _ => pure_transparent _

theorem statementHead_transparent (kind : KindWord ConstructKind) (fragment body : Value) (level : Int) :
    (statementHead o kind fragment body level).Transparent o :=
  (indentation_transparent level).bind fun _ => (ofExcept_transparent _).bind fun _ => pure_transparent _

theorem markupHead_transparent (head : Value) (level : Int) : (markupHead o head level).Transparent o :=
  (indentation_transparent level).bind fun _ => (ofExcept_transparent _).bind fun _ => pure_transparent _

theorem inlineConstruct_transparent (kind : KindWord ConstructKind) (fragment body : Value) (level : Int) :
    (inlineConstruct o kind fragment body level).Transparent o :=
  (statementHead_transparent o kind fragment body level).bind fun _ => pure_transparent _

/-! ## Trees -/

/-- The node is projected transparently, in a sequence and as the content of a markup element. -/
structure Node.ProjectsTransparently (n : Node) : Prop where
  inSequence : ∀ (level : Int) (isRoot : Bool), (n.project o level isRoot).Transparent o
  asContent : ∀ level : Int, ((Value.node n).projectContent o level).Transparent o

variable {o}

theorem projectNodes_transparent (level : Int) (isRoot : Bool) : ∀ nodes : List Node,
    (∀ n ∈ nodes, n.ProjectsTransparently o) → (projectNodes o level isRoot nodes).Transparent o
  | [], _ => pure_transparent _
  | n :: rest, h =>
    have hrest := projectNodes_transparent level isRoot rest fun m hm => h m (List.mem_cons_of_mem n hm)
    ((h n List.mem_cons_self).inSequence level isRoot).bind fun _ => hrest.bind fun _ => pure_transparent _

/-- A value is as transparent as its nodes. -/
theorem Value.project_transparent_of_nodes {v : Value} (h : ∀ n ∈ v.nodes, n.ProjectsTransparently o) (level : Int)
    (isRoot : Bool) : (v.project o level isRoot).Transparent o := by
  cases hv : v.isSequence with
  | true =>
    rw [Value.project_sequence o level isRoot hv]
    exact projectNodes_transparent level isRoot v.nodes h
  | false =>
    rw [Value.project_not_sequence o level isRoot hv]
    exact fail_transparent _

theorem Value.projectBody_transparent {body : Value} (h : ∀ n ∈ body.nodes, n.ProjectsTransparently o) (level : Int) :
    (body.projectBody o level).Transparent o := by
  unfold Value.projectBody
  split
  · exact pure_transparent _
  · exact Value.project_transparent_of_nodes h level false

theorem Value.projectContent_transparent_of_node {content : Value}
    (h : ∀ n, content = .node n → n.ProjectsTransparently o) (level : Int) :
    (content.projectContent o level).Transparent o := by
  cases hc : content.node? with
  | none =>
    rw [Value.projectContent_not_node o level hc]
    exact pure_transparent _
  | some n =>
    obtain rfl := Value.node?_eq_some.1 hc
    exact (h n rfl).asContent level

/-- A node that stands in its place as a content is projected there as in a sequence. -/
theorem Node.ProjectsTransparently.of_inPlace {n : Node} (h : n.inPlace = true)
    (hn : ∀ (level : Int) (isRoot : Bool), (n.project o level isRoot).Transparent o) : n.ProjectsTransparently o := by
  refine ⟨hn, fun level => ?_⟩
  rw [Value.projectContent_inPlace o level h]
  exact (hn level false).map _

theorem Node.statement_transparent {kind : ConstructKind} (hkind : kind ≠ .embedded) (fragment body : Value)
    (h : ∀ n ∈ body.nodes, n.ProjectsTransparently o) :
    (Node.construct (.known kind) fragment body).ProjectsTransparently o := by
  have hproject : ∀ (level : Int) (isRoot : Bool),
      ((Node.construct (.known kind) fragment body).project o level isRoot).Transparent o := by
    intro level isRoot
    rw [Node.project_statement o level isRoot hkind]
    exact (statementHead_transparent o _ fragment body level).bind fun _ =>
      (Value.projectBody_transparent h _).bind fun _ => pure_transparent _
  refine ⟨hproject, fun level => ?_⟩
  rcases Node.content_cases (.construct (.known kind) fragment body) with
    hplace | ⟨_, hn⟩ | ⟨k, f, hk, hn⟩ | ⟨_, _, _, hn⟩
  · exact (ProjectsTransparently.of_inPlace hplace hproject).asContent level
  · cases hn
  · cases hn
    rw [Value.projectContent_inline o level hk]
    exact inlineConstruct_transparent o _ _ _ level
  · cases hn

theorem Node.projectsTransparently : ∀ n : Node, n.ProjectsTransparently o :=
  TreeInduction.holds {
    bare := .of_inPlace rfl fun _ _ => skip_transparent o _
    lineBreak := .of_inPlace rfl fun _ _ => pure_transparent _
    unrecognized := fun _ => .of_inPlace rfl fun _ _ => skip_transparent o _
    multi := fun _ h => .of_inPlace rfl fun level isRoot =>
      (Value.project_transparent_of_nodes h level isRoot).bind fun _ => pure_transparent _
    textBlock := fun _ h => ⟨fun _ _ => skip_transparent o _, fun level =>
      Value.project_transparent_of_nodes h level false⟩
    unknown := fun _ _ _ => ⟨fun _ _ => skip_transparent o _, fun _ => fail_transparent _⟩
    embedded := fun fragment body h => .of_inPlace rfl fun level isRoot => by
      rw [Node.project_embedded]
      exact (Value.projectBody_transparent h _).map _
    statement := fun _ fragment body hkind h => Node.statement_transparent hkind fragment body h
    markup := fun head content h => .of_inPlace rfl fun level isRoot =>
      (markupHead_transparent o head level).bind fun _ =>
        (Value.projectContent_transparent_of_node h level).bind fun _ => pure_transparent _ }

/-- Whatever the value, its projection is transparent. -/
theorem Value.project_transparent (v : Value) (level : Int) (isRoot : Bool) :
    (v.project o level isRoot).Transparent o :=
  Value.project_transparent_of_nodes (fun n _ => n.projectsTransparently) level isRoot

theorem Value.projectContent_transparent (content : Value) (level : Int) :
    (content.projectContent o level).Transparent o :=
  Value.projectContent_transparent_of_node (fun n _ => n.projectsTransparently) level

/-! ## Commands -/

theorem Value.projectRaw_transparent (raw : Value) (level : Int) (isRoot : Bool) :
    (raw.projectRaw o level isRoot).Transparent o :=
  (ofLogged_transparent _).bind fun _ => Value.project_transparent _ level isRoot

theorem Value.projectNode_transparent (node : Value) (level : Int) (isRoot : Bool) :
    (node.projectNode o level isRoot).Transparent o := by
  cases node with
  | node n => exact n.projectsTransparently.inSequence level isRoot
  | _ => exact skip_transparent o _

/-- Only an emptied memo shows what the memo was. -/
theorem Command.run_transparent {c : Command} (h : c ≠ .clear) : (c.run o).Transparent o := by
  cases c with
  | project tree level isRoot => exact (tree.project_transparent level isRoot).map _
  | projectRaw raw level isRoot => exact (raw.projectRaw_transparent level isRoot).map _
  | projectNode node level isRoot => exact node.projectNode_transparent level isRoot
  | markup head content level => exact (Node.projectsTransparently _).inSequence level false
  | padding head => exact (ofExcept_transparent _).map _
  | indentation level => exact (indentation_transparent level).map _
  | clear => exact absurd rfl h

end TemplateProjection
