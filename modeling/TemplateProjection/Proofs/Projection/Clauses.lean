import TemplateProjection.Proofs.Value.Nodes
import TemplateProjection.Projection

/-!
# The clauses of the projection

One equation for each rule of the projection. A sequence is projected by its nodes alone (`Value.project_sequence`): an
entry that is no node leaves no trace. A markup element's content is of one of four forms (`Node.content_cases`), each
with its own equation.
-/

namespace TemplateProjection

variable (o : Options) (level : Int) (isRoot : Bool)

theorem Value.isNull_eq_true {v : Value} : v.isNull = true ↔ v = .null := by cases v <;> simp [Value.isNull]

/-! ## Sequences -/

/-- The texts of nodes in turn. -/
def projectNodes : List Node → Run String
  | [] => pure ""
  | n :: rest => do
    let text ← n.project o level isRoot
    let others ← projectNodes rest
    pure (text.getD "" ++ others)

/-- The value can be gone through as a sequence of siblings. -/
def Value.isSequence (v : Value) : Bool := v.elements?.isSome || v.node?.isSome

theorem Value.isSequence_of_isList {v : Value} (h : v.isList = true) : v.isSequence = true := by
  cases v <;> first | rfl | cases h

theorem Value.projectAll_nodes : ∀ items : List Value,
    Value.projectAll o items level isRoot = projectNodes o level isRoot (items.filterMap Value.node?)
  | [] => rfl
  | v :: rest => by
    have hrest := Value.projectAll_nodes rest
    cases v with
    | node n =>
      show (n.project o level isRoot >>= fun text => Value.projectAll o rest level isRoot >>= fun others =>
        pure (text.getD "" ++ others)) = _
      rw [hrest]
      rfl
    | _ => exact hrest

/-- A dictionary is the sequence of its keys. -/
theorem Value.projectKeys_eq : ∀ entries : List (Value × Value),
    Value.projectKeys o entries level isRoot = Value.projectAll o (entries.map Prod.fst) level isRoot
  | [] => rfl
  | (key, _) :: rest => by
    have hrest := Value.projectKeys_eq rest
    cases key with
    | node n =>
      show (n.project o level isRoot >>= fun text => Value.projectKeys o rest level isRoot >>= fun others =>
        pure (text.getD "" ++ others)) = _
      rw [hrest]
      rfl
    | _ => exact hrest

/-- Only the nodes of a sequence count. -/
theorem Value.project_sequence {v : Value} (h : v.isSequence = true) :
    v.project o level isRoot = projectNodes o level isRoot v.nodes := by
  cases v with
  | list items | tuple items | collection _ items => exact Value.projectAll_nodes o level isRoot items
  | dict entries => exact (Value.projectKeys_eq o level isRoot entries).trans (Value.projectAll_nodes o level isRoot _)
  | node n =>
    show _ = (n.project o level isRoot >>= fun text => pure "" >>= fun others => pure (text.getD "" ++ others))
    simp only [pure_bind, String.append_empty]
    rfl
  | str s => rfl
  | _ => cases h

theorem projectNodes_append : ∀ ms ns : List Node, projectNodes o level isRoot (ms ++ ns) = (do
    let front ← projectNodes o level isRoot ms
    let back ← projectNodes o level isRoot ns
    pure (front ++ back))
  | [], ns => by
    show _ = (pure "" >>= fun front => _ : Run String)
    simp only [pure_bind, String.empty_append, bind_pure, List.nil_append]
  | n :: ms, ns => by
    rw [List.cons_append, projectNodes, projectNodes, projectNodes_append ms ns]
    simp only [bind_assoc, pure_bind, String.append_assoc]

theorem Value.project_of_elements {v : Value} {items : List Value} (h : v.elements? = some items) :
    v.project o level isRoot = projectNodes o level isRoot (items.filterMap Value.node?) := by
  have hv : v.isSequence = true := by rw [isSequence, h]; rfl
  rw [project_sequence o level isRoot hv, nodes_of_elements h]

theorem Value.project_not_sequence {v : Value} (h : v.isSequence = false) :
    v.project o level isRoot = .fail (.access (.notIterable v.typeName)) := by
  cases v <;> first | rfl | cases h

/-- Without nodes, there is nothing that the options decide. -/
theorem Value.project_of_no_nodes {v : Value} (h : v.nodes = []) (o o' : Options) :
    v.project o level isRoot = v.project o' level isRoot := by
  cases hv : v.isSequence with
  | false => rw [project_not_sequence o level isRoot hv, project_not_sequence o' level isRoot hv]
  | true =>
    rw [project_sequence o level isRoot hv, project_sequence o' level isRoot hv, h]
    rfl

/-! ## Constructs -/

/-- The text of a nested body, of which there may be none. -/
def Value.projectBody (body : Value) : Run String := if body.isNull then pure "" else body.project o level false

theorem Node.project_embedded (fragment body : Value) :
    (Node.construct (.known .embedded) fragment body).project o level isRoot =
      some <$> body.projectBody o (embeddedLevel level isRoot) := by
  unfold Node.project Value.projectBody
  split <;> rfl

theorem Node.project_statement {kind : ConstructKind} (h : kind ≠ .embedded) (fragment body : Value) :
    (Node.construct (.known kind) fragment body).project o level isRoot = (do
      let line ← statementHead o (.known kind) fragment body level
      let nested ← body.projectBody o (level + 1)
      pure (some (line ++ nested))) := by
  cases kind with
  | embedded => exact absurd rfl h
  | _ =>
    unfold Node.project Value.projectBody
    refine bind_congr fun line => ?_
    split <;> rfl

/-! ## Contents -/

/-- As a markup element's content, the node is projected as it is in a sequence. -/
def Node.inPlace : Node → Bool
  | .construct (.unknown _) _ _ => false
  | .construct (.known kind) _ body => !(kind.isInline && body.isNull)
  | .textBlock _ => false
  | _ => true

theorem Node.content_cases (n : Node) : n.inPlace = true ∨ (∃ children, n = .textBlock children) ∨
    (∃ kind fragment, kind.isInline = true ∧ n = .construct (.known kind) fragment .null) ∨
      ∃ word fragment body, n = .construct (.unknown word) fragment body := by
  cases n with
  | textBlock children => exact .inr (.inl ⟨children, rfl⟩)
  | construct kind fragment body =>
    cases kind with
    | unknown word => exact .inr (.inr (.inr ⟨word, fragment, body, rfl⟩))
    | known kind =>
      cases h : kind.isInline && body.isNull with
      | false => exact .inl (by rw [Node.inPlace, h]; rfl)
      | true =>
        obtain ⟨hkind, hbody⟩ := Bool.and_eq_true_iff.1 h
        rw [Value.isNull_eq_true.1 hbody]
        exact .inr (.inr (.inl ⟨kind, fragment, hkind, rfl⟩))
  | _ => exact .inl rfl

theorem Value.projectContent_inPlace {n : Node} (h : n.inPlace = true) :
    (Value.node n).projectContent o level = (·.getD "") <$> n.project o level false := by
  cases n with
  | textBlock children => cases h
  | construct kind fragment body =>
    cases kind with
    | unknown word => cases h
    | known kind =>
      rw [Node.inPlace, Bool.not_eq_true'] at h
      unfold Value.projectContent
      rw [h]
      rfl
  | _ => rfl

theorem Value.projectContent_inline {kind : ConstructKind} (h : kind.isInline = true) (fragment : Value) :
    (Value.node (.construct (.known kind) fragment .null)).projectContent o level =
      inlineConstruct o (.known kind) fragment .null level := by
  unfold Value.projectContent
  rw [h]
  rfl

/-- What is no node is no content. -/
theorem Value.projectContent_not_node {v : Value} (h : v.node? = none) : v.projectContent o level = pure "" := by
  cases v <;> first | rfl | cases h

end TemplateProjection
