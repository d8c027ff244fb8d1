import TemplateProjection.Proofs.Projection.Differences

/-!
# The inline shorthand

An output or interpolation without a body that is a markup element's content stays on the line of the head and ends it
with a newline. This is short for a body that holds nothing but the line end, as a line break or as a container with one
(`LineEnd`): a tree in which all of these bodies are written out, at any depth, is projected alike
(`Value.project_writtenOut`). In a sequence such a construct ends no line, so there nothing is written out.
-/

namespace TemplateProjection

/-! ## Writing out -/

/-- How a line end is written as a node. -/
inductive LineEnd
  /-- A line break. -/
  | plain
  /-- A container with a line break. -/
  | contained

namespace LineEnd

def node : LineEnd → Node
  | plain => .lineBreak
  | contained => .multi (.tuple [.node .lineBreak])

/-- The line end as a body. -/
def body (e : LineEnd) : Value := .tuple [.node e.node]

/-- Wherever it stands, the line end is projected to a newline. -/
theorem project_node (e : LineEnd) (o : Options) (level : Int) (isRoot : Bool) :
    e.node.project o level isRoot = pure (some "\n") := by
  cases e <;> rfl

theorem project_body (e : LineEnd) (o : Options) (level : Int) : e.body.projectBody o level = pure "\n" := by
  show (e.node.project o level false >>= fun text => pure "" >>= fun others => pure (text.getD "" ++ others)) = _
  rw [e.project_node]
  rfl

end LineEnd

/-- An output or interpolation without a body, with the line end for its body. -/
def Node.withLineEnd (e : LineEnd) : Node → Node
  | .construct (.known .output) fragment .null => .construct (.known .output) fragment e.body
  | .construct (.known .interpolation) fragment .null => .construct (.known .interpolation) fragment e.body
  | n => n

mutual

/-- A sequence of siblings in which every shorthand is written out. -/
def Value.writtenOut (e : LineEnd) : Value → Value
  | .list items => .list (Value.writtenOutAll e items)
  | .tuple items => .tuple (Value.writtenOutAll e items)
  | .collection kind items => .collection kind (Value.writtenOutAll e items)
  | .dict entries => .dict (Value.writtenOutKeys e entries)
  | .node n => .node (n.writtenOut e)
  | v => v

def Value.writtenOutAll (e : LineEnd) : List Value → List Value
  | [] => []
  | .node n :: rest => .node (n.writtenOut e) :: Value.writtenOutAll e rest
  | v :: rest => v :: Value.writtenOutAll e rest

def Value.writtenOutKeys (e : LineEnd) : List (Value × Value) → List (Value × Value)
  | [] => []
  | (.node n, v) :: rest => (.node (n.writtenOut e), v) :: Value.writtenOutKeys e rest
  | entry :: rest => entry :: Value.writtenOutKeys e rest

/-- The content of a markup element, which may be a shorthand itself. -/
def Value.writtenOutContent (e : LineEnd) : Value → Value
  | .node n => .node ((n.writtenOut e).withLineEnd e)
  | v => v

def Node.writtenOut (e : LineEnd) : Node → Node
  | .multi children => .multi (children.writtenOut e)
  | .textBlock children => .textBlock (children.writtenOut e)
  | .construct kind fragment body => .construct kind fragment (body.writtenOut e)
  | .markup head content => .markup head (content.writtenOutContent e)
  | n => n

end

variable (e : LineEnd)

theorem Value.filterMap_writtenOutAll (items : List Value) :
    (Value.writtenOutAll e items).filterMap Value.node? = (items.filterMap Value.node?).map (Node.writtenOut e) := by
  induction items with
  | nil => rfl
  | cons v rest ih =>
    cases v with
    | node n => exact congrArg (n.writtenOut e :: ·) ih
    | _ => exact ih

theorem Value.map_fst_writtenOutKeys (entries : List (Value × Value)) :
    (Value.writtenOutKeys e entries).map Prod.fst = Value.writtenOutAll e (entries.map Prod.fst) := by
  induction entries with
  | nil => rfl
  | cons entry rest ih =>
    obtain ⟨key, v⟩ := entry
    cases key with
    | node n => exact congrArg (.node (n.writtenOut e) :: ·) ih
    | _ => exact congrArg (_ :: ·) ih

theorem Value.nodes_writtenOut (v : Value) : (v.writtenOut e).nodes = v.nodes.map (Node.writtenOut e) := by
  cases v with
  | list items | tuple items | collection _ items => exact Value.filterMap_writtenOutAll e items
  | dict entries =>
    show ((Value.writtenOutKeys e entries).map Prod.fst).filterMap node? = _
    rw [map_fst_writtenOutKeys]
    exact Value.filterMap_writtenOutAll e _
  | _ => rfl

theorem Value.isNull_writtenOut (v : Value) : (v.writtenOut e).isNull = v.isNull := by
  cases v <;> rfl

/-- What is no sequence stays what it is. -/
theorem Value.writtenOut_not_sequence {v : Value} (h : v.isSequence = false) : v.writtenOut e = v := by
  cases v <;> first | rfl | cases h

theorem Value.isSequence_writtenOut (v : Value) : (v.writtenOut e).isSequence = v.isSequence := by
  cases v <;> rfl

/-- A node is the shorthand, or nothing is written out at it. -/
theorem Node.withLineEnd_cases (n : Node) : (∃ kind fragment, kind.isInline = true ∧
      n = .construct (.known kind) fragment .null ∧ n.withLineEnd e = .construct (.known kind) fragment e.body) ∨
    n.withLineEnd e = n := by
  unfold withLineEnd
  split
  · rename_i fragment
    exact .inl ⟨.output, fragment, rfl, rfl, rfl⟩
  · rename_i fragment
    exact .inl ⟨.interpolation, fragment, rfl, rfl, rfl⟩
  · exact .inr rfl

/-! ## Alike -/

variable {o : Options}

/-- As a content, the shorthand is projected as it is with the line end for its body. -/
theorem shorthand_alike {kind : ConstructKind} (hkind : kind.isInline = true) (fragment : Value) (level : Int) :
    ((Value.node (.construct (.known kind) fragment .null)).projectContent o level).Alike
      ((Value.node (.construct (.known kind) fragment e.body)).projectContent o level) := by
  have hinPlace : (Node.construct (.known kind) fragment e.body).inPlace = true := by
    rw [Node.inPlace, hkind]
    rfl
  have hstatement : kind ≠ .embedded := by
    rintro rfl
    cases hkind
  have hlong : (Value.node (.construct (.known kind) fragment e.body)).projectContent o level =
      (statementHead o (.known kind) fragment e.body level >>= fun line => pure (line ++ "\n")) := by
    rw [Value.projectContent_inPlace o level hinPlace, Node.project_statement o level false hstatement, e.project_body]
    simp only [pure_bind, map_bind, map_pure, Option.getD_some]
  rw [Value.projectContent_inline o level hkind, hlong]
  exact (statementHead_alike _ fragment _ _ level).bind fun _ => .refl _

theorem Node.withLineEnd_alike (n : Node) (level : Int) :
    ((Value.node n).projectContent o level).Alike ((Value.node (n.withLineEnd e)).projectContent o level) := by
  rcases n.withLineEnd_cases e with ⟨kind, fragment, hkind, hn, hlong⟩ | hself
  · rw [hlong, hn]
    exact shorthand_alike e hkind fragment level
  · rw [hself]
    exact .refl _

theorem projectNodes_alike (level : Int) (isRoot : Bool) {nodes : List Node}
    (h : ∀ n ∈ nodes, n.ProjectsAs .alike o o (n.writtenOut e)) :
    (projectNodes o level isRoot nodes).Alike (projectNodes o level isRoot (nodes.map (Node.writtenOut e))) := by
  induction nodes with
  | nil => exact .refl _
  | cons n rest ih =>
    have hn := (h n List.mem_cons_self).inSequence level isRoot
    have hrest := ih fun m hm => h m (List.mem_cons_of_mem n hm)
    apply Run.Alike.bind hn
    intro text
    apply Run.Alike.bind hrest
    intro others
    exact .refl _

/-- A sequence is projected alike if its nodes are. -/
theorem Value.writtenOut_alike {v : Value} (h : ∀ n ∈ v.nodes, n.ProjectsAs .alike o o (n.writtenOut e)) :
    v.ProjectsAs .alike o o (v.writtenOut e) := by
  refine ⟨fun level isRoot => ?_, v.isNull_writtenOut e⟩
  cases hv : v.isSequence with
  | false =>
    rw [writtenOut_not_sequence e hv]
    exact Run.Alike.refl _
  | true =>
    have hv' := (v.isSequence_writtenOut e).trans hv
    rw [project_sequence o level isRoot hv, project_sequence o level isRoot hv', nodes_writtenOut]
    exact projectNodes_alike e level isRoot h

/-- The content of a markup element is projected alike if it is alike as a node. -/
theorem Value.writtenOutContent_alike {content : Value}
    (h : ∀ n, content = .node n → n.ProjectsAs .alike o o (n.writtenOut e)) (level : Int) :
    (content.projectContent o level).Alike ((content.writtenOutContent e).projectContent o level) := by
  cases content with
  | node n => exact Run.Alike.trans ((h n rfl).asContent level) (Node.withLineEnd_alike e _ level)
  | _ => exact .refl _

/-- A node is projected alike, whatever is written out below it. -/
theorem Node.writtenOut_alike (n : Node) : n.ProjectsAs .alike o o (n.writtenOut e) := by
  have hinduction : TreeInduction fun m => m.ProjectsAs .alike o o (m.writtenOut e) := {
    bare := .refl _
    lineBreak := .refl _
    unrecognized := fun _ => .refl _
    multi := fun _ ih => projectsAs_multi (Value.writtenOut_alike e ih)
    textBlock := fun _ ih => projectsAs_textBlock (Value.writtenOut_alike e ih)
    -- A construct of an unknown kind is skipped with its body.
    unknown := fun word _ _ => ⟨fun _ _ => Run.Alike.refl (skip (.skippedConstruct word)), fun _ => Run.Alike.refl _⟩
    embedded := fun fragment _ ih => projectsAs_body _ fragment (Value.writtenOut_alike e ih)
    statement := fun _ fragment _ _ ih => projectsAs_body _ fragment (Value.writtenOut_alike e ih)
    markup := fun _ _ ih => projectsAs_markup (Differences.none_unseen o) rfl (Value.writtenOutContent_alike e ih) }
  exact hinduction.holds n

/-- **A written-out tree is projected alike**, at every level and on every memo. -/
theorem Value.project_writtenOut (tree : Value) (o : Options) (level : Int) (isRoot : Bool) :
    (tree.project o level isRoot).Alike ((tree.writtenOut e).project o level isRoot) :=
  (Value.writtenOut_alike e fun n _ => n.writtenOut_alike e).inSequence level isRoot

end TemplateProjection
