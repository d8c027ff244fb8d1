import Mathlib.Logic.Relation
import TemplateProjection.Proofs.Projection.Differences

/-!
# Containers are transparent

A container that is an entry of a sequence may be replaced by its children (`Value.Splice`): in the sequence that is
projected, in the children of a container or a text block, and in a body, at any depth. The content of a markup element
is no sequence, so it is kept, but what is nested in it may be spliced. However often this is done, the projection gives
the same text and notices and leaves the same memo, or fails alike (`project_splice`).
-/

namespace TemplateProjection

/-! ## Splices -/

mutual

/-- A container is replaced by its children, in the sequence or in one that is nested in it. -/
inductive Value.Splice : Value → Value → Prop
  | list {xs ys : List Value} : SpliceEntries xs ys → Value.Splice (.list xs) (.list ys)
  | tuple {xs ys : List Value} : SpliceEntries xs ys → Value.Splice (.tuple xs) (.tuple ys)
  | collection {kind : CollectionKind} {xs ys : List Value} : SpliceEntries xs ys →
      Value.Splice (.collection kind xs) (.collection kind ys)
  /-- A dictionary is the sequence of its keys. -/
  | dict {xs ys : List (Value × Value)} : SpliceEntries (xs.map Prod.fst) (ys.map Prod.fst) →
      Value.Splice (.dict xs) (.dict ys)
  | inNode {m n : Node} : m.Splice n → Value.Splice (.node m) (.node n)
  /-- A single node stands for a sequence of one entry. -/
  | single {children : Value} {items : List Value} : children.elements? = some items →
      Value.Splice (.node (.multi children)) (.tuple items)

/-- The same, for the entries of a sequence. -/
inductive SpliceEntries : List Value → List Value → Prop
  | container {children : Value} {items rest : List Value} : children.elements? = some items →
      SpliceEntries (.node (.multi children) :: rest) (items ++ rest)
  | inNode {m n : Node} {rest : List Value} : m.Splice n → SpliceEntries (.node m :: rest) (.node n :: rest)
  | behind {v : Value} {xs ys : List Value} : SpliceEntries xs ys → SpliceEntries (v :: xs) (v :: ys)

/-- The same, somewhere inside a node. -/
inductive Node.Splice : Node → Node → Prop
  | children {a b : Value} : a.Splice b → Node.Splice (.multi a) (.multi b)
  | textChildren {a b : Value} : a.Splice b → Node.Splice (.textBlock a) (.textBlock b)
  | body {kind : KindWord ConstructKind} {fragment a b : Value} : a.Splice b →
      Node.Splice (.construct kind fragment a) (.construct kind fragment b)
  | content {head : Value} {m n : Node} : m.Splice n → Node.Splice (.markup head (.node m)) (.markup head (.node n))

end

/-- A spliced sequence is no null, and does not become one. -/
theorem Value.Splice.not_null {a b : Value} (h : a.Splice b) : a.isNull = false ∧ b.isNull = false := by
  cases h <;> exact ⟨rfl, rfl⟩

variable {o : Options}

/-! ## One splice -/

/-- In a sequence, a container and its children are projected to the same. -/
theorem projectNodes_multi {children : Value} {items : List Value} (h : children.elements? = some items) (level : Int)
    (isRoot : Bool) (rest : List Node) : projectNodes o level isRoot (.multi children :: rest) =
      projectNodes o level isRoot (items.filterMap Value.node? ++ rest) := by
  rw [projectNodes_append, ← Value.project_of_elements o level isRoot h, projectNodes]
  show ((children.project o level isRoot >>= fun text => pure (some text)) >>= fun text => _ : Run String) = _
  simp only [bind_assoc, pure_bind, Option.getD_some]

mutual

theorem Value.Splice.projectsAs {a b : Value} (h : a.Splice b) : a.ProjectsAs .alike o o b := by
  refine ⟨fun level isRoot => ?_, h.not_null.2.trans h.not_null.1.symm⟩
  cases h with
  | list h | tuple h | collection h =>
    rw [Value.project_sequence o level isRoot rfl, Value.project_sequence o level isRoot rfl]
    exact h.alike level isRoot
  | @dict xs ys h =>
    have := Value.sizeOf_keys_le xs
    rw [Value.project_sequence o level isRoot rfl, Value.project_sequence o level isRoot rfl]
    exact h.alike level isRoot
  | inNode h => exact Run.Alike.map (h.projectsAs.inSequence level isRoot) _
  | @single children items h =>
    have hmulti := projectNodes_multi (o := o) h level isRoot []
    rw [List.append_nil] at hmulti
    rw [Value.project_sequence o level isRoot (v := .node (.multi children)) rfl,
      Value.project_of_elements o level isRoot (v := .tuple items) rfl]
    exact .of_eq hmulti
termination_by sizeOf a

theorem SpliceEntries.alike {xs ys : List Value} (h : SpliceEntries xs ys) (level : Int) (isRoot : Bool) :
    (projectNodes o level isRoot (xs.filterMap Value.node?)).Alike
      (projectNodes o level isRoot (ys.filterMap Value.node?)) := by
  cases h with
  | container h =>
    rw [List.filterMap_append]
    exact .of_eq (projectNodes_multi h level isRoot _)
  | inNode h => exact Run.Alike.bind (h.projectsAs.inSequence level isRoot) fun _ => .refl _
  | @behind v xs ys h =>
    have hrest := h.alike level isRoot
    cases hv : v.node? with
    | none =>
      rw [List.filterMap_cons_none hv, List.filterMap_cons_none hv]
      exact hrest
    | some n =>
      rw [List.filterMap_cons_some hv, List.filterMap_cons_some hv]
      exact (Run.Alike.refl _).bind fun _ => hrest.bind fun _ => .refl _
termination_by sizeOf xs

theorem Node.Splice.projectsAs {m n : Node} (h : m.Splice n) : m.ProjectsAs .alike o o n := by
  cases h with
  | children h => exact Node.projectsAs_multi h.projectsAs
  | textChildren h => exact Node.projectsAs_textBlock h.projectsAs
  | @body kind fragment a b h => exact Node.projectsAs_body kind fragment h.projectsAs
  | content h => exact Node.projectsAs_markup (Differences.none_unseen o) rfl h.projectsAs.asContent
termination_by sizeOf m

end

/-! ## Any number of splices -/

/-- **Containers are transparent.** Trees that differ by splices, at any depth and any number of them, are projected
alike: on every memo they give the same text, leave the same memo and make the same notices, or they fail for the same
cause. -/
theorem project_splice {t u : Value} (h : Relation.ReflTransGen Value.Splice t u) (o : Options) (level : Int)
    (isRoot : Bool) : (t.project o level isRoot).Alike (u.project o level isRoot) := by
  induction h with
  | refl => exact .refl _
  | tail _ hstep ih => exact ih.trans (hstep.projectsAs.inSequence level isRoot)

/-- Two splices: of the container that holds a cell and a line end, and of the empty one in the body of the cell's
output. The output keeps a body, so no line end is added to the one that stands behind it. -/
theorem project_splice_cell :
    let cell (body : List Value) := Value.node (.markup (.tagHead (.str "td"))
      (.node (.construct (.known .output) (.str " x ") (.tuple body))))
    let entries := [cell [.node (.multi (.tuple []))], .node .lineBreak]
    let nested := Value.tuple [.node (.multi (.tuple entries))]
    let spliced := Value.tuple [cell [], .node .lineBreak]
    Relation.ReflTransGen Value.Splice nested spliced ∧
      (nested.project {} 1 true).Alike (spliced.project {} 1 true) ∧
      ((spliced.project {} 1 true).run .empty).result = .ok "      x\n" := by
  intro cell entries nested spliced
  have hcontainer : nested.Splice (.tuple (entries ++ [])) := .tuple (.container rfl)
  have hbody : (Value.tuple [.node (.multi (.tuple []))]).Splice (.tuple ([] ++ [])) := .tuple (.container rfl)
  have hcell : (Value.tuple entries).Splice spliced := .tuple (.inNode (.content (.body hbody)))
  have hsplices : Relation.ReflTransGen Value.Splice nested spliced := .tail (.single hcontainer) hcell
  exact ⟨hsplices, project_splice hsplices {} 1 true, rfl⟩

end TemplateProjection
