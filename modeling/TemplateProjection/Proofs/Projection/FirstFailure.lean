import TemplateProjection.Proofs.Position.Walk
import TemplateProjection.Proofs.Projection.Reached
import TemplateProjection.Proofs.Projection.Total

/-!
# The first failure of a projection

A reached node fails by itself if it asks for the indentation of a negative level, if it shows its code and has none, or
if its head is not as wide as reported (`Reached.failure?`). The projection of a well-typed tree fails exactly if a
reached node does, and then as the first of them (`project_fails_first`), at whatever level it starts.
-/

namespace TemplateProjection

open Run

/-! ## Failures of single nodes -/

/-- The failure of a statement that has no text for its code. -/
def missingCode? (kind : ConstructKind) (fragment body : Value) : Option Failure :=
  match fragment with
  | .str _ => none
  | _ => some { cause := .missingFragment kind, node := .node (.construct (.known kind) fragment body) }

/-- The failure of a head for which another width than its own is reported, if that is checked. -/
def wrongWidth? (o : Options) (head : Value) : Option Failure :=
  if o.checkSourceWidth && !head.sourceWidth.agreesWith head.columns then
    some { cause := .widthMismatch head.columns head.sourceWidth, node := head }
  else none

/-- How a reached node fails by itself, whatever is reached behind it. Statements and markup elements ask for the
indentation of their level before anything else; the other nodes never fail. -/
def Reached.failure? (o : Options) (r : Reached) : Option Failure :=
  match r.node with
  | .construct (.known .embedded) _ _ => none
  | .construct (.known kind) fragment body =>
    if r.level < 0 then some { cause := .negativeLevel r.level } else missingCode? kind fragment body
  | .markup head _ => if r.level < 0 then some { cause := .negativeLevel r.level } else wrongWidth? o head
  | _ => none

/-- The failure of the first of the reached nodes that fails. -/
def firstFailure? (o : Options) (rs : List Reached) : Option Failure := rs.findSome? (Reached.failure? o)

variable {o : Options}

theorem firstFailure?_cons (r : Reached) (rs : List Reached) :
    firstFailure? o (r :: rs) = (r.failure? o).or (firstFailure? o rs) := findSome?_cons_or _ r rs

theorem firstFailure?_append (rs ss : List Reached) :
    firstFailure? o (rs ++ ss) = (firstFailure? o rs).or (firstFailure? o ss) := List.findSome?_append

theorem firstFailure?_eq_some {rs : List Reached} {f : Failure} : firstFailure? o rs = some f ↔
    ∃ before r after, rs = before ++ r :: after ∧ (∀ q ∈ before, q.failure? o = none) ∧ r.failure? o = some f := by
  unfold firstFailure?
  rw [List.findSome?_eq_some_iff]
  constructor
  · rintro ⟨before, r, after, hrs, hr, hbefore⟩
    exact ⟨before, r, after, hrs, hbefore, hr⟩
  · rintro ⟨before, r, after, hrs, hbefore, hr⟩
    exact ⟨before, r, after, hrs, hr, hbefore⟩

theorem Reached.failure?_statement {kind : ConstructKind} (h : kind ≠ .embedded) (fragment body : Value) (level : Int) :
    Reached.failure? o ⟨.construct (.known kind) fragment body, level⟩ =
      if level < 0 then some { cause := .negativeLevel level } else missingCode? kind fragment body := by
  cases kind with
  | embedded => exact absurd rfl h
  | _ => rfl

/-! ## Lines and heads -/

theorem indentation_error? (level : Int) : (indentation o level).error? =
    if level < 0 then some (.failure { cause := .negativeLevel level }) else none := by
  cases level with
  | ofNat n =>
    have hlevel : ¬Int.ofNat n < 0 := Int.not_lt.2 (Int.natCast_nonneg n)
    rw [if_neg hlevel]
    rfl
  | negSucc n =>
    rw [if_pos (Int.negSucc_lt_zero n)]
    rfl

/-- A text behind the indentation of a level fails with the level, or else by itself. -/
theorem indented_error? (level : Int) (r : Except Error String) :
    (do
      let indentation ← indentation o level
      let text ← Run.ofExcept r
      pure (indentation ++ text)).error? =
      if level < 0 then some (.failure { cause := .negativeLevel level }) else errorOf r := by
  have hrest : ∀ s, (indentation o level).Returns s →
      (Run.ofExcept r >>= fun text => pure (s ++ text)).error? = errorOf r := fun s _ =>
    error?_bind_pure (ofExcept_transparent (o := o) r) fun text => s ++ text
  rw [error?_bind (indentation_transparent level) (fun _ => (ofExcept_transparent r).bind fun _ => pure_transparent _)
    hrest, indentation_error?]
  split <;> rfl

theorem statementHead_error? {kind : ConstructKind} (h : kind ≠ .embedded) (fragment body : Value) (level : Int) :
    (statementHead o (.known kind) fragment body level).error? =
      (Reached.failure? o ⟨.construct (.known kind) fragment body, level⟩).map Error.failure := by
  have hcode : errorOf (shownCode (.known kind) fragment body) =
      (missingCode? kind fragment body).map Error.failure := by
    cases fragment <;> rfl
  rw [statementHead, indented_error?, hcode, Reached.failure?_statement h]
  split <;> rfl

/-- A head can be measured. -/
theorem Value.IsHead.measured {head : Value} (h : head.IsHead) : ∃ width, head.headWidth = .ok width := by
  cases h with
  | tag name => exact ⟨name.length, rfl⟩
  | attributes h reported => exact ⟨_, (attrsHead_headWidth_ok rfl).2 ⟨attributes_measurable h, rfl⟩⟩

theorem markupHead_error? {head : Value} (h : head.IsHead) (content : Value) (level : Int) :
    (markupHead o head level).error? =
      (Reached.failure? o ⟨.markup head content, level⟩).map Error.failure := by
  obtain ⟨width, hwidth⟩ := h.measured
  have hcolumns : head.columns = width := by rw [Value.columns, hwidth]
  have hpadding : errorOf (head.padding o) = (wrongWidth? o head).map Error.failure := by
    rw [Value.padding_of_ok hwidth, wrongWidth?, hcolumns]
    split <;> rfl
  rw [markupHead, indented_error?, hpadding]
  show _ = Option.map Error.failure (if level < 0 then some { cause := .negativeLevel level } else wrongWidth? o head)
  split <;> rfl

/-! ## Trees -/

/-- In a sequence and as a content, the node fails as the first of the nodes that are reached through it. -/
structure Node.FailsFirst (o : Options) (n : Node) : Prop where
  inSequence : ∀ (level : Int) (isRoot : Bool),
    (n.project o level isRoot).error? = (firstFailure? o (n.reached level isRoot)).map Error.failure
  asContent : ∀ level : Int, ((Value.node n).projectContent o level).error? =
    (firstFailure? o ((Value.node n).reachedContent level)).map Error.failure

theorem Node.FailsFirst.of_inPlace {n : Node} (h : n.inPlace = true)
    (hn : ∀ (level : Int) (isRoot : Bool),
      (n.project o level isRoot).error? = (firstFailure? o (n.reached level isRoot)).map Error.failure) :
    n.FailsFirst o := by
  have hblock : ∀ children, n ≠ .textBlock children := by
    rintro children rfl
    cases h
  refine ⟨hn, fun level => ?_⟩
  rw [Value.projectContent_inPlace o level h, Value.reachedContent_node hblock, ← hn level false]
  exact error?_map (n.projectsTransparently.inSequence level false) _

theorem projectNodes_error? (level : Int) (isRoot : Bool) {nodes : List Node} (h : ∀ n ∈ nodes, n.FailsFirst o) :
    (projectNodes o level isRoot nodes).error? =
      (firstFailure? o (nodes.flatMap fun n => n.reached level isRoot)).map Error.failure := by
  induction nodes with
  | nil => rfl
  | cons n rest ih =>
    have hn := (h n List.mem_cons_self).inSequence level isRoot
    have hrest := ih fun m hm => h m (List.mem_cons_of_mem n hm)
    have htransparent : (projectNodes o level isRoot rest).Transparent o :=
      projectNodes_transparent level isRoot rest fun m _ => m.projectsTransparently
    rw [List.flatMap_cons, firstFailure?_append, Option.map_or, ← hn, ← hrest, projectNodes]
    refine error?_bind (n.projectsTransparently.inSequence level isRoot)
      (fun _ => htransparent.bind fun _ => pure_transparent _) fun text _ => ?_
    exact error?_bind_pure htransparent fun others => text.getD "" ++ others

/-- A sequence fails as the first of the nodes that are reached through it. -/
theorem Value.project_error? {v : Value} (hv : v.isSequence = true) (h : ∀ n ∈ v.nodes, n.FailsFirst o) (level : Int)
    (isRoot : Bool) :
    (v.project o level isRoot).error? = (firstFailure? o (v.reached level isRoot)).map Error.failure := by
  rw [project_sequence o level isRoot hv, reached_nodes]
  exact projectNodes_error? level isRoot h

theorem Value.projectBody_error? {body : Value} (hbody : body = .null ∨ body.isList = true)
    (h : ∀ n ∈ body.nodes, n.FailsFirst o) (level : Int) :
    (body.projectBody o level).error? = (firstFailure? o (body.reached level false)).map Error.failure := by
  rcases hbody with rfl | hlist
  · rfl
  · rw [projectBody, isNull_of_isList hlist]
    exact project_error? (isSequence_of_isList hlist) h level false

theorem Node.statement_failsFirst {kind : ConstructKind} (hkind : kind ≠ .embedded) {fragment body : Value}
    (hbody : body = .null ∨ body.isList = true) (h : ∀ n ∈ body.nodes, n.FailsFirst o) :
    (Node.construct (.known kind) fragment body).FailsFirst o := by
  have hproject : ∀ (level : Int) (isRoot : Bool),
      ((Node.construct (.known kind) fragment body).project o level isRoot).error? =
        (firstFailure? o ((Node.construct (.known kind) fragment body).reached level isRoot)).map Error.failure := by
    intro level isRoot
    have htransparent : (body.projectBody o (level + 1)).Transparent o :=
      Value.projectBody_transparent (fun n _ => n.projectsTransparently) _
    rw [Node.project_statement o level isRoot hkind, Node.reached_statement hkind, firstFailure?_cons, Option.map_or,
      ← statementHead_error? hkind, ← Value.projectBody_error? hbody h]
    refine error?_bind (statementHead_transparent o _ _ _ _) (fun _ => htransparent.bind fun _ => pure_transparent _)
      fun line _ => ?_
    exact error?_bind_pure htransparent fun nested => some (line ++ nested)
  refine ⟨hproject, fun level => ?_⟩
  rcases Node.content_cases (.construct (.known kind) fragment body) with
    hplace | ⟨_, hn⟩ | ⟨k, f, hk, hn⟩ | ⟨_, _, _, hn⟩
  · exact (FailsFirst.of_inPlace hplace hproject).asContent level
  · cases hn
  · -- Without a body the statement stands on the line of the head, and nothing is reached behind it.
    cases hn
    have hblock : ∀ children, Node.construct (.known kind) fragment .null ≠ .textBlock children := by
      intro children hn
      cases hn
    rw [Value.projectContent_inline o level hk, inlineConstruct,
      error?_bind_pure (statementHead_transparent o _ _ _ _), statementHead_error? hkind,
      Value.reachedContent_node hblock, Node.reached_statement hkind, firstFailure?_cons]
    exact congrArg (Option.map Error.failure) Option.or_none.symm
  · cases hn

theorem Node.markup_failsFirst {head content : Value} (hhead : head.IsHead)
    (h : ∀ n, content = .node n → n.FailsFirst o) : (Node.markup head content).FailsFirst o := by
  refine .of_inPlace rfl fun level isRoot => ?_
  have htransparent := content.projectContent_transparent (o := o) level
  have hcontent : (content.projectContent o level).error? =
      (firstFailure? o (content.reachedContent level)).map Error.failure := by
    cases hc : content.node? with
    | some n =>
      obtain rfl := Value.node?_eq_some.1 hc
      exact (h n rfl).asContent level
    | none =>
      rw [Value.projectContent_not_node o level hc]
      cases content <;> first | rfl | cases hc
  show (markupHead o head level >>= fun blank => content.projectContent o level >>= fun text =>
    pure (some (blank ++ text))).error? = _
  rw [Node.reached, firstFailure?_cons, Option.map_or, ← markupHead_error? hhead, ← hcontent]
  refine error?_bind (markupHead_transparent o head level) (fun _ => htransparent.bind fun _ => pure_transparent _)
    fun blank _ => ?_
  exact error?_bind_pure htransparent fun text => some (blank ++ text)

theorem Node.WellTyped.failsFirst {n : Node} (h : n.WellTyped) : n.FailsFirst o := by
  induction h with
  | bare => exact .of_inPlace rfl fun _ _ => rfl
  | lineBreak => exact .of_inPlace rfl fun _ _ => rfl
  | unrecognized raw => exact .of_inPlace rfl fun _ _ => rfl
  | @multi children hlist _ ih =>
    refine .of_inPlace rfl fun level isRoot => ?_
    have hchildren := Value.project_error? (Value.isSequence_of_isList hlist) ih level isRoot
    show (some <$> children.project o level isRoot).error? = _
    rw [error?_map (children.project_transparent level isRoot), hchildren]
    rfl
  | @textBlock children hlist _ ih =>
    refine ⟨fun _ _ => rfl, fun level => ?_⟩
    exact Value.project_error? (Value.isSequence_of_isList hlist) ih level false
  | @construct kind fragment body hbody _ ih =>
    by_cases hkind : kind = .embedded
    · subst hkind
      refine .of_inPlace rfl fun level isRoot => ?_
      have htransparent : (body.projectBody o (embeddedLevel level isRoot)).Transparent o :=
        Value.projectBody_transparent (fun n _ => n.projectsTransparently) _
      rw [Node.project_embedded, error?_map htransparent, Value.projectBody_error? hbody ih]
      rfl
    · exact Node.statement_failsFirst hkind hbody ih
  | markup hhead _ ih => exact Node.markup_failsFirst hhead ih

/-- **A projection fails as the first reached node that fails.** A well-typed tree is projected to a text, from whatever
level, if and only if no reached node fails by itself. Else the error is the failure of the first reached node that
does. -/
theorem project_fails_first (o : Options) {tree : Value} (h : tree.WellTyped) (level : Int) (isRoot : Bool) :
    ((∃ text, (tree.project o level isRoot).fresh.result = .ok text) ↔
      ∀ r ∈ tree.reached level isRoot, r.failure? o = none) ∧
    ∀ e, (tree.project o level isRoot).fresh.result = .error e ↔
      ∃ before r after f, tree.reached level isRoot = before ++ r :: after ∧ (∀ q ∈ before, q.failure? o = none) ∧
        r.failure? o = some f ∧ e = .failure f := by
  have herror := Value.project_error? h.isSequence (fun n hn => (h.nodes n hn).failsFirst (o := o)) level isRoot
  constructor
  · have hnone := error?_eq_none (x := tree.project o level isRoot)
    rw [herror, Option.map_eq_none_iff, firstFailure?, List.findSome?_eq_none_iff] at hnone
    exact hnone.symm
  · intro e
    rw [← error?_eq_some, herror, Option.map_eq_some_iff]
    constructor
    · rintro ⟨f, hf, rfl⟩
      obtain ⟨before, r, after, hreached, hbefore, hr⟩ := firstFailure?_eq_some.1 hf
      exact ⟨before, r, after, f, hreached, hbefore, hr, rfl⟩
    · rintro ⟨before, r, after, f, hreached, hbefore, hr, rfl⟩
      exact ⟨f, firstFailure?_eq_some.2 ⟨before, r, after, hreached, hbefore, hr⟩, rfl⟩

/-- Two levels below 0, nested blocks lead up to level 0, where a list of attributes may stand but has another width
than reported. It comes before the control, whose level is negative. -/
theorem project_fails_first_nested :
    let head := Value.attrsHead (.tuple [attributeOf "id" .static "x"]) (.int 9)
    let block (body : Node) := Node.construct (.known .embedded) .null (.tuple [.node body])
    let control := Node.construct (.known .control) (.str "if a") .null
    let tree := Value.tuple [.node (block (block (.markup head .null))), .node control]
    let failure : Failure := { cause := .widthMismatch 4 (.int 9), node := head }
    tree.WellTyped ∧ (tree.project {} (-2) false).fresh.result = .error (.failure failure) ∧
      (Reached.mk control (-2)).failure? {} = some { cause := .negativeLevel (-2) } ∧
      ∃ before r after, tree.reached (-2) false = before ++ r :: after ∧ (∀ q ∈ before, q.failure? {} = none) ∧
        r.failure? {} = some failure := by
  intro head block control tree failure
  have hhead : head.IsHead := by
    refine .attributes (fun a ha => ?_) _
    exact ⟨"id", .static, "x", List.mem_singleton.1 ha⟩
  have hblock : ∀ body : Node, body.WellTyped → (block body).WellTyped := by
    intro body hbody
    refine .construct (.inr rfl) fun n hn => ?_
    obtain rfl := List.mem_singleton.1 hn
    exact hbody
  have htree : tree.WellTyped := by
    refine ⟨rfl, fun n hn => ?_⟩
    rcases List.mem_cons.1 hn with rfl | hn
    · exact hblock _ (hblock _ (.markup hhead nofun))
    · obtain rfl := List.mem_singleton.1 hn
      exact .construct (.inl rfl) nofun
  have hresult : (tree.project {} (-2) false).fresh.result = .error (.failure failure) := by rfl
  obtain ⟨before, r, after, f, hreached, hbefore, hr, hf⟩ := ((project_fails_first {} htree (-2) false).2 _).1 hresult
  obtain rfl := Error.failure.inj hf
  exact ⟨htree, hresult, rfl, before, r, after, hreached, hbefore, hr⟩

end TemplateProjection
