import TemplateProjection.Proofs.Projection.Transparent
import TemplateProjection.Proofs.Run.Returns

/-!
# What a projection returns

One rule for each clause of the projection at a level that is not negative: the node returns a text exactly if its parts
return theirs, and the text is made of theirs.
-/

namespace TemplateProjection

open Run

variable {o : Options} {level : Nat} {isRoot : Bool}

/-! ## Heads -/

/-- A head that can be measured is padded by its width, unless another one is reported. -/
theorem Value.padding_of_ok {head : Value} {width : Nat} (h : head.headWidth = .ok width) : head.padding o =
    if o.checkSourceWidth && !head.sourceWidth.agreesWith width then
      .error (.ofCause (.widthMismatch width head.sourceWidth) head)
    else .ok (spaces width) := by
  simp only [padding, h]
  rfl

/-- A head that cannot be measured has no padding, whatever is reported for it. -/
theorem Value.padding_of_error {head : Value} {e : Error} (h : head.headWidth = .error e) :
    head.padding o = .error e := by
  simp only [padding, h]
  rfl

/-- A padding is as wide as its head, whose reported width agrees if it is checked. -/
theorem Value.padding_ok {head : Value} {t : String} : head.padding o = .ok t ↔ ∃ width, head.headWidth = .ok width ∧
    (o.checkSourceWidth = true → head.sourceWidth.agreesWith width = true) ∧ t = spaces width := by
  cases hwidth : head.headWidth with
  | error e =>
    rw [padding_of_error hwidth]
    exact ⟨nofun, nofun⟩
  | ok width =>
    rw [padding_of_ok hwidth]
    constructor
    · intro h
      split at h
      · cases h
      · rename_i hcheck
        refine ⟨width, rfl, fun hc => ?_, (Except.ok.inj h).symm⟩
        simpa [hc] using hcheck
    · rintro ⟨_, hw, hagrees, rfl⟩
      obtain rfl := Except.ok.inj hw
      rw [if_neg]
      simpa using hagrees

theorem shownCode_ok {kind : ConstructKind} {fragment body : Value} {code : String} :
    shownCode (.known kind) fragment body = .ok code ↔ ∃ s, fragment = .str s ∧ code = Text.strip s := by
  constructor
  · intro h
    cases fragment with
    | str s => exact ⟨s, rfl, (Except.ok.inj h).symm⟩
    | _ => cases h
  · rintro ⟨s, rfl, rfl⟩
    rfl

theorem skip_returns {n : Notice} {t : Option String} : (skip n).Returns t ↔ t = none :=
  ⟨fun h => (Except.ok.inj h).symm, fun h => h ▸ rfl⟩

theorem statementHead_returns {kind : KindWord ConstructKind} {fragment body : Value} {t : String} :
    (statementHead o kind fragment body level).Returns t ↔
      ∃ code, shownCode kind fragment body = .ok code ∧ t = spaces (o.indentWidth * level) ++ code := by
  rw [statementHead, returns_bind (indentation_transparent (o := o) _) fun _ =>
    (ofExcept_transparent _).bind fun _ => pure_transparent _]
  simp only [returns_indentation, exists_eq_left]
  rw [returns_bind (ofExcept_transparent (o := o) _) fun _ => pure_transparent _]
  simp only [returns_ofExcept, returns_pure]

theorem markupHead_returns {head : Value} {t : String} : (markupHead o head level).Returns t ↔
    ∃ padding, head.padding o = .ok padding ∧ t = spaces (o.indentWidth * level) ++ padding := by
  rw [markupHead, returns_bind (indentation_transparent (o := o) _) fun _ =>
    (ofExcept_transparent _).bind fun _ => pure_transparent _]
  simp only [returns_indentation, exists_eq_left]
  rw [returns_bind (ofExcept_transparent (o := o) _) fun _ => pure_transparent _]
  simp only [returns_ofExcept, returns_pure]

/-! ## Sequences -/

theorem projectNodes_returns_nil {t : String} : (projectNodes o level isRoot []).Returns t ↔ t = "" := returns_pure

theorem projectNodes_returns_cons {n : Node} {rest : List Node} {t : String} :
    (projectNodes o level isRoot (n :: rest)).Returns t ↔ ∃ text others, (n.project o level isRoot).Returns text ∧
      (projectNodes o level isRoot rest).Returns others ∧ t = text.getD "" ++ others := by
  have hrest : (projectNodes o level isRoot rest).Transparent o :=
    projectNodes_transparent level isRoot rest fun m _ => m.projectsTransparently
  rw [projectNodes, returns_bind (n.projectsTransparently.inSequence level isRoot) fun _ =>
    hrest.bind fun _ => pure_transparent _]
  simp only [returns_bind hrest fun _ => pure_transparent _, returns_pure]
  constructor
  · rintro ⟨a, ha, b, hb, h⟩
    exact ⟨a, b, ha, hb, h⟩
  · rintro ⟨a, b, ha, hb, h⟩
    exact ⟨a, ha, b, hb, h⟩

/-- A sequence returns a text if it can be gone through and its nodes return that text. -/
theorem Value.project_returns {v : Value} {t : String} : (v.project o level isRoot).Returns t ↔
    v.isSequence = true ∧ (projectNodes o level isRoot v.nodes).Returns t := by
  cases h : v.isSequence with
  | true => simp only [Value.project_sequence o level isRoot h, true_and]
  | false => simp only [Value.project_not_sequence o level isRoot h, returns_fail, Bool.false_eq_true, false_and]

/-! ## Nodes -/

theorem Node.multi_returns {children : Value} {t : Option String} :
    ((Node.multi children).project o level isRoot).Returns t ↔
      ∃ text, (children.project o level isRoot).Returns text ∧ t = some text := by
  show (some <$> children.project o level isRoot).Returns t ↔ _
  exact returns_map (children.project_transparent level isRoot)

theorem Node.embedded_returns {fragment body : Value} {t : Option String} :
    ((Node.construct (.known .embedded) fragment body).project o level isRoot).Returns t ↔
      ∃ text, (body.projectBody o (embeddedLevel level isRoot)).Returns text ∧ t = some text := by
  rw [Node.project_embedded]
  exact returns_map (Value.projectBody_transparent (fun n _ => n.projectsTransparently) _)

theorem Node.statement_returns {kind : ConstructKind} (hkind : kind ≠ .embedded) {fragment body : Value}
    {t : Option String} : ((Node.construct (.known kind) fragment body).project o level isRoot).Returns t ↔
      ∃ code nested, shownCode (.known kind) fragment body = .ok code ∧
        (body.projectBody o (level + 1)).Returns nested ∧
          t = some (spaces (o.indentWidth * level) ++ code ++ nested) := by
  have hbody : (body.projectBody o (level + 1)).Transparent o :=
    Value.projectBody_transparent (fun n _ => n.projectsTransparently) _
  rw [Node.project_statement o level isRoot hkind,
    returns_bind (statementHead_transparent o (.known kind) fragment body level) fun _ =>
      hbody.bind fun _ => pure_transparent _]
  simp only [statementHead_returns, returns_bind hbody fun _ => pure_transparent _, returns_pure]
  constructor
  · rintro ⟨_, ⟨code, hcode, rfl⟩, nested, hnested, h⟩
    exact ⟨code, nested, hcode, hnested, h⟩
  · rintro ⟨code, nested, hcode, hnested, h⟩
    exact ⟨_, ⟨code, hcode, rfl⟩, nested, hnested, h⟩

theorem Node.markup_returns {head content : Value} {t : Option String} :
    ((Node.markup head content).project o level isRoot).Returns t ↔
      ∃ padding text, head.padding o = .ok padding ∧ (content.projectContent o level).Returns text ∧
        t = some (spaces (o.indentWidth * level) ++ padding ++ text) := by
  have hcontent : (content.projectContent o level).Transparent o := Value.projectContent_transparent content level
  show (markupHead o head level >>= fun blank => content.projectContent o level >>= fun text =>
    pure (some (blank ++ text))).Returns t ↔ _
  rw [returns_bind (markupHead_transparent o head level) fun _ => hcontent.bind fun _ => pure_transparent _]
  simp only [markupHead_returns, returns_bind hcontent fun _ => pure_transparent _, returns_pure]
  constructor
  · rintro ⟨_, ⟨padding, hpadding, rfl⟩, text, htext, h⟩
    exact ⟨padding, text, hpadding, htext, h⟩
  · rintro ⟨padding, text, hpadding, htext, h⟩
    exact ⟨_, ⟨padding, hpadding, rfl⟩, text, htext, h⟩

/-! ## Contents -/

theorem Value.content_inPlace_returns {n : Node} (h : n.inPlace = true) {t : String} :
    ((Value.node n).projectContent o level).Returns t ↔
      ∃ text, (n.project o level false).Returns text ∧ t = text.getD "" := by
  rw [Value.projectContent_inPlace o level h]
  exact returns_map (n.projectsTransparently.inSequence level false)

theorem Value.content_inline_returns {kind : ConstructKind} (h : kind.isInline = true) {fragment : Value}
    {t : String} : ((Value.node (.construct (.known kind) fragment .null)).projectContent o level).Returns t ↔
      ∃ code, shownCode (.known kind) fragment .null = .ok code ∧
        t = spaces (o.indentWidth * level) ++ code ++ "\n" := by
  rw [Value.projectContent_inline o level h, inlineConstruct,
    returns_bind (statementHead_transparent o (.known kind) fragment .null level) fun _ => pure_transparent _]
  simp only [statementHead_returns, returns_pure]
  constructor
  · rintro ⟨_, ⟨code, hcode, rfl⟩, h⟩
    exact ⟨code, hcode, h⟩
  · rintro ⟨code, hcode, h⟩
    exact ⟨_, ⟨code, hcode, rfl⟩, h⟩

end TemplateProjection
