import TemplateProjection.Proofs.Error.Lines
import TemplateProjection.Proofs.Projection.Reached
import TemplateProjection.Proofs.Width.Attributes

/-!
# Messages of a projection

An error of a projection names values by their types and levels by their numbers. Only the width that is reported for a
head is shown as it is, so it must not be a text. Then all errors of a projection consist of lines, whatever the memo,
if the objects in the tree write lines (`Value.project_failsOnLines`).
-/

namespace TemplateProjection

open Text

/-! ## Runs -/

theorem negativeLevel_isLine (level : Int) : IsLine (Cause.negativeLevel level).line :=
  IsLine.append (by decide) (isLine_int level)

/-- All errors that the run may end with, on whatever memo, are put into lines. -/
def Run.FailsOnLines {α : Type} (x : Run α) : Prop := ∀ m e, (x.run m).result = .error e → e.OnLines

namespace Run.FailsOnLines

variable {α β : Type}

theorem pure (a : α) : (Pure.pure a : Run α).FailsOnLines := nofun

theorem note (n : Notice) : (Run.note n).FailsOnLines := nofun

theorem fail {e : Error} (h : e.OnLines) : (Run.fail e : Run α).FailsOnLines := by
  intro m e' he
  obtain rfl := Except.error.inj he
  exact h

theorem ofExcept {r : Except Error α} (h : ∀ e, r = .error e → e.OnLines) : (Run.ofExcept r).FailsOnLines :=
  fun _ e he => h e he

/-- The second run matters on the values alone that the first one gives. -/
theorem bind_of_ok {x : Run α} {f : α → Run β} (h : x.FailsOnLines)
    (hf : ∀ m a, (x.run m).result = .ok a → (f a).FailsOnLines) : (x >>= f).FailsOnLines := by
  intro m e he
  rw [run_bind] at he
  split at he
  · rename_i a ha
    exact hf m a ha _ e he
  · rename_i e' he'
    obtain rfl := Except.error.inj he
    exact h m e' he'

theorem bind {x : Run α} {f : α → Run β} (h : x.FailsOnLines) (hf : ∀ a, (f a).FailsOnLines) :
    (x >>= f).FailsOnLines := h.bind_of_ok fun _ a _ => hf a

theorem map {x : Run α} (h : x.FailsOnLines) (f : α → β) : (f <$> x).FailsOnLines := by
  rw [map_eq_pure_bind]
  exact h.bind fun a => pure (f a)

theorem indentation (o : Options) (level : Int) : (Run.indentation o level).FailsOnLines := by
  cases level with
  | negSucc n => exact fail (.ofCause (negativeLevel_isLine _) (.of_none rfl))
  | ofNat n =>
    intro m e he
    unfold Run.indentation at he
    dsimp only at he
    split at he <;> cases he

end Run.FailsOnLines

/-! ## Lines and heads -/

theorem missingFragment_isLine (kind : ConstructKind) : IsLine (Cause.missingFragment kind).line :=
  kind.label_isLine.append (by decide)

theorem malformedAttribute_isLine {fault : AccessFault} (h : IsLine fault.message) :
    IsLine (Cause.malformedAttribute fault).line := IsLine.append (by decide) h

theorem widthMismatch_isLine {expected : Value} (hobjects : expected.ObjectsOnLines) (h : ∀ s, expected ≠ .str s)
    (computed : Int) : IsLine (Cause.widthMismatch computed expected).line :=
  ((IsLine.append (by decide) (isLine_int computed)).append (by decide)).append (Value.text_isLine hobjects h)

section Statements

variable {kind : KindWord ConstructKind} {fragment body : Value}
  (hobjects : (Value.node (.construct kind fragment body)).ObjectsOnLines)
include hobjects

theorem shownCode_onLines {e : Error} (h : shownCode kind fragment body = .error e) : e.OnLines := by
  unfold shownCode at h
  split at h <;> cases h
  · exact .ofCause (missingFragment_isLine _) hobjects
  · exact .access (noField_isLine (v := .str "") (.of_none rfl) (by decide))

theorem statementHead_failsOnLines (o : Options) (level : Int) :
    (statementHead o kind fragment body level).FailsOnLines :=
  (Run.FailsOnLines.indentation o level).bind fun _ =>
    (Run.FailsOnLines.ofExcept fun _ => shownCode_onLines hobjects).bind fun _ => .pure _

end Statements

/-- What cannot be measured is named by its type. -/
theorem Value.measure_isLine {v : Value} (hv : v.ObjectsOnLines) {fault : AccessFault} (h : v.measure = .error fault) :
    IsLine fault.message := by
  unfold measure at h
  split at h <;> cases h
  exact noLength_isLine hv

theorem Value.countFault?_isLine {v : Value} (hv : v.ObjectsOnLines) {fault : AccessFault}
    (h : v.countFault? = some fault) : IsLine fault.message := by
  unfold countFault? at h
  split at h <;> cases h
  exact noLength_isLine hv

/-- The fault of an entry is told on one line. -/
theorem Value.entryFault?_isLine {entry : Value} (hentry : entry.ObjectsOnLines) {fault : AccessFault}
    (h : entry.entryFault? = some fault) : IsLine fault.message := by
  cases entry with
  | attr name kind text =>
    obtain ⟨hnames, htexts⟩ := hentry.of_attr
    rcases Option.or_eq_some_iff.1 h with hname | ⟨-, htext⟩
    · exact countFault?_isLine hnames hname
    · exact countFault?_isLine htexts htext
  | tagHead name =>
    rcases Option.or_eq_some_iff.1 h with hname | ⟨-, htext⟩
    · exact countFault?_isLine (v := name) hentry hname
    · cases htext
      exact noField_isLine hentry (by decide)
  | _ =>
    cases h
    exact noField_isLine hentry (by decide)

theorem attributesWidth_isLine {entries : List Value} (hentries : ∀ x ∈ entries, x.ObjectsOnLines)
    {fault : AccessFault} (h : attributesWidth entries = .error fault) : IsLine fault.message := by
  rw [attributesWidth_eq] at h
  cases hfirst : entries.findSome? Value.entryFault? with
  | none =>
    rw [hfirst] at h
    cases h
  | some f =>
    rw [hfirst] at h
    cases h
    obtain ⟨entry, hmem, hentry⟩ := List.exists_of_findSome?_eq_some hfirst
    exact Value.entryFault?_isLine (hentries entry hmem) hentry

section Heads

variable {head : Value} (hhead : head.ObjectsOnLines)
include hhead

theorem Value.headWidth_onLines {e : Error} (h : head.headWidth = .error e) : e.OnLines := by
  unfold headWidth at h
  split at h
  · rename_i name
    cases hname : name.measure with
    | ok n =>
      rw [hname] at h
      cases h
    | error fault =>
      rw [hname] at h
      cases h
      exact .access (measure_isLine (v := name) hhead hname)
  · rename_i attributes reported
    have hattributes : attributes.ObjectsOnLines := hhead.of_attrsHead.1
    split at h
    · cases h
      exact .access (notIterable_isLine hattributes)
    · rename_i entries hentries
      split at h
      · cases h
      · rename_i fault hfault
        cases h
        have hline := attributesWidth_isLine (fun x hx => hattributes.of_element hentries hx) hfault
        exact .ofCause (malformedAttribute_isLine hline) hhead
  · cases h

theorem Value.sourceWidth_objectsOnLines : head.sourceWidth.ObjectsOnLines := by
  cases head with
  | attrsHead attributes reported => exact hhead.of_attrsHead.2
  | _ => exact .of_none rfl

end Heads

/-- No text is reported for the width of a head. -/
def Value.ReportsNoText (head : Value) : Prop := ∀ s, head.sourceWidth ≠ .str s

theorem Value.padding_onLines {o : Options} {head : Value} (hhead : head.ObjectsOnLines)
    (hreported : head.ReportsNoText) {e : Error} (h : head.padding o = .error e) : e.OnLines := by
  rcases padding_eq_error.1 h with hwidth | ⟨width, -, -, rfl⟩
  · exact headWidth_onLines hhead hwidth
  · exact .ofCause (widthMismatch_isLine (sourceWidth_objectsOnLines hhead) hreported width) hhead

theorem markupHead_failsOnLines (o : Options) {head : Value} (hhead : head.ObjectsOnLines) (h : head.ReportsNoText)
    (level : Int) : (markupHead o head level).FailsOnLines :=
  (Run.FailsOnLines.indentation o level).bind fun _ =>
    (Run.FailsOnLines.ofExcept fun _ => Value.padding_onLines hhead h).bind fun _ => .pure _

/-! ## Trees -/

/-- No text is reported for the width of any reached head. -/
def ReportNoText (rs : List Reached) : Prop := EachHead Value.ReportsNoText rs

section Trees

variable {o : Options}

theorem skip_failsOnLines (n : Notice) : (skip n).FailsOnLines := (Run.FailsOnLines.note n).bind fun _ => .pure _

/-- If no reached head reports a text, the node fails with lines; in a sequence, and as a content. -/
structure Node.FailsOnLines (o : Options) (n : Node) : Prop where
  inSequence : ∀ (level : Int) (isRoot : Bool), ReportNoText (n.reached level isRoot) →
    (n.project o level isRoot).FailsOnLines
  asContent : ∀ level : Int, ReportNoText ((Value.node n).reachedContent level) →
    ((Value.node n).projectContent o level).FailsOnLines

theorem Node.FailsOnLines.of_inPlace {n : Node} (h : n.inPlace = true)
    (hn : ∀ (level : Int) (isRoot : Bool), ReportNoText (n.reached level isRoot) →
      (n.project o level isRoot).FailsOnLines) : n.FailsOnLines o := by
  have hblock : ∀ children, n ≠ .textBlock children := by
    rintro children rfl
    cases h
  refine ⟨hn, fun level hreport => ?_⟩
  rw [Value.reachedContent_node hblock] at hreport
  rw [Value.projectContent_inPlace o level h]
  exact (hn level false hreport).map _

theorem projectNodes_failsOnLines {nodes : List Node} (h : ∀ n ∈ nodes, n.FailsOnLines o) (level : Int)
    (isRoot : Bool) (hreport : ReportNoText (nodes.flatMap fun n => n.reached level isRoot)) :
    (projectNodes o level isRoot nodes).FailsOnLines := by
  induction nodes with
  | nil => exact .pure _
  | cons n rest ih =>
    rw [List.flatMap_cons] at hreport
    obtain ⟨hn, hrest⟩ := List.forall_mem_append.1 hreport
    refine ((h n List.mem_cons_self).inSequence level isRoot hn).bind fun text => ?_
    exact (ih (fun m hm => h m (List.mem_cons_of_mem n hm)) hrest).bind fun others => .pure _

theorem Value.project_failsOnLines_of_nodes {v : Value} (hv : v.ObjectsOnLines) (h : ∀ n ∈ v.nodes, n.FailsOnLines o)
    (level : Int) (isRoot : Bool) (hreport : ReportNoText (v.reached level isRoot)) :
    (v.project o level isRoot).FailsOnLines := by
  cases hsequence : v.isSequence with
  | true =>
    rw [reached_nodes] at hreport
    rw [project_sequence o level isRoot hsequence]
    exact projectNodes_failsOnLines h level isRoot hreport
  | false =>
    rw [project_not_sequence o level isRoot hsequence]
    exact .fail (.access (notIterable_isLine hv))

theorem Value.projectBody_failsOnLines {body : Value} (hbody : body.ObjectsOnLines)
    (h : ∀ n ∈ body.nodes, n.FailsOnLines o) (level : Int) (hreport : ReportNoText (body.reached level false)) :
    (body.projectBody o level).FailsOnLines := by
  unfold projectBody
  split
  · exact .pure _
  · exact project_failsOnLines_of_nodes hbody h level false hreport

theorem Value.projectContent_failsOnLines {content : Value} (h : ∀ n, content = .node n → n.FailsOnLines o)
    (level : Int) (hreport : ReportNoText (content.reachedContent level)) :
    (content.projectContent o level).FailsOnLines := by
  cases hc : content.node? with
  | some n =>
    obtain rfl := Value.node?_eq_some.1 hc
    exact (h n rfl).asContent level hreport
  | none =>
    rw [projectContent_not_node o level hc]
    exact .pure _

theorem Node.statement_failsOnLines {kind : ConstructKind} (hkind : kind ≠ .embedded) {fragment body : Value}
    (hobjects : (Value.node (.construct (.known kind) fragment body)).ObjectsOnLines)
    (h : ∀ n ∈ body.nodes, n.FailsOnLines o) : (Node.construct (.known kind) fragment body).FailsOnLines o := by
  have hnested : body.ObjectsOnLines := hobjects.of_construct.2
  have hproject : ∀ (level : Int) (isRoot : Bool),
      ReportNoText ((Node.construct (.known kind) fragment body).reached level isRoot) →
        ((Node.construct (.known kind) fragment body).project o level isRoot).FailsOnLines := by
    intro level isRoot hreport
    rw [reached_statement hkind] at hreport
    rw [project_statement o level isRoot hkind]
    have hbody := Value.projectBody_failsOnLines hnested h (level + 1) (List.forall_mem_cons.1 hreport).2
    exact (statementHead_failsOnLines hobjects o _).bind fun line => hbody.bind fun nested => .pure _
  refine ⟨hproject, fun level hreport => ?_⟩
  rcases Node.content_cases (.construct (.known kind) fragment body) with
    hplace | ⟨_, hn⟩ | ⟨k, f, hk, hn⟩ | ⟨_, _, _, hn⟩
  · exact (FailsOnLines.of_inPlace hplace hproject).asContent level hreport
  · cases hn
  · cases hn
    rw [Value.projectContent_inline o level hk, inlineConstruct]
    exact (statementHead_failsOnLines hobjects o _).bind fun line => .pure _
  · cases hn

/-- The nodes of a value fail with lines, if each one does whose objects write lines. -/
theorem Value.ObjectsOnLines.nodes {v : Value} (hv : v.ObjectsOnLines)
    (h : ∀ n ∈ v.nodes, (Value.node n).ObjectsOnLines → n.FailsOnLines o) : ∀ n ∈ v.nodes, n.FailsOnLines o :=
  fun n hn => h n hn (hv.of_node hn)

theorem Node.failsOnLines : ∀ n : Node, (Value.node n).ObjectsOnLines → n.FailsOnLines o :=
  TreeInduction.holds {
    bare := fun _ => .of_inPlace rfl fun _ _ _ => skip_failsOnLines _
    lineBreak := fun _ => .of_inPlace rfl fun _ _ _ => .pure _
    unrecognized := fun _ _ => .of_inPlace rfl fun _ _ _ => skip_failsOnLines _
    multi := fun children ih (h : children.ObjectsOnLines) => .of_inPlace rfl fun level isRoot hreport =>
      (Value.project_failsOnLines_of_nodes h (h.nodes ih) level isRoot (List.forall_mem_cons.1 hreport).2).map some
    textBlock := fun children ih (h : children.ObjectsOnLines) =>
      ⟨fun _ _ _ => skip_failsOnLines _, fun level hreport =>
        Value.project_failsOnLines_of_nodes h (h.nodes ih) level false (List.forall_mem_cons.1 hreport).2⟩
    unknown := fun _ _ _ _ => ⟨fun _ _ _ => skip_failsOnLines _, fun _ _ =>
      .fail (.access (noField_isLine (v := .str "") (.of_none rfl) (by decide)))⟩
    embedded := fun fragment body ih h => .of_inPlace rfl fun level isRoot hreport => by
      have hbody : body.ObjectsOnLines := h.of_construct.2
      rw [project_embedded]
      exact (Value.projectBody_failsOnLines hbody (hbody.nodes ih) _ (List.forall_mem_cons.1 hreport).2).map some
    statement := fun kind fragment body hkind ih h =>
      have hbody : body.ObjectsOnLines := h.of_construct.2
      statement_failsOnLines hkind h (hbody.nodes ih)
    markup := fun head content ih h => .of_inPlace rfl fun level _ hreport => by
      obtain ⟨hhead, hnested⟩ := h.of_markup
      obtain ⟨hreported, hcontent⟩ := List.forall_mem_cons.1 hreport
      have hnode : ∀ n, content = .node n → n.FailsOnLines o := by
        rintro n rfl
        exact ih n rfl hnested
      exact (markupHead_failsOnLines o hhead (hreported head content rfl) level).bind fun blank =>
        (Value.projectContent_failsOnLines hnode level hcontent).bind fun text => .pure _ }

theorem Value.project_failsOnLines {v : Value} (hv : v.ObjectsOnLines) (level : Int) (isRoot : Bool)
    (hreport : ReportNoText (v.reached level isRoot)) : (v.project o level isRoot).FailsOnLines :=
  project_failsOnLines_of_nodes hv (hv.nodes fun n _ => n.failsOnLines) level isRoot hreport

end Trees

end TemplateProjection
