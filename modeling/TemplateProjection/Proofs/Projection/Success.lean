import TemplateProjection.Proofs.Projection.Dropped
import TemplateProjection.Proofs.Projection.Reached
import TemplateProjection.Proofs.Projection.Returns
import TemplateProjection.Proofs.Run.Success

/-!
# Where a projection succeeds

A projection that succeeds, on whatever memo and from whatever level, has padded every head that it came to as reported,
if that is checked; it has noted the nodes that it dropped, each once and in order, and nothing else; and under options
that check less it does the same (`Value.project_succeedsAs`).
-/

namespace TemplateProjection

/-! ## Options that check less -/

/-- The second options indent as the first do, and check reported widths only if those do. -/
structure Options.Relaxed (o o' : Options) : Prop where
  indentWidth : o'.indentWidth = o.indentWidth
  check : o'.checkSourceWidth = true → o.checkSourceWidth = true

theorem Options.Relaxed.refl (o : Options) : o.Relaxed o := ⟨rfl, id⟩

/-! ## Lines -/

section Lines

variable {o o' : Options}

theorem Run.indentation_congr (h : o'.indentWidth = o.indentWidth) (level : Int) :
    Run.indentation o' level = Run.indentation o level := by
  cases level with
  | negSucc n => rfl
  | ofNat n => rw [Run.indentation, Run.indentation, h]

theorem statementHead_congr (h : o'.indentWidth = o.indentWidth) (kind : KindWord ConstructKind)
    (fragment body : Value) (level : Int) :
    statementHead o' kind fragment body level = statementHead o kind fragment body level := by
  rw [statementHead, statementHead, Run.indentation_congr h]

/-- An indentation is made without a notice. -/
theorem indentation_succeedsAs (h : o.Relaxed o') (level : Int) :
    (Run.indentation o level).SucceedsAs True [] (Run.indentation o' level) := by
  rw [Run.indentation_congr h.indentWidth]
  refine .of_log (fun m => ?_) trivial
  cases level with
  | negSucc n => rfl
  | ofNat n =>
    unfold Run.indentation
    dsimp only
    split <;> rfl

/-- A line is made without a notice. -/
theorem statementHead_succeedsAs (h : o.Relaxed o') (kind : KindWord ConstructKind) (fragment body : Value)
    (level : Int) : (statementHead o kind fragment body level).SucceedsAs True []
      (statementHead o' kind fragment body level) := by
  rw [statementHead_congr h.indentWidth]
  have hcode : (Run.ofExcept (shownCode kind fragment body)).SucceedsAs True []
      (Run.ofExcept (shownCode kind fragment body)) := .of_log (fun _ => rfl) trivial
  exact ((indentation_succeedsAs (.refl o) level).bind fun indentation => hcode.map fun code =>
    indentation ++ code).mono (fun _ => trivial) rfl

theorem inlineConstruct_succeedsAs (h : o.Relaxed o') (kind : KindWord ConstructKind) (fragment body : Value)
    (level : Int) : (inlineConstruct o kind fragment body level).SucceedsAs True []
      (inlineConstruct o' kind fragment body level) :=
  (statementHead_succeedsAs h kind fragment body level).map fun line => line ++ "\n"

end Lines

/-! ## Paddings of reached heads -/

/-- The padding of the head is as wide as reported, if that is checked. -/
def Value.PaddedAsReported (o : Options) (head : Value) : Prop :=
  ∃ width, head.padding o = .ok (spaces width) ∧
    (o.checkSourceWidth = true → head.sourceWidth.agreesWith width = true)

/-- All reached heads are padded as reported. -/
def AllPadded (o : Options) (rs : List Reached) : Prop := EachHead (Value.PaddedAsReported o) rs

/-- The notices of dropped nodes. -/
def dropNotices (nodes : List Node) : List Notice := nodes.map Node.dropNotice

theorem dropNotices_append (ms ns : List Node) : dropNotices (ms ++ ns) = dropNotices ms ++ dropNotices ns :=
  List.map_append

section Success

variable {o o' : Options}

theorem markupHead_succeedsAs (h : o.Relaxed o') (head : Value) (level : Int) :
    (markupHead o head level).SucceedsAs (head.PaddedAsReported o) [] (markupHead o' head level) := by
  have hpadding : (Run.ofExcept (head.padding o)).SucceedsAs (head.PaddedAsReported o) []
      (Run.ofExcept (head.padding o')) := by
    intro m padding hok
    obtain ⟨width, hwidth, hagrees, rfl⟩ := Value.padding_ok.1 hok
    have hrelaxed : head.padding o' = .ok (spaces width) :=
      Value.padding_ok.2 ⟨width, hwidth, fun hcheck => hagrees (h.check hcheck), rfl⟩
    have hchecked : head.padding o = .ok (spaces width) := hok
    rw [hrelaxed, hchecked]
    exact ⟨⟨width, hchecked, hagrees⟩, rfl, rfl⟩
  exact ((indentation_succeedsAs h level).bind fun indentation => hpadding.map fun padding =>
    indentation ++ padding).mono And.right rfl

/-- Where the node is projected under the first options, all heads that are reached through it are padded as reported
and all nodes that are dropped behind it are noted, and it is projected to the same under the second ones; in a
sequence, and as a content. -/
structure Node.SucceedsUnder (o o' : Options) (n : Node) : Prop where
  inSequence : ∀ (level : Int) (isRoot : Bool), (n.project o level isRoot).SucceedsAs
    (AllPadded o (n.reached level isRoot)) (dropNotices n.dropped) (n.project o' level isRoot)
  asContent : ∀ level : Int, ((Value.node n).projectContent o level).SucceedsAs
    (AllPadded o ((Value.node n).reachedContent level)) (dropNotices (Value.node n).droppedContent)
    ((Value.node n).projectContent o' level)

theorem Node.SucceedsUnder.of_inPlace {n : Node} (h : n.inPlace = true)
    (hn : ∀ (level : Int) (isRoot : Bool), (n.project o level isRoot).SucceedsAs (AllPadded o (n.reached level isRoot))
      (dropNotices n.dropped) (n.project o' level isRoot)) : n.SucceedsUnder o o' := by
  have hblock : ∀ children, n ≠ .textBlock children := by
    rintro children rfl
    cases h
  refine ⟨hn, fun level => ?_⟩
  rw [Value.projectContent_inPlace o level h, Value.projectContent_inPlace o' level h, Value.reachedContent_node hblock,
    Value.droppedContent_node hblock]
  exact (hn level false).map _

/-- A node that is skipped is noted under all options. -/
theorem Node.succeedsUnder_skip {n : Node} (hplace : n.inPlace = true) {notice : Notice}
    (h : ∀ (o : Options) level isRoot, n.project o level isRoot = skip notice)
    (hdropped : dropNotices n.dropped = [notice])
    (hreached : ∀ level isRoot, AllPadded o (n.reached level isRoot)) : n.SucceedsUnder o o' := by
  refine .of_inPlace hplace fun level isRoot => ?_
  rw [h, h, hdropped]
  exact .of_log (fun _ => rfl) (hreached level isRoot)

theorem projectNodes_succeedsAs {nodes : List Node} (h : ∀ n ∈ nodes, n.SucceedsUnder o o') (level : Int)
    (isRoot : Bool) : (projectNodes o level isRoot nodes).SucceedsAs
      (AllPadded o (nodes.flatMap fun n => n.reached level isRoot)) (dropNotices (nodes.flatMap Node.dropped))
      (projectNodes o' level isRoot nodes) := by
  induction nodes with
  | nil => exact .of_log (fun _ => rfl) eachHead_nil
  | cons n rest ih =>
    have hn := (h n List.mem_cons_self).inSequence level isRoot
    have hrest := ih fun m hm => h m (List.mem_cons_of_mem n hm)
    refine (hn.bind fun text => hrest.map fun others => text.getD "" ++ others).mono ?_ ?_
    · rintro ⟨hn, hrest⟩
      rw [List.flatMap_cons]
      exact hn.append hrest
    · rw [List.flatMap_cons, dropNotices_append]

/-- **A projection that succeeds** has padded every head that it came to as reported and has noted exactly the nodes
that it dropped, and options that check less give the same. -/
theorem Value.project_succeedsAs_of_nodes {v : Value} (h : ∀ n ∈ v.nodes, n.SucceedsUnder o o') (level : Int)
    (isRoot : Bool) : (v.project o level isRoot).SucceedsAs (AllPadded o (v.reached level isRoot))
      (dropNotices v.dropped) (v.project o' level isRoot) := by
  cases hv : v.isSequence with
  | true =>
    rw [project_sequence o level isRoot hv, project_sequence o' level isRoot hv, reached_nodes, dropped_nodes]
    exact projectNodes_succeedsAs h level isRoot
  | false =>
    rw [project_not_sequence o level isRoot hv]
    exact .fail _

theorem Value.projectBody_succeedsAs {body : Value} (h : ∀ n ∈ body.nodes, n.SucceedsUnder o o') (level : Int) :
    (body.projectBody o level).SucceedsAs (AllPadded o (body.reached level false)) (dropNotices body.dropped)
      (body.projectBody o' level) := by
  unfold projectBody
  split
  · rename_i hnull
    rw [Value.isNull_eq_true.1 hnull]
    exact .of_log (fun _ => rfl) eachHead_nil
  · exact project_succeedsAs_of_nodes h level false

theorem Node.statement_succeedsUnder (ho : o.Relaxed o') {kind : ConstructKind} (hkind : kind ≠ .embedded)
    {fragment body : Value} (h : ∀ n ∈ body.nodes, n.SucceedsUnder o o') :
    (Node.construct (.known kind) fragment body).SucceedsUnder o o' := by
  have hproject : ∀ (level : Int) (isRoot : Bool),
      ((Node.construct (.known kind) fragment body).project o level isRoot).SucceedsAs
        (AllPadded o ((Node.construct (.known kind) fragment body).reached level isRoot))
        (dropNotices (Node.construct (.known kind) fragment body).dropped)
        ((Node.construct (.known kind) fragment body).project o' level isRoot) := by
    intro level isRoot
    rw [project_statement o level isRoot hkind, project_statement o' level isRoot hkind, reached_statement hkind]
    have hline := statementHead_succeedsAs ho (.known kind) fragment body level
    have hbody := Value.projectBody_succeedsAs h (level + 1)
    refine (hline.bind fun line => hbody.map fun nested => some (line ++ nested)).mono ?_ rfl
    rintro ⟨-, hbody⟩
    exact hbody.cons (by nofun)
  refine ⟨hproject, fun level => ?_⟩
  rcases Node.content_cases (.construct (.known kind) fragment body) with
    hplace | ⟨_, hn⟩ | ⟨k, f, hk, hn⟩ | ⟨_, _, _, hn⟩
  · exact (SucceedsUnder.of_inPlace hplace hproject).asContent level
  · cases hn
  · -- Without a body nothing is reached or dropped behind the statement.
    cases hn
    have hblock : ∀ children, Node.construct (.known kind) fragment .null ≠ .textBlock children := nofun
    rw [Value.projectContent_inline o level hk, Value.projectContent_inline o' level hk,
      Value.reachedContent_node hblock, reached_statement hkind]
    exact (inlineConstruct_succeedsAs ho _ fragment .null level).mono (fun _ => eachHead_nil.cons (by nofun)) rfl
  · cases hn

theorem Value.projectContent_succeedsAs {content : Value} (h : ∀ n, content = .node n → n.SucceedsUnder o o')
    (level : Int) : (content.projectContent o level).SucceedsAs (AllPadded o (content.reachedContent level))
      (dropNotices content.droppedContent) (content.projectContent o' level) := by
  cases hc : content.node? with
  | some n =>
    obtain rfl := Value.node?_eq_some.1 hc
    exact (h n rfl).asContent level
  | none =>
    rw [projectContent_not_node o level hc, projectContent_not_node o' level hc]
    cases content <;> first | exact .of_log (fun _ => rfl) eachHead_nil | cases hc

theorem Node.markup_succeedsUnder (ho : o.Relaxed o') {head content : Value}
    (h : ∀ n, content = .node n → n.SucceedsUnder o o') : (Node.markup head content).SucceedsUnder o o' := by
  refine .of_inPlace rfl fun level _ => ?_
  have hhead := markupHead_succeedsAs ho head level
  have hcontent := Value.projectContent_succeedsAs h level
  refine (hhead.bind fun blank => hcontent.map fun text => some (blank ++ text)).mono ?_ rfl
  rintro ⟨hhead, hcontent⟩
  exact hcontent.cons_markup hhead

theorem Node.succeedsUnder (ho : o.Relaxed o') (n : Node) : n.SucceedsUnder o o' := by
  have hinduction : TreeInduction fun n => n.SucceedsUnder o o' := {
    bare := succeedsUnder_skip rfl (fun _ _ _ => rfl) rfl fun _ _ => eachHead_nil.cons (by nofun)
    lineBreak := .of_inPlace rfl fun _ _ => .of_log (fun _ => rfl) (eachHead_nil.cons (by nofun))
    unrecognized := fun _ => succeedsUnder_skip rfl (fun _ _ _ => rfl) rfl fun _ _ => eachHead_nil.cons (by nofun)
    multi := fun children ih => .of_inPlace rfl fun level isRoot =>
      ((Value.project_succeedsAs_of_nodes ih level isRoot).map some).mono (fun h => h.cons (by nofun)) rfl
    textBlock := fun children ih =>
      ⟨fun _ _ => .of_log (x := skip .skippedText) (fun _ => rfl) (eachHead_nil.cons (by nofun)), fun level =>
        (Value.project_succeedsAs_of_nodes ih level false).mono (fun h => h.cons (by nofun)) rfl⟩
    unknown := fun word _ _ =>
      ⟨fun _ _ => .of_log (x := skip (.skippedConstruct word)) (fun _ => rfl) (eachHead_nil.cons (by nofun)),
        fun _ => .fail _⟩
    embedded := fun fragment body ih => .of_inPlace rfl fun level isRoot => by
      rw [project_embedded, project_embedded]
      exact ((Value.projectBody_succeedsAs ih _).map some).mono (fun h => h.cons (by nofun)) rfl
    statement := fun _ _ _ hkind ih => statement_succeedsUnder ho hkind ih
    markup := fun _ _ ih => markup_succeedsUnder ho ih }
  exact hinduction.holds n

/-- **Where a projection succeeds,** every head that it came to was padded as reported, exactly the dropped nodes were
noted, and options that check less give the same. -/
theorem Value.project_succeedsAs (ho : o.Relaxed o') (v : Value) (level : Int) (isRoot : Bool) :
    (v.project o level isRoot).SucceedsAs (AllPadded o (v.reached level isRoot)) (dropNotices v.dropped)
      (v.project o' level isRoot) :=
  project_succeedsAs_of_nodes (fun n _ => n.succeedsUnder ho) level isRoot

end Success

end TemplateProjection
