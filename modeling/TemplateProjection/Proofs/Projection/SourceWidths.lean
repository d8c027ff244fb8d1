import TemplateProjection.Proofs.Projection.Differences
import TemplateProjection.Proofs.Projection.Success
import TemplateProjection.Proofs.Width.Attributes

/-!
# Reported widths

The width that is reported for a list of attributes is compared with its padding, if it is checked, and is used for
nothing else. So a checked projection that succeeds has padded every list of attributes that it came to with as many
spaces as reported; it gives what the unchecked one gives; and not to check is to report no width
(`source_widths_enforced`).
-/

namespace TemplateProjection

/-! ## Checked and unchecked -/

namespace Options

/-- The options with reported widths checked. -/
def checked (o : Options) : Options := { o with checkSourceWidth := true }

/-- The options with reported widths unchecked. -/
def unchecked (o : Options) : Options := { o with checkSourceWidth := false }

theorem checked_relaxed (o : Options) : o.checked.Relaxed o.unchecked := ⟨rfl, nofun⟩

end Options

/-! ## Trees without reported widths -/

/-- The head, with no width reported for it. -/
def Value.withoutWidth : Value → Value
  | .attrsHead attributes _ => .attrsHead attributes .null
  | v => v

mutual

/-- A sequence of siblings in which no width is reported for any head. -/
def Value.withoutWidths : Value → Value
  | .list items => .list (Value.withoutWidthsAll items)
  | .tuple items => .tuple (Value.withoutWidthsAll items)
  | .collection kind items => .collection kind (Value.withoutWidthsAll items)
  | .dict entries => .dict (Value.withoutWidthsKeys entries)
  | .node n => .node n.withoutWidths
  | v => v

def Value.withoutWidthsAll : List Value → List Value
  | [] => []
  | v :: rest => v.withoutWidths :: Value.withoutWidthsAll rest

def Value.withoutWidthsKeys : List (Value × Value) → List (Value × Value)
  | [] => []
  | (key, v) :: rest => (key.withoutWidths, v) :: Value.withoutWidthsKeys rest

def Node.withoutWidths : Node → Node
  | .multi children => .multi children.withoutWidths
  | .textBlock children => .textBlock children.withoutWidths
  | .construct kind fragment body => .construct kind fragment body.withoutWidths
  | .markup head content => .markup head.withoutWidth content.withoutWidths
  | n => n

end

/-- Heads that differ in the width reported for them, and whatever is no node, which is passed over. -/
def Differences.widths : Differences where
  entry v := v.node? = none
  content v := v.node? = none
  head head head' := head' = head.withoutWidth

theorem Value.node?_withoutWidths {v : Value} (h : v.node? = none) : v.withoutWidths.node? = none := by
  cases v <;> first | rfl | cases h

theorem entriesSameBut_withoutWidths {items : List Value}
    (h : ∀ n ∈ items.filterMap Value.node?, n.SameBut .widths n.withoutWidths) :
    EntriesSameBut .widths items (Value.withoutWidthsAll items) := by
  induction items with
  | nil => exact .nil
  | cons v rest ih =>
    cases hv : v.node? with
    | none =>
      rw [List.filterMap_cons_none hv] at h
      exact .replaced hv (Value.node?_withoutWidths hv) (ih h)
    | some n =>
      rw [List.filterMap_cons_some hv] at h
      obtain rfl := Value.node?_eq_some.1 hv
      have hrest := ih fun m hm => h m (List.mem_cons_of_mem n hm)
      exact .node (h n List.mem_cons_self) hrest

theorem Value.map_fst_withoutWidthsKeys (entries : List (Value × Value)) :
    (Value.withoutWidthsKeys entries).map Prod.fst = Value.withoutWidthsAll (entries.map Prod.fst) := by
  induction entries with
  | nil => rfl
  | cons entry rest ih => exact congrArg (entry.1.withoutWidths :: ·) ih

theorem Value.sameBut_withoutWidths {v : Value} (h : ∀ n ∈ v.nodes, n.SameBut .widths n.withoutWidths) :
    v.SameBut .widths v.withoutWidths := by
  cases v with
  | list items => exact .list (entriesSameBut_withoutWidths h)
  | tuple items => exact .tuple (entriesSameBut_withoutWidths h)
  | collection kind items => exact .collection (entriesSameBut_withoutWidths h)
  | dict entries =>
    have hkeys := entriesSameBut_withoutWidths h
    rw [← map_fst_withoutWidthsKeys] at hkeys
    exact .dict hkeys
  | node n => exact .node (h n List.mem_cons_self)
  | _ => exact .other rfl

theorem Value.contentSameBut_withoutWidths {v : Value} (h : ∀ n, v = .node n → n.SameBut .widths n.withoutWidths) :
    ContentSameBut .widths v v.withoutWidths := by
  cases hv : v.node? with
  | none => exact .differ hv (node?_withoutWidths hv)
  | some n =>
    obtain rfl := Value.node?_eq_some.1 hv
    exact .node (h n rfl)

theorem Node.sameBut_withoutWidths (n : Node) : n.SameBut .widths n.withoutWidths := by
  have hinduction : TreeInduction fun n => n.SameBut .widths n.withoutWidths := {
    bare := .bare
    lineBreak := .lineBreak
    unrecognized := fun raw => .unrecognized raw raw
    multi := fun _ ih => .multi (Value.sameBut_withoutWidths ih)
    textBlock := fun _ ih => .textBlock (Value.sameBut_withoutWidths ih)
    unknown := fun word _ _ => .unknown word _ _ _ _
    embedded := fun _ _ ih => .construct rfl (Value.sameBut_withoutWidths ih)
    statement := fun _ _ _ _ ih => .construct rfl (Value.sameBut_withoutWidths ih)
    markup := fun _ _ ih => .markup rfl (Value.contentSameBut_withoutWidths ih) }
  exact hinduction.holds n

/-! ## Unchecked widths -/

section Unchecked

variable (o : Options)

theorem Value.headWidth_withoutWidth (head : Value) : AlikeResults head.headWidth head.withoutWidth.headWidth := by
  cases head with
  | attrsHead attributes reported =>
    unfold withoutWidth headWidth
    dsimp only
    cases attributes.elements? with
    | none => exact .refl _
    | some entries =>
      dsimp only
      cases attributesWidth entries with
      | ok n => exact .refl _
      | error fault => exact .error rfl
  | _ => exact .refl _

/-- Where no width is reported, the check makes no difference. -/
theorem Value.padding_withoutWidth (head : Value) :
    AlikeResults (head.padding o.unchecked) (head.withoutWidth.padding o.checked) := by
  have hnone : head.withoutWidth.sourceWidth = .null := by cases head <;> rfl
  have hwidth := head.headWidth_withoutWidth
  unfold padding
  rw [hnone]
  rcases hwidth.cases with ⟨width, h, h'⟩ | ⟨e, e', h, h', he⟩
  · rw [h, h']
    exact .refl _
  · rw [h, h']
    exact .error he

theorem Differences.widths_unseen : Differences.widths.UnseenBy Run.Congruence.alike o.unchecked o.checked where
  entry hentry := nomatch hentry
  content hcontent o level := by
    rw [Value.projectContent_not_node o level hcontent]
    exact Run.Alike.refl _
  fragment := by
    intro fragment _ hfragment kind body body' level
    obtain rfl := hfragment
    have hwidth : o.unchecked.indentWidth = o.checked.indentWidth := rfl
    have hsame := statementHead_congr hwidth (.known kind) fragment body level
    rw [hsame]
    exact statementHead_alike (.known kind) fragment body body' level
  head := by
    intro head _ hhead level
    obtain rfl := hhead
    have hwidth : o.unchecked.indentWidth = o.checked.indentWidth := rfl
    have hindentation := Run.indentation_congr hwidth level
    have hpadding := Run.Alike.ofExcept (head.padding_withoutWidth o)
    unfold markupHead
    rw [hindentation]
    exact (Run.Alike.refl _).bind fun _ => hpadding.bind fun _ => .refl _

end Unchecked

/-! ## The law of reported widths -/

/-- A width that is reported for a head padded as reported is the number of its spaces. -/
theorem Value.PaddedAsReported.spaces {o : Options} {head : Value} (h : head.PaddedAsReported o.checked)
    (hreported : head.sourceWidth ≠ .null) :
    ∃ s : Nat, head.padding o.checked = .ok (TemplateProjection.spaces s) ∧ head.sourceWidth.eq (.int s) = true ∧
      ∀ k, head.sourceWidth = .int k → k = s := by
  obtain ⟨width, hpadding, hagrees⟩ := h
  have hequal : head.sourceWidth.eq (.int width) = true := by
    rcases Bool.or_eq_true_iff.1 (hagrees rfl) with hnull | hequal
    · exact absurd (Value.isNull_eq_true.1 hnull) hreported
    · exact hequal
  refine ⟨width, hpadding, hequal, fun k hk => ?_⟩
  rw [hk] at hequal
  exact eq_int.1 hequal

/-- **Reported widths are enforced, and used for nothing else.** From whatever level and on whatever memo, if the
checked projection succeeds, then every list of attributes that it came to with a reported width was padded with that
many spaces, and the unchecked projection gives the same. The unchecked projection is alike to the checked one of the
tree in which no width is reported: it gives the same text, notices and memo, or fails for the same cause. -/
theorem source_widths_enforced (o : Options) (tree : Value) (level : Int) (isRoot : Bool) :
    (∀ m text, ((tree.project o.checked level isRoot).run m).result = .ok text →
      (∀ r ∈ tree.reached level isRoot, ∀ attributes reported content,
        r.node = .markup (.attrsHead attributes reported) content → reported ≠ .null →
          ∃ s : Nat, (Value.attrsHead attributes reported).padding o.checked = .ok (spaces s) ∧
            reported.eq (.int s) = true ∧ ∀ k, reported = .int k → k = s) ∧
      (tree.project o.unchecked level isRoot).run m = (tree.project o.checked level isRoot).run m) ∧
    (tree.project o.unchecked level isRoot).Alike (tree.withoutWidths.project o.checked level isRoot) := by
  constructor
  · intro m text htext
    obtain ⟨hpadded, -, hsame⟩ := tree.project_succeedsAs o.checked_relaxed level isRoot m text htext
    refine ⟨fun r hr attributes reported content hnode hreported => ?_, hsame⟩
    exact (hpadded r hr _ content hnode).spaces hreported
  · have hsame : tree.SameBut .widths tree.withoutWidths :=
      Value.sameBut_withoutWidths fun n _ => n.sameBut_withoutWidths
    exact hsame.project (Differences.widths_unseen o) level isRoot

/-- In the body of a control, a list of attributes that takes four columns. If four are reported, they are filled with
spaces; if nine are, the checked projection fails, and the unchecked one fills four. -/
theorem source_widths_enforced_page :
    let attributes (reported : Value) := Node.markup (.attrsHead (.tuple [attributeOf "id" .static "x"]) reported) .null
    let page (reported : Value) := Value.tuple
      [.node (.construct (.known .control) (.str "if a") (.tuple [.node .lineBreak, .node (attributes reported)]))]
    let text := "if a\n      "
    ((page (.int 4)).project (Options.checked {}) 0 true).fresh.result = .ok text ∧
      (Value.attrsHead (.tuple [attributeOf "id" .static "x"]) (.int 4)).padding (Options.checked {}) =
        .ok (spaces 4) ∧
      ((page (.int 4)).project (Options.unchecked {}) 0 true).run .empty =
        ((page (.int 4)).project (Options.checked {}) 0 true).run .empty ∧
      (∃ e, ((page (.int 9)).project (Options.checked {}) 0 true).fresh.result = .error e) ∧
      ((page (.int 9)).project (Options.unchecked {}) 0 true).Alike
        ((page .null).project (Options.checked {}) 0 true) ∧
      ((page .null).project (Options.checked {}) 0 true).fresh.result = .ok text := by
  intro attributes page text
  have htext : ((page (.int 4)).project (Options.checked {}) 0 true).fresh.result = .ok text := by rfl
  obtain ⟨hpadded, hsame⟩ := (source_widths_enforced {} (page (.int 4)) 0 true).1 .empty text htext
  have hreached : Reached.mk (attributes (.int 4)) 1 ∈ (page (.int 4)).reached 0 true :=
    List.mem_cons_of_mem _ (List.mem_cons_of_mem _ List.mem_cons_self)
  obtain ⟨s, hpadding, -, hs⟩ := hpadded _ hreached _ _ _ rfl nofun
  have hfour : 4 = s := Int.ofNat.inj (hs 4 rfl)
  rw [← hfour] at hpadding
  exact ⟨htext, hpadding, hsame, ⟨_, rfl⟩, (source_widths_enforced {} (page (.int 9)) 0 true).2, rfl⟩

end TemplateProjection
