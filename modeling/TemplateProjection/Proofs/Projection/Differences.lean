import TemplateProjection.Proofs.Projection.Clauses
import TemplateProjection.Proofs.Run.Congruence

/-!
# Trees that differ in part

Two trees may be the same but for some entries of their sequences, some contents, some fragments and some heads, at any
depth and any number of them: `Differences` says which, and `Value.SameBut` that nothing else differs. What is kept in
an unrecognized node, or in a construct of unknown kind, is not compared.

A congruence of runs may be blind to such differences where they stand (`Differences.UnseenBy`). Then it is blind to
them in whole trees: trees that are the same but for them are projected to related runs (`Value.SameBut.project`).
-/

namespace TemplateProjection

/-! ## Differences -/

/-- What may differ between two trees. -/
structure Differences where
  /-- Entries that may stand in a sequence or be missing. -/
  entry : Value → Prop := fun _ => False
  /-- Contents of markup elements that may stand for one another. -/
  content : Value → Prop := fun _ => False
  /-- Fragments that may stand for one another. -/
  fragment : Value → Value → Prop := Eq
  /-- Heads that may stand for one another. -/
  head : Value → Value → Prop := Eq

mutual

/-- The sequences of siblings, or bodies, are the same but for the differences. -/
inductive Value.SameBut (d : Differences) : Value → Value → Prop
  | list {xs ys : List Value} : EntriesSameBut d xs ys → Value.SameBut d (.list xs) (.list ys)
  | tuple {xs ys : List Value} : EntriesSameBut d xs ys → Value.SameBut d (.tuple xs) (.tuple ys)
  | collection {kind : CollectionKind} {xs ys : List Value} : EntriesSameBut d xs ys →
      Value.SameBut d (.collection kind xs) (.collection kind ys)
  /-- A dictionary is the sequence of its keys. -/
  | dict {xs ys : List (Value × Value)} : EntriesSameBut d (xs.map Prod.fst) (ys.map Prod.fst) →
      Value.SameBut d (.dict xs) (.dict ys)
  | node {m n : Node} : m.SameBut d n → Value.SameBut d (.node m) (.node n)
  /-- What holds no nodes is the same. -/
  | other {v : Value} : v.nodes = [] → Value.SameBut d v v

/-- The same, for the entries of a sequence. -/
inductive EntriesSameBut (d : Differences) : List Value → List Value → Prop
  | nil : EntriesSameBut d [] []
  | node {m n : Node} {xs ys : List Value} : m.SameBut d n → EntriesSameBut d xs ys →
      EntriesSameBut d (.node m :: xs) (.node n :: ys)
  | other {v : Value} {xs ys : List Value} : v.node? = none → EntriesSameBut d xs ys →
      EntriesSameBut d (v :: xs) (v :: ys)
  /-- An entry of the first sequence is missing in the second. -/
  | missing {v : Value} {xs ys : List Value} : d.entry v → EntriesSameBut d xs ys → EntriesSameBut d (v :: xs) ys
  /-- An entry of the second sequence is missing in the first. -/
  | added {v : Value} {xs ys : List Value} : d.entry v → EntriesSameBut d xs ys → EntriesSameBut d xs (v :: ys)

/-- The same, for the contents of markup elements. -/
inductive ContentSameBut (d : Differences) : Value → Value → Prop
  | node {m n : Node} : m.SameBut d n → ContentSameBut d (.node m) (.node n)
  | other {v : Value} : v.node? = none → ContentSameBut d v v
  | differ {v w : Value} : d.content v → d.content w → ContentSameBut d v w

/-- The same, for nodes. -/
inductive Node.SameBut (d : Differences) : Node → Node → Prop
  | bare : Node.SameBut d .bare .bare
  | lineBreak : Node.SameBut d .lineBreak .lineBreak
  | unrecognized (raw raw' : Value) : Node.SameBut d (.unrecognized raw) (.unrecognized raw')
  | multi {a b : Value} : a.SameBut d b → Node.SameBut d (.multi a) (.multi b)
  | textBlock {a b : Value} : a.SameBut d b → Node.SameBut d (.textBlock a) (.textBlock b)
  | unknown (word : String) (fragment fragment' body body' : Value) :
      Node.SameBut d (.construct (.unknown word) fragment body) (.construct (.unknown word) fragment' body')
  | construct {kind : ConstructKind} {fragment fragment' a b : Value} : d.fragment fragment fragment' →
      a.SameBut d b → Node.SameBut d (.construct (.known kind) fragment a) (.construct (.known kind) fragment' b)
  | markup {head head' a b : Value} : d.head head head' → ContentSameBut d a b →
      Node.SameBut d (.markup head a) (.markup head' b)

end

variable {d : Differences}

theorem Value.SameBut.isNull {a b : Value} (h : a.SameBut d b) : b.isNull = a.isNull := by
  cases h <;> rfl

/-- Of entries that may be missing, one may stand in the place of another. -/
theorem EntriesSameBut.replaced {v w : Value} {xs ys : List Value} (hv : d.entry v) (hw : d.entry w)
    (h : EntriesSameBut d xs ys) : EntriesSameBut d (v :: xs) (w :: ys) := .missing hv (.added hw h)

/-! ## Equal trees -/

section Equal

theorem EntriesSameBut.refl_of_nodes {items : List Value} (h : ∀ n ∈ items.filterMap Value.node?, n.SameBut d n) :
    EntriesSameBut d items items := by
  induction items with
  | nil => exact .nil
  | cons v rest ih =>
    cases hv : v.node? with
    | none =>
      rw [List.filterMap_cons_none hv] at h
      exact .other hv (ih h)
    | some n =>
      rw [List.filterMap_cons_some hv] at h
      obtain rfl := Value.node?_eq_some.1 hv
      have hrest := ih fun m hm => h m (List.mem_cons_of_mem n hm)
      exact .node (h n List.mem_cons_self) hrest

theorem Value.SameBut.refl_of_nodes {v : Value} (h : ∀ n ∈ v.nodes, n.SameBut d n) : v.SameBut d v := by
  cases v with
  | list items => exact .list (.refl_of_nodes h)
  | tuple items => exact .tuple (.refl_of_nodes h)
  | collection kind items => exact .collection (.refl_of_nodes h)
  | dict entries => exact .dict (.refl_of_nodes h)
  | node n => exact .node (h n List.mem_cons_self)
  | _ => exact .other rfl

theorem ContentSameBut.refl_of_node {v : Value} (h : ∀ n, v = .node n → n.SameBut d n) : ContentSameBut d v v := by
  cases hv : v.node? with
  | none => exact .other hv
  | some n =>
    obtain rfl := Value.node?_eq_some.1 hv
    exact .node (h n rfl)

variable (hfragment : ∀ v, d.fragment v v) (hhead : ∀ v, d.head v v)
include hfragment hhead

/-- A node is the same as itself if equal fragments and equal heads may stand for one another. -/
theorem Node.SameBut.refl (n : Node) : n.SameBut d n := by
  have hinduction : TreeInduction fun m => m.SameBut d m := {
    bare := .bare
    lineBreak := .lineBreak
    unrecognized := fun raw => .unrecognized raw raw
    multi := fun _ ih => .multi (.refl_of_nodes ih)
    textBlock := fun _ ih => .textBlock (.refl_of_nodes ih)
    unknown := fun word fragment body => .unknown word fragment fragment body body
    embedded := fun fragment _ ih => .construct (hfragment fragment) (.refl_of_nodes ih)
    statement := fun _ fragment _ _ ih => .construct (hfragment fragment) (.refl_of_nodes ih)
    markup := fun head _ ih => .markup (hhead head) (.refl_of_node ih) }
  exact hinduction.holds n

end Equal

/-! ## Related projections -/

variable {C : Run.Congruence} {o o' : Options}

/-- The nodes are projected to related runs, in a sequence and as the content of a markup element. -/
structure Node.ProjectsAs (C : Run.Congruence) (o o' : Options) (m n : Node) : Prop where
  inSequence : ∀ (level : Int) (isRoot : Bool), C.Related (m.project o level isRoot) (n.project o' level isRoot)
  asContent : ∀ level : Int, C.Related ((Value.node m).projectContent o level) ((Value.node n).projectContent o' level)

/-- The values are projected to related runs, as sequences and as bodies. -/
structure Value.ProjectsAs (C : Run.Congruence) (o o' : Options) (a b : Value) : Prop where
  inSequence : ∀ (level : Int) (isRoot : Bool), C.Related (a.project o level isRoot) (b.project o' level isRoot)
  isNull : b.isNull = a.isNull

theorem Value.ProjectsAs.body {a b : Value} (h : a.ProjectsAs C o o' b) (level : Int) :
    C.Related (a.projectBody o level) (b.projectBody o' level) := by
  unfold Value.projectBody
  rw [h.isNull]
  split
  · exact C.refl _
  · exact h.inSequence level false

/-- The congruence sees no difference where one may stand: an entry and a content give no text, and fragments and heads
that may stand for one another give related lines. -/
structure Differences.UnseenBy (d : Differences) (C : Run.Congruence) (o o' : Options) : Prop where
  entry : ∀ {n : Node}, d.entry (.node n) → ∀ (o : Options) (level : Int) (isRoot : Bool),
    C.Related ((·.getD "") <$> n.project o level isRoot) (pure "")
  content : ∀ {v : Value}, d.content v → ∀ (o : Options) (level : Int), C.Related (v.projectContent o level) (pure "")
  fragment : ∀ {fragment fragment' : Value}, d.fragment fragment fragment' →
    ∀ (kind : ConstructKind) (body body' : Value) (level : Int),
      C.Related (statementHead o (.known kind) fragment body level)
        (statementHead o' (.known kind) fragment' body' level)
  head : ∀ {head head' : Value}, d.head head head' → ∀ level : Int,
    C.Related (markupHead o head level) (markupHead o' head' level)

/-! ### Codes and heads -/

theorem shownCode_alike (kind : KindWord ConstructKind) (fragment a b : Value) :
    AlikeResults (shownCode kind fragment a) (shownCode kind fragment b) := by
  cases fragment <;> first | rfl | (cases kind <;> rfl)

theorem statementHead_alike (kind : KindWord ConstructKind) (fragment a b : Value) (level : Int) :
    (statementHead o kind fragment a level).Alike (statementHead o kind fragment b level) :=
  (Run.Alike.refl _).bind fun _ => (Run.Alike.ofExcept (shownCode_alike kind fragment a b)).bind fun _ => .refl _

/-- If nothing differs but heads, a projection sees nothing but their paddings. -/
theorem Differences.unseen_of_padding {head : Value → Value → Prop}
    (h : ∀ {a b : Value}, head a b → b.padding o = a.padding o) :
    ({ head } : Differences).UnseenBy Run.Congruence.alike o o where
  entry := nofun
  content := nofun
  fragment hfragment kind body body' level := by
    obtain rfl := hfragment
    exact statementHead_alike (.known kind) _ body body' level
  head hhead level := by
    have hpadding := h hhead
    unfold markupHead
    rw [hpadding]
    exact Run.Alike.refl _

/-- What is kept unrecognized, or in a construct of unknown kind, is not seen. -/
theorem Differences.none_unseen (o : Options) : ({} : Differences).UnseenBy Run.Congruence.alike o o :=
  unseen_of_padding fun hhead => congrArg (Value.padding o) hhead.symm

/-! ### Nodes -/

section Nodes

theorem Node.ProjectsAs.refl (n : Node) : n.ProjectsAs C o o n := ⟨fun _ _ => C.refl _, fun _ => C.refl _⟩

theorem Node.ProjectsAs.of_inPlace {m n : Node} (hm : m.inPlace = true) (hn : n.inPlace = true)
    (h : ∀ (level : Int) (isRoot : Bool), C.Related (m.project o level isRoot) (n.project o' level isRoot)) :
    m.ProjectsAs C o o' n := by
  refine ⟨h, fun level => ?_⟩
  rw [Value.projectContent_inPlace o level hm, Value.projectContent_inPlace o' level hn]
  exact C.map (h level false) _

theorem Node.projectsAs_skip {m n : Node} {notice : Notice} (hm : m.inPlace = true) (hn : n.inPlace = true)
    (hmskip : ∀ level isRoot, m.project o level isRoot = skip notice)
    (hnskip : ∀ level isRoot, n.project o' level isRoot = skip notice) : m.ProjectsAs C o o' n := by
  refine .of_inPlace hm hn fun level isRoot => ?_
  rw [hmskip, hnskip]
  exact C.refl _

theorem Node.projectsAs_multi {a b : Value} (h : a.ProjectsAs C o o' b) :
    (Node.multi a).ProjectsAs C o o' (.multi b) :=
  .of_inPlace rfl rfl fun level isRoot => C.map (h.inSequence level isRoot) some

theorem Node.projectsAs_textBlock {a b : Value} (h : a.ProjectsAs C o o' b) :
    (Node.textBlock a).ProjectsAs C o o' (.textBlock b) :=
  ⟨fun _ _ => C.refl (skip .skippedText), fun level => h.inSequence level false⟩

theorem Node.projectsAs_markup (hd : d.UnseenBy C o o') {head head' a b : Value} (hhead : d.head head head')
    (h : ∀ level : Int, C.Related (a.projectContent o level) (b.projectContent o' level)) :
    (Node.markup head a).ProjectsAs C o o' (.markup head' b) := by
  refine .of_inPlace rfl rfl fun level _ => ?_
  exact C.bind (hd.head hhead level) fun _ => C.bind (h level) fun _ => C.refl _

theorem Node.projectsAs_construct (hd : d.UnseenBy C o o') {kind : ConstructKind} {fragment fragment' a b : Value}
    (hfragment : d.fragment fragment fragment') (h : a.ProjectsAs C o o' b) :
    (Node.construct (.known kind) fragment a).ProjectsAs C o o' (.construct (.known kind) fragment' b) := by
  have hproject : ∀ (level : Int) (isRoot : Bool),
      C.Related ((Node.construct (.known kind) fragment a).project o level isRoot)
        ((Node.construct (.known kind) fragment' b).project o' level isRoot) := by
    intro level isRoot
    by_cases hkind : kind = .embedded
    · subst hkind
      rw [project_embedded, project_embedded]
      exact C.map (h.body _) some
    · rw [project_statement o level isRoot hkind, project_statement o' level isRoot hkind]
      apply C.bind (hd.fragment hfragment kind a b level)
      intro line
      exact C.bind (h.body (level + 1)) fun _ => C.refl _
  refine ⟨hproject, fun level => ?_⟩
  cases hshort : kind.isInline && a.isNull with
  | false =>
    have hm : (Node.construct (.known kind) fragment a).inPlace = true := by rw [inPlace, hshort]; rfl
    have hn : (Node.construct (.known kind) fragment' b).inPlace = true := by rw [inPlace, h.isNull, hshort]; rfl
    exact (ProjectsAs.of_inPlace hm hn hproject).asContent level
  | true =>
    -- Neither has a body, so both stand on the line of the head.
    obtain ⟨hinline, ha⟩ := Bool.and_eq_true_iff.1 hshort
    obtain rfl := Value.isNull_eq_true.1 ha
    obtain rfl := Value.isNull_eq_true.1 (h.isNull.trans ha)
    rw [Value.projectContent_inline o level hinline, Value.projectContent_inline o' level hinline]
    exact C.bind (hd.fragment hfragment kind .null .null level) fun _ => C.refl _

/-- A construct is projected as its body is. -/
theorem Node.projectsAs_body (kind : KindWord ConstructKind) (fragment : Value) {a b : Value}
    (h : a.ProjectsAs .alike o o b) :
    (Node.construct kind fragment a).ProjectsAs .alike o o (.construct kind fragment b) := by
  cases kind with
  | unknown word => exact ⟨fun _ _ => Run.Alike.refl (skip (.skippedConstruct word)), fun _ => Run.Alike.refl _⟩
  | known kind => exact projectsAs_construct (Differences.none_unseen o) rfl h

end Nodes

/-! ### Sequences -/

/-- A node in front of a sequence puts its text in front of that of the sequence. -/
theorem projectNodes_cons (o : Options) (level : Int) (isRoot : Bool) (n : Node) (rest : List Node) :
    projectNodes o level isRoot (n :: rest) = (do
      let text ← (·.getD "") <$> n.project o level isRoot
      let others ← projectNodes o level isRoot rest
      pure (text ++ others)) := by
  rw [projectNodes, bind_map_left]

/-- An entry that may be missing gives no text in front of a sequence. -/
theorem Differences.UnseenBy.missing (hd : d.UnseenBy C o o') {v : Value} (hv : d.entry v) (o : Options) (level : Int)
    (isRoot : Bool) (xs : List Value) :
    C.Related (projectNodes o level isRoot ((v :: xs).filterMap Value.node?))
      (projectNodes o level isRoot (xs.filterMap Value.node?)) := by
  cases hnode : v.node? with
  | none =>
    rw [List.filterMap_cons_none hnode]
    exact C.refl _
  | some n =>
    obtain rfl := Value.node?_eq_some.1 hnode
    rw [List.filterMap_cons_some hnode, projectNodes_cons]
    have hrest := C.bind (hd.entry hv o level isRoot) fun text =>
      C.refl (projectNodes o level isRoot (xs.filterMap Value.node?) >>= fun others => pure (text ++ others))
    simp only [pure_bind, String.empty_append, bind_pure] at hrest
    exact hrest

/-! ### Trees -/

mutual

theorem Value.SameBut.projectsAs {a b : Value} (h : a.SameBut d b) (hd : d.UnseenBy C o o') :
    a.ProjectsAs C o o' b := by
  refine ⟨fun level isRoot => ?_, h.isNull⟩
  cases h with
  | list h | tuple h | collection h =>
    rw [Value.project_sequence o level isRoot rfl, Value.project_sequence o' level isRoot rfl]
    exact h.related hd level isRoot
  | @dict xs ys h =>
    have := Value.sizeOf_keys_le xs
    have := Value.sizeOf_keys_le ys
    rw [Value.project_sequence o level isRoot rfl, Value.project_sequence o' level isRoot rfl]
    exact h.related hd level isRoot
  | node h => exact C.map ((h.projectsAs hd).inSequence level isRoot) _
  | other hnodes =>
    rw [Value.project_of_no_nodes level isRoot hnodes o o']
    exact C.refl _
termination_by sizeOf a + sizeOf b

theorem EntriesSameBut.related {xs ys : List Value} (h : EntriesSameBut d xs ys) (hd : d.UnseenBy C o o')
    (level : Int) (isRoot : Bool) :
    C.Related (projectNodes o level isRoot (xs.filterMap Value.node?))
      (projectNodes o' level isRoot (ys.filterMap Value.node?)) := by
  cases h with
  | nil => exact C.refl _
  | node hnode hrest =>
    have hrest := hrest.related hd level isRoot
    exact C.bind ((hnode.projectsAs hd).inSequence level isRoot) fun _ => C.bind hrest fun _ => C.refl _
  | other hv hrest =>
    rw [List.filterMap_cons_none hv, List.filterMap_cons_none hv]
    exact hrest.related hd level isRoot
  | @missing v xs ys hv hrest =>
    have hfront := hd.missing hv o level isRoot xs
    exact C.trans hfront (hrest.related hd level isRoot)
  | @added v xs ys hv hrest =>
    have hfront := hd.missing hv o' level isRoot ys
    exact C.trans (hrest.related hd level isRoot) (C.symm hfront)
termination_by sizeOf xs + sizeOf ys

theorem ContentSameBut.related {a b : Value} (h : ContentSameBut d a b) (hd : d.UnseenBy C o o') (level : Int) :
    C.Related (a.projectContent o level) (b.projectContent o' level) := by
  cases h with
  | node h => exact (h.projectsAs hd).asContent level
  | other hv =>
    rw [Value.projectContent_not_node o level hv, Value.projectContent_not_node o' level hv]
    exact C.refl _
  | differ ha hb => exact C.trans (hd.content ha o level) (C.symm (hd.content hb o' level))
termination_by sizeOf a + sizeOf b

theorem Node.SameBut.projectsAs {m n : Node} (h : m.SameBut d n) (hd : d.UnseenBy C o o') : m.ProjectsAs C o o' n := by
  cases h with
  | bare => exact Node.projectsAs_skip rfl rfl (fun _ _ => rfl) fun _ _ => rfl
  | lineBreak => exact .of_inPlace rfl rfl fun _ _ => C.refl _
  | unrecognized raw raw' => exact Node.projectsAs_skip rfl rfl (fun _ _ => rfl) fun _ _ => rfl
  | multi h => exact Node.projectsAs_multi (h.projectsAs hd)
  | textBlock h => exact Node.projectsAs_textBlock (h.projectsAs hd)
  | unknown word => exact ⟨fun _ _ => C.refl (skip (.skippedConstruct word)), fun _ => C.refl _⟩
  | construct hfragment h => exact Node.projectsAs_construct hd hfragment (h.projectsAs hd)
  | markup hhead h => exact Node.projectsAs_markup hd hhead (h.related hd)
termination_by sizeOf m + sizeOf n

end

/-- **Trees that are the same but for unseen differences are projected to related runs.** -/
theorem Value.SameBut.project {t u : Value} (h : t.SameBut d u) (hd : d.UnseenBy C o o') (level : Int) (isRoot : Bool) :
    C.Related (t.project o level isRoot) (u.project o' level isRoot) :=
  (h.projectsAs hd).inSequence level isRoot

end TemplateProjection
