import TemplateProjection.Proofs.Projection.Differences

/-!
# What gives no text

Some entries of a sequence give no text, whatever they hold (`Value.isSilent`): what is no node, nodes that are skipped,
among them every text block, and embedded blocks without a body. Contents that are skipped are as good as none
(`Value.isEmptyContent`), and blanks around a fragment are not shown (`Text.strip_of_surrounded`). Trees that differ
only so, at any depth, give one text and leave one memo, or they fail for the same cause (`project_silence`).
-/

namespace TemplateProjection

/-! ## Blanks around a text -/

namespace Text

/-- The second text is the first one with blanks in front of it and behind it. -/
def Surrounded (s t : String) : Prop := ∃ before behind : List Char, (∀ c ∈ before, isBlank c = true) ∧
  (∀ c ∈ behind, isBlank c = true) ∧ t.toList = before ++ s.toList ++ behind

theorem Surrounded.refl (s : String) : Surrounded s s := ⟨[], [], nofun, nofun, by simp⟩

theorem trimEnd_append {behind : List Char} (h : ∀ c ∈ behind, isBlank c = true) (cs : List Char) :
    trimEnd (cs ++ behind) = trimEnd cs := by
  have hreverse : ∀ c ∈ behind.reverse, isBlank c = true := fun c hc => h c (List.mem_reverse.1 hc)
  rw [trimEnd, trimEnd, List.reverse_append, List.dropWhile_append_of_pos hreverse]

theorem trim_surrounded {before behind : List Char} (hbefore : ∀ c ∈ before, isBlank c = true)
    (hbehind : ∀ c ∈ behind, isBlank c = true) (cs : List Char) : trim (before ++ cs ++ behind) = trim cs := by
  have hfront : (before ++ cs ++ behind).dropWhile isBlank = (cs ++ behind).dropWhile isBlank := by
    rw [List.append_assoc, List.dropWhile_append_of_pos hbefore]
  rw [trim, trim, hfront, List.dropWhile_append]
  split
  · -- The text is blank, and so is all of it.
    rename_i hblank
    have hnone : (behind ++ []).dropWhile isBlank = [] := List.dropWhile_append_of_pos hbehind
    rw [List.append_nil] at hnone
    rw [hnone, List.isEmpty_iff.1 hblank]
  · exact trimEnd_append hbehind _

theorem strip_of_surrounded {s t : String} (h : Surrounded s t) : strip t = strip s := by
  obtain ⟨before, behind, hbefore, hbehind, ht⟩ := h
  rw [strip, strip, ht, trim_surrounded hbefore hbehind]

end Text

/-! ## Silent differences -/

namespace Value

/-- An entry of a sequence that gives no text, whatever it holds. -/
def isSilent : Value → Bool
  | node .bare | node (.unrecognized _) | node (.textBlock _) | node (.construct (.unknown _) _ _) => true
  | node (.construct (.known .embedded) _ body) => body.isNull
  | node _ => false
  | _ => true

/-- A content of a markup element that is none, or is skipped. -/
def isEmptyContent : Value → Bool
  | null | node .bare | node (.unrecognized _) => true
  | _ => false

/-- The same fragment, or one code with blanks around it. -/
inductive SameCode : Value → Value → Prop
  | same (v : Value) : SameCode v v
  | surrounded {code s t : String} : Text.Surrounded code s → Text.Surrounded code t → SameCode (str s) (str t)

end Value

/-- Entries that give no text, contents that are skipped, and blanks around fragments. -/
def Differences.silence : Differences where
  entry v := v.isSilent = true
  content v := v.isEmptyContent = true
  fragment := Value.SameCode

/-! ## Silent projections -/

variable {o : Options}

/-- What is skipped gives no text; the notice apart, nothing is left of it. -/
theorem skip_silent (notice : Notice) : ((·.getD "") <$> skip notice).AlikeButNotices (pure "") :=
  fun _ => ⟨.refl _, rfl⟩

theorem Node.project_silent {n : Node} (h : (Value.node n).isSilent = true) (level : Int) (isRoot : Bool) :
    ((·.getD "") <$> n.project o level isRoot).AlikeButNotices (pure "") := by
  cases n with
  | bare | unrecognized | textBlock => exact skip_silent _
  | lineBreak | multi | markup => cases h
  | construct kind fragment body =>
    cases kind with
    | unknown word => exact skip_silent _
    | known kind =>
      cases kind with
      | embedded =>
        obtain rfl := Value.isNull_eq_true.1 h
        rw [project_embedded]
        exact fun _ => ⟨.refl _, rfl⟩
      | _ => cases h

theorem Value.projectContent_silent {v : Value} (h : v.isEmptyContent = true) (level : Int) :
    (v.projectContent o level).AlikeButNotices (pure "") := by
  cases v with
  | null => exact fun _ => ⟨.refl _, rfl⟩
  | node n =>
    cases n with
    | bare | unrecognized => exact skip_silent _
    | _ => cases h
  | _ => cases h

theorem shownCode_sameCode {f f' : Value} (h : f.SameCode f') (kind : KindWord ConstructKind) (body body' : Value) :
    AlikeResults (shownCode kind f body) (shownCode kind f' body') := by
  cases h with
  | same => exact shownCode_alike kind f body body'
  | @surrounded code s t hs ht =>
    have hstrip : Text.strip s = Text.strip t := (Text.strip_of_surrounded hs).trans (Text.strip_of_surrounded ht).symm
    exact congrArg (fun shown => Except.ok shown) hstrip

theorem Run.Alike.butNotices {α : Type} {x y : Run α} (h : x.Alike y) : x.AlikeButNotices y :=
  fun m => ⟨(h m).result, (h m).memo⟩

theorem Differences.silence_unseen (o : Options) : silence.UnseenBy Run.Congruence.butNotices o o where
  entry h _ level isRoot := Node.project_silent h level isRoot
  content h _ level := Value.projectContent_silent h level
  fragment h kind body body' level := by
    have hcode := Run.Alike.ofExcept (shownCode_sameCode h (.known kind) body body')
    have hline : Run.Alike (statementHead o (.known kind) _ body level) (statementHead o (.known kind) _ body' level) :=
      (Run.Alike.refl (Run.indentation o level)).bind fun _ => hcode.bind fun _ => .refl _
    exact hline.butNotices
  head h level := by
    rw [h]
    exact Run.Congruence.butNotices.refl _

/-- **What gives no text does not matter.** Entries that give no text may be put into the sequences of a tree, or taken
out of them, or exchanged, at any depth: so what a text block holds counts only where the block is a markup element's
content. A content that is skipped may give way to none, and fragments may be surrounded by blanks. At every level and
on every memo the text stays and so does the memo that is left, or both projections fail for the same cause. -/
theorem project_silence {t u : Value} (h : t.SameBut .silence u) (o : Options) (level : Int) (isRoot : Bool) :
    (t.project o level isRoot).AlikeButNotices (u.project o level isRoot) :=
  h.project (Differences.silence_unseen o) level isRoot

/-- In a container, a text block whose children cannot be gone through gives way to one that holds a control without its
code; a cell loses its comment, an output gains blanks, and entries come and go in the body of a control. -/
theorem project_silence_row :
    let cell (content : Value) := Value.node (.markup (.tagHead (.str "td")) content)
    let control (fragment : Value) (body : List Value) :=
      Value.node (.construct (.known .control) fragment (.tuple body))
    let output (fragment : String) := Value.node (.construct (.known .output) (.str fragment) .null)
    let block (children : Value) := Value.node (.textBlock children)
    let emptyBlock := Value.node (.construct (.known .embedded) .null .null)
    let row := Value.tuple [.str "junk", cell (.node (.unrecognized (.list []))),
      .node (.multi (.tuple [block (.int 5), output "x"])), control (.str "if a") [emptyBlock, .node .lineBreak]]
    let other := Value.tuple [cell .null, .node (.multi (.tuple [block (.tuple [control .null []]), output "\tx "])),
      control (.str "if a\n") [.node .lineBreak, .node (.construct (.unknown "call") .null .null)]]
    row.SameBut .silence other ∧ (row.project {} 1 true).AlikeButNotices (other.project {} 1 true) ∧
      ((other.project {} 1 true).run .empty).result = .ok "      x  if a\n" := by
  intro cell control output block emptyBlock row other
  have hblank : ∀ {c : Char}, Text.isBlank c = true → ∀ d ∈ [c], Text.isBlank d = true := by
    intro c hc d hd
    exact List.mem_singleton.1 hd ▸ hc
  have houtput : Text.Surrounded "x" "\tx " := ⟨['\t'], [' '], hblank rfl, hblank rfl, rfl⟩
  have hcontrol : Text.Surrounded "if a" "if a\n" := ⟨[], ['\n'], nofun, hblank rfl, rfl⟩
  have hcell : Node.SameBut .silence (.markup (.tagHead (.str "td")) (.node (.unrecognized (.list []))))
      (.markup (.tagHead (.str "td")) .null) := .markup rfl (.differ rfl rfl)
  have hinner : EntriesSameBut .silence [block (.int 5), output "x"]
      [block (.tuple [control .null []]), output "\tx "] :=
    .replaced rfl rfl (.node (.construct (.surrounded (.refl "x") houtput) (.other rfl)) .nil)
  have hbody : EntriesSameBut .silence [emptyBlock, .node .lineBreak]
      [.node .lineBreak, .node (.construct (.unknown "call") .null .null)] :=
    .missing rfl (.node .lineBreak (.added rfl .nil))
  have hlast : Node.SameBut .silence
      (.construct (.known .control) (.str "if a") (.tuple [emptyBlock, .node .lineBreak]))
      (.construct (.known .control) (.str "if a\n")
        (.tuple [.node .lineBreak, .node (.construct (.unknown "call") .null .null)])) :=
    .construct (.surrounded (.refl "if a") hcontrol) (.tuple hbody)
  have hrow : row.SameBut .silence other :=
    .tuple (.missing rfl (.node hcell (.node (.multi (.tuple hinner)) (.node hlast .nil))))
  exact ⟨hrow, project_silence hrow {} 1 true, rfl⟩

end TemplateProjection
