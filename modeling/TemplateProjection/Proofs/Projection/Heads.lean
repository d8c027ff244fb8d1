import TemplateProjection.Proofs.Projection.Differences
import TemplateProjection.Proofs.Projection.Returns

/-!
# Heads count by their width

Of a markup element's head a projection takes the width, and of the width that is reported for it whether it agrees. So
heads that span the same columns may stand for one another (`Value.SameSpan`): trees that differ in such heads, at any
depth and any number of them, are projected alike (`Value.SameBut.project_heads`).
-/

namespace TemplateProjection

variable {o : Options}

/-- The head takes that many columns, and so says the width that is reported for it, if it is checked. -/
structure Value.Spans (o : Options) (head : Value) (width : Nat) : Prop where
  columns : head.headWidth = .ok width
  agrees : o.checkSourceWidth = true → head.sourceWidth.agreesWith width = true

/-- The same head, or heads of one width. -/
inductive Value.SameSpan (o : Options) : Value → Value → Prop
  | same (head : Value) : Value.SameSpan o head head
  | width {head head' : Value} (width : Nat) : head.Spans o width → head'.Spans o width → Value.SameSpan o head head'

/-- Heads of the same width. -/
def Differences.heads (o : Options) : Differences where
  head := Value.SameSpan o

theorem Value.Spans.padding {head : Value} {width : Nat} (h : head.Spans o width) :
    head.padding o = .ok (spaces width) := Value.padding_ok.2 ⟨width, h.columns, h.agrees, rfl⟩

theorem Value.SameSpan.padding {head head' : Value} (h : head.SameSpan o head') : head'.padding o = head.padding o := by
  cases h with
  | same => rfl
  | width width h h' => rw [h.padding, h'.padding]

/-- Trees that differ in heads of the same width are projected alike. -/
theorem Value.SameBut.project_heads {t u : Value} (h : t.SameBut (.heads o) u) (level : Int) (isRoot : Bool) :
    (t.project o level isRoot).Alike (u.project o level isRoot) :=
  h.project (Differences.unseen_of_padding Value.SameSpan.padding) level isRoot

end TemplateProjection
