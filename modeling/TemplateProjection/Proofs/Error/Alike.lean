import TemplateProjection.Error.Basic

/-!
# Results but for the value at fault

Two results are alike if they are one value, or errors that differ in nothing but the value that they blame: they have
one cause, and with it one family, one code and one line, and one path.
-/

namespace TemplateProjection

/-- The error without the value that it blames; its cause and its path stay. -/
def Error.withoutNode (e : Error) : Error :=
  match e with
  | .failure f => .failure { f with node := .null }
  | .access fault => .access fault
  | .notAMember value typeName => .notAMember value typeName

/-- The same value, or errors that differ in nothing but the value that they blame. -/
def AlikeResults {α : Type} (r s : Except Error α) : Prop :=
  r.mapError Error.withoutNode = s.mapError Error.withoutNode

namespace AlikeResults

variable {α β : Type} {r s t : Except Error α}

theorem refl (r : Except Error α) : AlikeResults r r := rfl

theorem trans (h : AlikeResults r s) (h' : AlikeResults s t) : AlikeResults r t := Eq.trans h h'

theorem error {e e' : Error} (h : e.withoutNode = e'.withoutNode) : AlikeResults (α := α) (.error e) (.error e') :=
  congrArg Except.error h

/-- Alike results are both values, and then the same one, or both errors. -/
theorem cases (h : AlikeResults r s) : (∃ a, r = .ok a ∧ s = .ok a) ∨
    ∃ e e', r = .error e ∧ s = .error e' ∧ e.withoutNode = e'.withoutNode := by
  unfold AlikeResults at h
  cases r with
  | ok a =>
    cases s with
    | ok b => exact .inl ⟨a, rfl, congrArg Except.ok (Except.ok.inj h).symm⟩
    | error e => cases h
  | error e =>
    cases s with
    | ok b => cases h
    | error e' => exact .inr ⟨e, e', rfl, rfl, Except.error.inj h⟩

theorem ok_iff (h : AlikeResults r s) (a : α) : r = .ok a ↔ s = .ok a := by
  rcases h.cases with ⟨b, rfl, rfl⟩ | ⟨e, e', rfl, rfl, -⟩
  · rfl
  · exact ⟨nofun, nofun⟩

end AlikeResults

end TemplateProjection
