import TemplateProjection.Proofs.Error.Alike
import TemplateProjection.Run

/-!
# Runs that do the same

Two runs are alike if on every memo they give one value, or errors that differ in nothing but the value that they blame,
and leave one memo and the same notices. So alike runs may stand for one another in every sequence (`Run.Alike.bind`).
-/

namespace TemplateProjection

variable {α β : Type}

/-- The outcomes differ in nothing but the value that an error blames. -/
structure Outcome.Alike (x y : Outcome α) : Prop where
  result : AlikeResults x.result y.result
  memo : x.memo = y.memo
  log : x.log = y.log

/-- On every memo, the outcomes are alike. -/
def Run.Alike (x y : Run α) : Prop := ∀ m, (x.run m).Alike (y.run m)

namespace Run.Alike

variable {x y z : Run α}

theorem refl (x : Run α) : x.Alike x := fun _ => ⟨.refl _, rfl, rfl⟩

theorem of_eq (h : x = y) : x.Alike y := h ▸ refl x

theorem trans (h : x.Alike y) (h' : y.Alike z) : x.Alike z := fun m =>
  ⟨(h m).result.trans (h' m).result, (h m).memo.trans (h' m).memo, (h m).log.trans (h' m).log⟩

theorem ofExcept {r s : Except Error α} (h : AlikeResults r s) : (Run.ofExcept r).Alike (Run.ofExcept s) :=
  fun _ => ⟨h, rfl, rfl⟩

/-- Runs are alike if they start alike and, on every value that they start with, go on alike. -/
theorem bind {f g : α → Run β} (h : x.Alike y) (hfg : ∀ a, (f a).Alike (g a)) : (x >>= f).Alike (y >>= g) := by
  intro m
  obtain ⟨hresult, hmemo, hlog⟩ := h m
  rw [run_bind, run_bind, ← hmemo, ← hlog]
  rcases hresult.cases with ⟨a, hx, hy⟩ | ⟨e, e', hx, hy, he⟩
  · obtain ⟨hresult', hmemo', hlog'⟩ := hfg a (x.run m).memo
    rw [hx, hy]
    exact ⟨hresult', hmemo', congrArg ((x.run m).log ++ ·) hlog'⟩
  · rw [hx, hy]
    exact ⟨.error he, rfl, rfl⟩

theorem map (h : x.Alike y) (f : α → β) : (f <$> x).Alike (f <$> y) := by
  rw [map_eq_pure_bind, map_eq_pure_bind]
  exact h.bind fun a => refl _

end Run.Alike

end TemplateProjection
