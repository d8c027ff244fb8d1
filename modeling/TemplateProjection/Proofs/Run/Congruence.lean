import TemplateProjection.Proofs.Run.Alike

/-!
# Congruences of runs

A congruence is an equivalence of runs that sequences keep (`Run.Congruence`): what is proved of an arbitrary one holds
of each. Two are in use. `Run.Congruence.alike` compares results, memos and notices; `Run.Congruence.butNotices` lets
the notices be.
-/

namespace TemplateProjection

variable {α β : Type}

/-- The outcomes differ in nothing but their notices and the value that an error blames. -/
structure Outcome.AlikeButNotices (x y : Outcome α) : Prop where
  result : AlikeResults x.result y.result
  memo : x.memo = y.memo

namespace Run

/-- On every memo, the outcomes are alike but for their notices. -/
def AlikeButNotices (x y : Run α) : Prop := ∀ m, (x.run m).AlikeButNotices (y.run m)

theorem AlikeButNotices.bind {x y : Run α} {f g : α → Run β} (h : x.AlikeButNotices y)
    (hfg : ∀ a, (f a).AlikeButNotices (g a)) : (x >>= f).AlikeButNotices (y >>= g) := by
  intro m
  obtain ⟨hresult, hmemo⟩ := h m
  rw [run_bind, run_bind, ← hmemo]
  rcases hresult.cases with ⟨a, hx, hy⟩ | ⟨e, e', hx, hy, he⟩
  · obtain ⟨hresult', hmemo'⟩ := hfg a (x.run m).memo
    rw [hx, hy]
    exact ⟨hresult', hmemo'⟩
  · rw [hx, hy]
    exact ⟨.error he, rfl⟩

/-- An equivalence of runs that sequences keep. -/
structure Congruence where
  Related : {α : Type} → Run α → Run α → Prop
  equivalence : ∀ α : Type, Equivalence (Related (α := α))
  bind : ∀ {α β : Type} {x y : Run α} {f g : α → Run β}, Related x y → (∀ a, Related (f a) (g a)) →
    Related (x >>= f) (y >>= g)

namespace Congruence

/-- One value or alike errors, one memo and the same notices. -/
def alike : Congruence where
  Related := Run.Alike
  equivalence _ := {
    refl := Alike.refl
    symm := fun h m => ⟨(h m).result.symm, (h m).memo.symm, (h m).log.symm⟩
    trans := Alike.trans }
  bind := Alike.bind

/-- One value or alike errors, and one memo. -/
def butNotices : Congruence where
  Related := AlikeButNotices
  equivalence _ := {
    refl := fun _ _ => ⟨.refl _, rfl⟩
    symm := fun h m => ⟨(h m).result.symm, (h m).memo.symm⟩
    trans := fun h h' m => ⟨(h m).result.trans (h' m).result, (h m).memo.trans (h' m).memo⟩ }
  bind := AlikeButNotices.bind

variable (C : Congruence) {x y z : Run α}

theorem refl (x : Run α) : C.Related x x := (C.equivalence α).refl x

theorem symm (h : C.Related x y) : C.Related y x := (C.equivalence α).symm h

theorem trans (h : C.Related x y) (h' : C.Related y z) : C.Related x z := (C.equivalence α).trans h h'

theorem map (h : C.Related x y) (f : α → β) : C.Related (f <$> x) (f <$> y) := by
  rw [map_eq_pure_bind, map_eq_pure_bind]
  exact C.bind h fun a => C.refl _

end Congruence

end Run

end TemplateProjection
