import TemplateProjection.Run

/-!
# Where a run succeeds

A run may be looked at on those memos alone on which it succeeds: there some facts are to hold, its notices are known,
and another run is to do the same (`Run.SucceedsAs`). In a sequence the facts and the notices add up
(`Run.SucceedsAs.bind`).
-/

namespace TemplateProjection

variable {α β : Type}

/-- The facts hold, the notices were made, and the other outcome is the same. -/
structure Outcome.DoneAs (facts : Prop) (notices : List Notice) (done other : Outcome α) : Prop where
  facts : facts
  log : done.log = notices
  same : other = done

namespace Run

/-- On every memo on which the run `x` succeeds, the facts hold, it makes these notices, and `y` does the same. -/
def SucceedsAs (facts : Prop) (notices : List Notice) (x y : Run α) : Prop :=
  ∀ m a, (x.run m).result = .ok a → (x.run m).DoneAs facts notices (y.run m)

namespace SucceedsAs

variable {facts more : Prop} {notices further : List Notice} {x y : Run α}

/-- A run that always makes the same notices. -/
theorem of_log (h : ∀ m, (x.run m).log = notices) (hfacts : facts) : x.SucceedsAs facts notices x := fun m _ _ =>
  ⟨hfacts, h m, rfl⟩

theorem pure (a : α) : (Pure.pure a : Run α).SucceedsAs True [] (Pure.pure a) := of_log (fun _ => rfl) trivial

/-- What fails everywhere succeeds as anything. -/
theorem fail (e : Error) : (Run.fail e).SucceedsAs facts notices y := fun _ _ ha => nomatch ha

theorem mono (h : x.SucceedsAs facts notices y) (hmore : facts → more) (hnotices : further = notices) :
    x.SucceedsAs more further y := by
  intro m a ha
  obtain ⟨hfacts, hlog, hsame⟩ := h m a ha
  exact ⟨hmore hfacts, hlog.trans hnotices.symm, hsame⟩

theorem bind {f g : α → Run β} (h : x.SucceedsAs facts notices y) (hfg : ∀ a, (f a).SucceedsAs more further (g a)) :
    (x >>= f).SucceedsAs (facts ∧ more) (notices ++ further) (y >>= g) := by
  intro m b hb
  rw [run_bind] at hb
  split at hb
  · rename_i a ha
    obtain ⟨hfacts, hlog, hsame⟩ := h m a ha
    obtain ⟨hmore, hlog', hsame'⟩ := hfg a (x.run m).memo b hb
    refine ⟨⟨hfacts, hmore⟩, ?_, ?_⟩
    · simp only [run_bind, ha, hlog, hlog']
    · simp only [run_bind, hsame, ha, hsame']
  · cases hb

/-- What is done with the value alone adds nothing. -/
theorem map (h : x.SucceedsAs facts notices y) (f : α → β) : (f <$> x).SucceedsAs facts notices (f <$> y) := by
  rw [map_eq_pure_bind, map_eq_pure_bind]
  exact (h.bind fun a => pure (f a)).mono And.left (List.append_nil notices).symm

end SucceedsAs

end Run

end TemplateProjection
