import TemplateProjection.Proofs.Logged.Outcome
import TemplateProjection.Proofs.Run.Transparent

/-!
# Results of runs

`x.Returns a` says that the run `x`, started on the empty memo, succeeds with `a`. A sequence of transparent runs
returns what its last run returns, each started on the empty memo (`Run.returns_bind`): so results are computed without
a memo. `x.error?` is the error that the run ends with on the empty memo, and of a sequence the first error decides
(`Run.error?_bind`).
-/

namespace TemplateProjection

namespace Run

variable {α β : Type} {o : Options}

/-- On the empty memo, the run succeeds with this value. -/
def Returns (x : Run α) (a : α) : Prop := x.fresh.result = .ok a

@[simp]
theorem returns_pure {a b : α} : (pure a : Run α).Returns b ↔ b = a :=
  ⟨fun h => (Except.ok.inj h).symm, fun h => h ▸ rfl⟩

@[simp]
theorem returns_fail {e : Error} {a : α} : ¬ (fail e : Run α).Returns a := nofun

@[simp]
theorem returns_ofExcept {r : Except Error α} {a : α} : (ofExcept r).Returns a ↔ r = .ok a := .rfl

@[simp]
theorem returns_indentation {level : Nat} {s : String} :
    (indentation o level).Returns s ↔ s = spaces (o.indentWidth * level) :=
  ⟨fun h => (Except.ok.inj h).symm, fun h => h ▸ rfl⟩

theorem returns_bind {x : Run α} {f : α → Run β} (hx : x.Transparent o) (hf : ∀ a, (f a).Transparent o) {b : β} :
    (x >>= f).Returns b ↔ ∃ a, x.Returns a ∧ (f a).Returns b := by
  rw [Returns, fresh_bind hx hf]
  exact Logged.bind_result_ok

theorem returns_map {x : Run α} (hx : x.Transparent o) {f : α → β} {b : β} :
    (f <$> x).Returns b ↔ ∃ a, x.Returns a ∧ b = f a := by
  rw [map_eq_pure_bind, returns_bind hx fun a => pure_transparent (f a)]
  simp only [returns_pure]

/-! ## Errors -/

/-- The error that the run ends with on the empty memo. -/
def error? (x : Run α) : Option Error := x.fresh.error?

theorem error?_eq_some {x : Run α} {e : Error} : x.error? = some e ↔ x.fresh.result = .error e := errorOf_eq_some

theorem error?_eq_none {x : Run α} : x.error? = none ↔ ∃ a, x.Returns a := by
  unfold error? Logged.error? Returns
  cases x.fresh.result with
  | ok a => exact ⟨fun _ => ⟨a, rfl⟩, fun _ => rfl⟩
  | error e => exact ⟨nofun, nofun⟩

/-- If the second run has the same error whatever it is given, the first error decides. -/
theorem error?_bind {x : Run α} {f : α → Run β} (hx : x.Transparent o) (hf : ∀ a, (f a).Transparent o)
    {e? : Option Error} (h : ∀ a, x.Returns a → (f a).error? = e?) : (x >>= f).error? = x.error?.or e? := by
  unfold error?
  rw [fresh_bind hx hf]
  exact Logged.error?_bind h

theorem error?_bind_pure {x : Run α} (hx : x.Transparent o) (g : α → β) :
    (x >>= fun a => pure (g a)).error? = x.error? := by
  have hpure : ∀ a, x.Returns a → (pure (g a) : Run β).error? = none := fun _ _ => rfl
  rw [error?_bind hx (fun a => pure_transparent (g a)) hpure, Option.or_none]

theorem error?_map {x : Run α} (hx : x.Transparent o) (g : α → β) : (g <$> x).error? = x.error? := by
  rw [map_eq_pure_bind, error?_bind_pure hx g]

end Run

end TemplateProjection
