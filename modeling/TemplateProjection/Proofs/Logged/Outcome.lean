import TemplateProjection.Logged
import TemplateProjection.Proofs.Error.Alike

/-!
# Outcomes of logged computations

A sequence returns a value if its first part returns one and the second part, given it, returns that value
(`Logged.bind_result_ok`). Its error is that of the first part, or else that of the second (`Logged.error?_bind`).
Sequences of parts with alike results have alike results (`Logged.Alike.bind`), whatever is noted. What a sequence
yields, a value with its notices, follows from what its parts yield (`Logged.Yields.bind`).
-/

namespace TemplateProjection

/-- The error of a result that is one. -/
def errorOf {α : Type} : Except Error α → Option Error
  | .ok _ => none
  | .error e => some e

theorem errorOf_eq_some {α : Type} {r : Except Error α} {e : Error} : errorOf r = some e ↔ r = .error e := by
  cases r <;> simp [errorOf]

namespace Logged

variable {α β : Type}

/-- The error that a computation ends with. -/
def error? (x : Logged α) : Option Error := errorOf x.result

theorem bind_result_ok {x : Logged α} {f : α → Logged β} {b : β} :
    (x >>= f).result = .ok b ↔ ∃ a, x.result = .ok a ∧ (f a).result = .ok b := by
  cases h : x.result with
  | error e =>
    rw [bind_error h]
    constructor
    · intro hb
      cases hb
    · rintro ⟨a, ha, -⟩
      cases ha
  | ok a =>
    rw [bind_ok h]
    constructor
    · exact fun hb => ⟨a, rfl, hb⟩
    · rintro ⟨a', ha, hb⟩
      cases ha
      exact hb

/-- If the second part has the same error whatever it is given, the first error decides. -/
theorem error?_bind {x : Logged α} {f : α → Logged β} {e? : Option Error}
    (h : ∀ a, x.result = .ok a → (f a).error? = e?) : (x >>= f).error? = x.error?.or e? := by
  show errorOf (x >>= f).result = (errorOf x.result).or e?
  cases hx : x.result with
  | error e =>
    rw [bind_error hx]
    rfl
  | ok a =>
    rw [bind_ok hx, ← h a hx]
    rfl

theorem error?_bind_pure {x : Logged α} {g : α → β} : (x >>= fun a => pure (g a)).error? = x.error? := by
  have h : (x >>= fun a => pure (g a)).error? = x.error?.or none := error?_bind fun _ _ => rfl
  rw [h, Option.or_none]

/-! ## Alike results -/

/-- The results differ in nothing but the value that an error blames. -/
def Alike (x y : Logged α) : Prop := AlikeResults x.result y.result

namespace Alike

variable {x y : Logged α}

theorem refl (x : Logged α) : x.Alike x := AlikeResults.refl _

/-- What is noted does not count. -/
theorem of_result_eq (h : x.result = y.result) : x.Alike y := congrArg _ h

theorem fail {e e' : Error} (h : e.withoutNode = e'.withoutNode) : (Logged.fail e : Logged α).Alike (Logged.fail e') :=
  AlikeResults.error h

/-- Parts that return are alike in what they hand on. -/
theorem bind_of_ok {a b : α} {f g : α → Logged β} (hx : x.result = .ok a) (hy : y.result = .ok b)
    (h : (f a).Alike (g b)) : (x >>= f).Alike (y >>= g) := by
  rw [bind_ok hx, bind_ok hy]
  exact h

theorem bind {f g : α → Logged β} (h : x.Alike y) (hfg : ∀ a, (f a).Alike (g a)) : (x >>= f).Alike (y >>= g) := by
  rcases h.cases with ⟨a, hx, hy⟩ | ⟨e, e', hx, hy, he⟩
  · exact bind_of_ok hx hy (hfg a)
  · rw [bind_error hx, bind_error hy]
    exact .error he

theorem map (h : x.Alike y) (f : α → β) : (f <$> x).Alike (f <$> y) := by
  rw [map_eq_pure_bind, map_eq_pure_bind]
  exact h.bind fun a => refl _

end Alike

/-! ## Values with their notices -/

/-- If a value is returned, it is so with such notices. -/
def Yields (x : Logged α) (P : α → List Notice → Prop) : Prop := ∀ a, x.result = .ok a → P a x.log

namespace Yields

variable {P : α → List Notice → Prop} {Q : β → List Notice → Prop} {x : Logged α}

theorem pure {a : α} (h : P a []) : (Pure.pure a : Logged α).Yields P := by
  intro b hb
  obtain rfl := Except.ok.inj hb
  exact h

theorem fail (e : Error) : (Logged.fail e : Logged α).Yields P := nofun

/-- A result without notices. -/
theorem ofExcept {r : Except Error α} (h : ∀ a, r = .ok a → P a []) : (Logged.ofExcept r).Yields P := h

theorem mono {P' : α → List Notice → Prop} (h : x.Yields P) (hP : ∀ a log, P a log → P' a log) : x.Yields P' :=
  fun a ha => hP a x.log (h a ha)

theorem bind {f : α → Logged β} (h : x.Yields P)
    (hf : ∀ a log, P a log → (f a).Yields fun b more => Q b (log ++ more)) : (x >>= f).Yields Q := by
  intro b hb
  obtain ⟨a, ha, hb⟩ := bind_result_ok.1 hb
  rw [bind_ok ha]
  exact hf a x.log (h a ha) b hb

end Yields

end Logged

end TemplateProjection
