import Mathlib.Data.List.Forall2
import TemplateProjection.Logged

/-!
# Related outcomes

Two computations may return related values, or fail with related errors (`Logged.Related`), whatever they note.
Sequences of related parts are related (`Logged.Related.bind`).
-/

namespace TemplateProjection

variable {α α' β β' : Type}

/-- Both results are values, which are related, or both are errors, which are. -/
inductive RelatedResults (Q : Error → Error → Prop) (R : α → β → Prop) : Except Error α → Except Error β → Prop
  | ok {a : α} {b : β} : R a b → RelatedResults Q R (.ok a) (.ok b)
  | error {e e' : Error} : Q e e' → RelatedResults Q R (.error e) (.error e')

theorem RelatedResults.mono {Q Q' : Error → Error → Prop} {R R' : α → β → Prop} {r : Except Error α}
    {s : Except Error β} (h : RelatedResults Q R r s) (hQ : ∀ e e', Q e e' → Q' e e') (hR : ∀ a b, R a b → R' a b) :
    RelatedResults Q' R' r s := by
  cases h with
  | ok h => exact .ok (hR _ _ h)
  | error h => exact .error (hQ _ _ h)

/-- If one result is a value then so is the other, and they are related. -/
theorem RelatedResults.exists_ok {Q : Error → Error → Prop} {R : α → β → Prop} {r : Except Error α}
    {s : Except Error β} (h : RelatedResults Q R r s) {a : α} (ha : r = .ok a) : ∃ b, s = .ok b ∧ R a b := by
  cases h with
  | ok h =>
    obtain rfl := Except.ok.inj ha
    exact ⟨_, rfl, h⟩
  | error _ => cases ha

namespace Logged

/-- The computations return related values or fail with related errors. -/
def Related (Q : Error → Error → Prop) (R : α → β → Prop) (x : Logged α) (y : Logged β) : Prop :=
  RelatedResults Q R x.result y.result

namespace Related

variable {Q : Error → Error → Prop} {R : α → β → Prop} {R' : α' → β' → Prop} {x : Logged α} {y : Logged β}

theorem pure {a : α} {b : β} (h : R a b) : (Pure.pure a : Logged α).Related Q R (Pure.pure b) := .ok h

theorem fail {e e' : Error} (h : Q e e') : (Logged.fail e : Logged α).Related Q R (Logged.fail e' : Logged β) :=
  .error h

theorem bind {f : α → Logged α'} {g : β → Logged β'} (h : x.Related Q R y)
    (hfg : ∀ a b, R a b → (f a).Related Q R' (g b)) : (x >>= f).Related Q R' (y >>= g) := by
  rcases x with ⟨r, log⟩
  rcases y with ⟨s, log'⟩
  cases h with
  | ok h => exact hfg _ _ h
  | error h => exact .error h

/-- Parts that need not return the same are followed by related ones if both return. -/
theorem bind_of_ok {a : α} {b : β} {f : α → Logged α'} {g : β → Logged β'} (hx : x.result = .ok a)
    (hy : y.result = .ok b) (h : (f a).Related Q R' (g b)) : (x >>= f).Related Q R' (y >>= g) := by
  rw [bind_ok hx, bind_ok hy]
  exact h

end Related

end Logged

end TemplateProjection
