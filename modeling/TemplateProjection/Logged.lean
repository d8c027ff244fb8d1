import TemplateProjection.Error.Basic
import TemplateProjection.Notice

/-!
# Results with a log

`Logged α` is a value or an error, beside the notices made on the way. Notices made before an error are kept, and
nothing is noted after one.
-/

namespace TemplateProjection

structure Logged (α : Type) where
  result : Except Error α
  log : List Notice

namespace Logged

variable {α β : Type}

/-- A computation that fails. -/
def fail (e : Error) : Logged α := ⟨.error e, []⟩

/-- One notice. -/
def note (n : Notice) : Logged Unit := ⟨.ok (), [n]⟩

/-- A result that needs no notice. -/
def ofExcept (r : Except Error α) : Logged α := ⟨r, []⟩

protected def pure (a : α) : Logged α := ⟨.ok a, []⟩

protected def bind (x : Logged α) (f : α → Logged β) : Logged β :=
  match x.result with
  | .ok a => ⟨(f a).result, x.log ++ (f a).log⟩
  | .error e => ⟨.error e, x.log⟩

instance : Monad Logged where
  pure := Logged.pure
  bind := Logged.bind

theorem bind_ok {x : Logged α} {a : α} (h : x.result = .ok a) (f : α → Logged β) :
    x >>= f = ⟨(f a).result, x.log ++ (f a).log⟩ := by
  simp only [bind, Logged.bind, h]

theorem bind_error {x : Logged α} {e : Error} (h : x.result = .error e) (f : α → Logged β) :
    x >>= f = ⟨.error e, x.log⟩ := by
  simp only [bind, Logged.bind, h]

@[simp]
theorem pure_def (a : α) : (pure a : Logged α) = ⟨.ok a, []⟩ := rfl

instance : LawfulMonad Logged := LawfulMonad.mk' Logged
  (by
    intro α x
    rcases x with ⟨r, log⟩
    cases r <;> simp [Functor.map, Logged.bind, Logged.pure])
  (by
    intro α β a f
    simp [bind, Logged.bind])
  (by
    intro α β γ x f g
    rcases x with ⟨r, log⟩
    cases r with
    | error e => simp [bind, Logged.bind]
    | ok a =>
      rcases h : f a with ⟨s, more⟩
      cases s <;> simp [bind, Logged.bind, h])

end Logged

end TemplateProjection
