import TemplateProjection.Logged
import TemplateProjection.Memo
import TemplateProjection.Options

/-!
# Runs

A run works on the memo of its session. Its outcome is a value or an error, the memo it leaves and the notices it made;
after an error the memo and the notices are those made up to it. A run sees no notice, so notices only ever add up.

`Run.indentation` is the one operation that reads and extends the memo.
-/

namespace TemplateProjection

structure Outcome (α : Type) where
  result : Except Error α
  memo : Memo
  log : List Notice

structure Run (α : Type) where
  run : Memo → Outcome α

namespace Run

variable {α β : Type}

@[ext]
theorem ext {x y : Run α} (h : ∀ m, x.run m = y.run m) : x = y := by
  cases x
  cases y
  exact congrArg Run.mk (funext h)

/-- A run that fails. -/
def fail (e : Error) : Run α := ⟨fun m => ⟨.error e, m, []⟩⟩

/-- One notice. -/
def note (n : Notice) : Run Unit := ⟨fun m => ⟨.ok (), m, [n]⟩⟩

/-- A result that needs no memo. -/
def ofExcept (r : Except Error α) : Run α := ⟨fun m => ⟨r, m, []⟩⟩

/-- A result with its notices. -/
def ofLogged (x : Logged α) : Run α := ⟨fun m => ⟨x.result, m, x.log⟩⟩

protected def pure (a : α) : Run α := ⟨fun m => ⟨.ok a, m, []⟩⟩

protected def bind (x : Run α) (f : α → Run β) : Run β :=
  ⟨fun m =>
    let first := x.run m
    match first.result with
    | .ok a =>
      let second := (f a).run first.memo
      ⟨second.result, second.memo, first.log ++ second.log⟩
    | .error e => ⟨.error e, first.memo, first.log⟩⟩

instance : Monad Run where
  pure := Run.pure
  bind := Run.bind

@[simp]
theorem run_pure (a : α) (m : Memo) : (pure a : Run α).run m = ⟨.ok a, m, []⟩ := rfl

theorem run_bind (x : Run α) (f : α → Run β) (m : Memo) :
    (x >>= f).run m = match (x.run m).result with
      | .ok a => ⟨((f a).run (x.run m).memo).result, ((f a).run (x.run m).memo).memo,
          (x.run m).log ++ ((f a).run (x.run m).memo).log⟩
      | .error e => ⟨.error e, (x.run m).memo, (x.run m).log⟩ := rfl

instance : LawfulMonad Run := LawfulMonad.mk' Run
  (by
    intro α x
    refine ext fun m => ?_
    rcases h : x.run m with ⟨r, memo, log⟩
    cases r <;> simp [Functor.map, Run.bind, Run.pure, h])
  (by
    intro α β a f
    refine ext fun m => ?_
    simp [run_bind])
  (by
    intro α β γ x f g
    refine ext fun m => ?_
    rcases h : x.run m with ⟨r, memo, log⟩
    cases r with
    | error e => simp [run_bind, h]
    | ok a =>
      rcases hf : (f a).run memo with ⟨s, memo', more⟩
      cases s <;> simp [run_bind, h, hf])

/-- The memo is emptied. -/
def clearMemo : Run Unit := ⟨fun _ => ⟨.ok (), .empty, []⟩⟩

/-- The indentation of a level: remembered, or made and remembered. There is none of a negative level. -/
def indentation (o : Options) : (level : Int) → Run String
  | .negSucc n => fail (.ofCause (.negativeLevel (.negSucc n)))
  | .ofNat level => ⟨fun m =>
    match m.get? level with
    | some text => ⟨.ok text, m, []⟩
    | none => ⟨.ok (spaces (o.indentWidth * level)), m.insert level (spaces (o.indentWidth * level)), []⟩⟩

end Run

end TemplateProjection
