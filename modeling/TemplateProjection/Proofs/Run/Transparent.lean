import TemplateProjection.Proofs.Memo.Union
import TemplateProjection.Session

/-!
# Runs that a sound memo does not change

A run is *transparent* if on every sound memo it gives the result and the notices that it gives on the empty one, and
leaves the memo it was given, joined with the one it leaves when it starts on the empty one (`Run.Transparent`). The
operations of a run are transparent and `bind` keeps it, so the whole projection is transparent
(`Value.project_transparent`), however deep in a tree it fails.

On transparent runs, what a run gives on the empty memo can be computed without a memo (`Run.fresh_bind`).
-/

namespace TemplateProjection

namespace Run

variable {α β : Type} {o : Options}

/-- The memo that a run leaves when it starts on the empty one. -/
def touched (x : Run α) : Memo := (x.run .empty).memo

structure Transparent (o : Options) (x : Run α) : Prop where
  sound : x.touched.Sound o
  run_eq : ∀ {m : Memo}, m.Sound o → x.run m = ⟨x.fresh.result, m.union x.touched, x.fresh.log⟩

/-- A run that always does the same to the memo, and nothing else with it, is transparent. -/
theorem transparent_of_union {x : Run α} (r : Except Error α) {memo : Memo} (log : List Notice) (hs : memo.Sound o)
    (h : ∀ m : Memo, m.Sound o → x.run m = ⟨r, m.union memo, log⟩) : x.Transparent o := by
  have hempty : x.run .empty = ⟨r, memo, log⟩ := h .empty Memo.sound_empty
  have hr : x.fresh.result = r := congrArg Outcome.result hempty
  have ht : x.touched = memo := congrArg Outcome.memo hempty
  have hl : x.fresh.log = log := congrArg Outcome.log hempty
  refine ⟨?_, fun {m} hm => ?_⟩
  · rw [ht]
    exact hs
  · rw [hr, ht, hl]
    exact h m hm

/-! ## Operations -/

/-- A run that neither reads nor extends the memo is transparent. -/
theorem transparent_of_constant {x : Run α} {r : Except Error α} {log : List Notice}
    (h : ∀ m, x.run m = ⟨r, m, log⟩) : x.Transparent o := by
  refine transparent_of_union r log Memo.sound_empty fun m _ => ?_
  rw [h m, Memo.union_empty]

theorem pure_transparent (a : α) : (pure a : Run α).Transparent o := transparent_of_constant fun _ => rfl

theorem fail_transparent (e : Error) : (fail e : Run α).Transparent o := transparent_of_constant fun _ => rfl

theorem note_transparent (n : Notice) : (note n).Transparent o := transparent_of_constant fun _ => rfl

theorem ofExcept_transparent (r : Except Error α) : (ofExcept r).Transparent o :=
  transparent_of_constant fun _ => rfl

theorem ofLogged_transparent (x : Logged α) : (ofLogged x).Transparent o := transparent_of_constant fun _ => rfl

/-- What a memo remembers of a level is what would be made anew. -/
theorem indentation_transparent (level : Int) : (indentation o level).Transparent o := by
  cases level with
  | negSucc n => exact fail_transparent _
  | ofNat level =>
    refine transparent_of_union (.ok (spaces (o.indentWidth * level))) [] (Memo.sound_empty.insert level) fun m hm => ?_
    cases hget : m.get? level with
    | none =>
      simp only [indentation, hget]
      rw [Memo.union_insert_of_get?_none _ hget]
    | some text =>
      obtain rfl := hm.get? hget
      simp only [indentation, hget]
      rw [Memo.union_insert_of_get? hget]

/-! ## Sequences -/

section Bind

variable {x : Run α} {f : α → Run β} (hx : x.Transparent o) (hf : ∀ a, (f a).Transparent o)
include hx

theorem run_bind_error {e : Error} (h : x.fresh.result = .error e) {m : Memo} (hm : m.Sound o) :
    (x >>= f).run m = ⟨.error e, m.union x.touched, x.fresh.log⟩ := by
  rw [run_bind, hx.run_eq hm, h]

include hf

/-- The second run starts on the memo that the first one leaves, which is sound again. -/
theorem run_bind_ok {a : α} (h : x.fresh.result = .ok a) {m : Memo} (hm : m.Sound o) :
    (x >>= f).run m = ⟨(f a).fresh.result, m.union (x.touched.union (f a).touched),
      x.fresh.log ++ (f a).fresh.log⟩ := by
  rw [run_bind, hx.run_eq hm, h]
  dsimp only
  rw [(hf a).run_eq (hm.union hx.sound), Memo.union_assoc]

theorem Transparent.bind : (x >>= f).Transparent o := by
  cases h : x.fresh.result with
  | error e => exact transparent_of_union _ _ hx.sound fun m hm => run_bind_error hx h hm
  | ok a => exact transparent_of_union _ _ (hx.sound.union (hf a).sound) fun m hm => run_bind_ok hx hf h hm

omit hf in
theorem Transparent.map (g : α → β) : (g <$> x).Transparent o := by
  rw [map_eq_pure_bind]
  exact hx.bind fun a => pure_transparent (g a)

/-- On the empty memo, a sequence of transparent runs is the sequence of what each gives there. -/
theorem fresh_bind : (x >>= f).fresh = x.fresh >>= fun a => (f a).fresh := by
  cases h : x.fresh.result with
  | error e => rw [Logged.bind_error h, fresh, run_bind_error hx h Memo.sound_empty]
  | ok a => rw [Logged.bind_ok h, fresh, run_bind_ok hx hf h Memo.sound_empty]

end Bind

end Run

end TemplateProjection
