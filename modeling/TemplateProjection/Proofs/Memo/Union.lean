import TemplateProjection.Memo
import TemplateProjection.Options

/-!
# Memos: union and soundness

`Memo.union` joins two memos; where both answer, the first decides (`get?_union`), and with it memos form a monoid. A
memo is *sound* for the options if each of its entries is the indentation of its level. The empty memo is sound, and an
insertion of a right entry and a union keep soundness.
-/

namespace TemplateProjection.Memo

variable {o : Options} {m n : Memo}

/-! ## Union -/

/-- The entries of both memos. -/
def union (m n : Memo) : Memo := m.entries.foldr (fun e memo => memo.insert e.1 e.2) n

theorem get?_insertAll (n : Memo) (k : Nat) : ∀ entries : List (Nat × String),
    (entries.foldr (fun e memo => memo.insert e.1 e.2) n).get? k = (entries.lookup k).or (n.get? k)
  | [] => rfl
  | e :: rest => by
    rw [List.foldr_cons, get?_insert, lookup_cons, get?_insertAll n k rest]
    split <;> rfl

/-- What the first memo does not answer, the second does. -/
theorem get?_union (m n : Memo) (k : Nat) : (m.union n).get? k = (m.get? k).or (n.get? k) :=
  get?_insertAll n k m.entries

@[simp]
theorem union_empty (m : Memo) : m.union .empty = m := by
  refine ext_get? fun k => ?_
  rw [get?_union, get?_empty, Option.or_none]

theorem union_assoc (m n l : Memo) : (m.union n).union l = m.union (n.union l) := by
  refine ext_get? fun k => ?_
  rw [get?_union, get?_union, get?_union, get?_union, Option.or_assoc]

/-- A remembered level is not remembered twice. -/
theorem union_insert_of_get? {level : Nat} {text : String} (h : m.get? level = some text) :
    m.union (empty.insert level text) = m := by
  refine ext_get? fun k => ?_
  rw [get?_union, get?_insert, get?_empty]
  split
  · rename_i hk
    rw [hk, h]
    rfl
  · exact Option.or_none

/-- A new level is put beside the others. -/
theorem union_insert_of_get?_none {level : Nat} (text : String) (h : m.get? level = none) :
    m.union (empty.insert level text) = m.insert level text := by
  refine ext_get? fun k => ?_
  rw [get?_union, get?_insert, get?_insert, get?_empty]
  split
  · rename_i hk
    rw [hk, h]
    rfl
  · exact Option.or_none

/-! ## Soundness -/

/-- Every entry is the indentation of its level. -/
def Sound (o : Options) (m : Memo) : Prop := ∀ e ∈ m.entries, e.2 = spaces (o.indentWidth * e.1)

theorem sound_empty : empty.Sound o := fun _ he => absurd he List.not_mem_nil

theorem mem_entries_of_get? {level : Nat} {text : String} (h : m.get? level = some text) :
    (level, text) ∈ m.entries := by
  obtain ⟨before, after, hm, -⟩ := List.lookup_eq_some_iff.1 h
  rw [hm]
  exact List.mem_append_right before List.mem_cons_self

/-- A sound memo answers with the indentation. -/
theorem Sound.get? {level : Nat} {text : String} (hm : m.Sound o) (h : m.get? level = some text) :
    text = spaces (o.indentWidth * level) :=
  hm _ (mem_entries_of_get? h)

theorem Sound.insert (hm : m.Sound o) (level : Nat) :
    (m.insert level (spaces (o.indentWidth * level))).Sound o := by
  intro e he
  rcases mem_insertLevel he with rfl | he
  · rfl
  · exact hm e he

theorem Sound.insertAll (hn : n.Sound o) : ∀ entries : List (Nat × String),
    (∀ e ∈ entries, e.2 = spaces (o.indentWidth * e.1)) →
      (entries.foldr (fun e memo => memo.insert e.1 e.2) n).Sound o
  | [], _ => hn
  | e :: rest, h => by
    have hrest := Sound.insertAll hn rest fun d hd => h d (List.mem_cons_of_mem e hd)
    rw [List.foldr_cons, h e List.mem_cons_self]
    exact hrest.insert e.1

theorem Sound.union (hm : m.Sound o) (hn : n.Sound o) : (m.union n).Sound o := Sound.insertAll hn m.entries hm

end TemplateProjection.Memo
