/-!
# The memo of indentations

A session remembers the indentation of each level it was asked for. The entries stand in ascending order of their
levels, one for a level, so a memo is determined by what it answers (`Memo.ext_get?`), and an insertion changes one
answer only (`Memo.get?_insert`).
-/

namespace TemplateProjection

/-! ## Ascending entries -/

/-- The entries with one more, which replaces an entry of its level. -/
def insertLevel (level : Nat) (text : String) : List (Nat × String) → List (Nat × String)
  | [] => [(level, text)]
  | e :: rest =>
    if level < e.1 then (level, text) :: e :: rest
    else if level = e.1 then (level, text) :: rest
    else e :: insertLevel level text rest

theorem mem_insertLevel {level : Nat} {text : String} {entries : List (Nat × String)} {e : Nat × String}
    (h : e ∈ insertLevel level text entries) : e = (level, text) ∨ e ∈ entries := by
  induction entries with
  | nil => exact .inl (List.mem_singleton.1 h)
  | cons d rest ih =>
    unfold insertLevel at h
    split at h
    · exact List.mem_cons.1 h
    · split at h
      · exact (List.mem_cons.1 h).imp_right (List.mem_cons_of_mem d)
      · rcases List.mem_cons.1 h with rfl | h
        · exact .inr List.mem_cons_self
        · exact (ih h).imp_right (List.mem_cons_of_mem d)

theorem insertLevel_ascending {level : Nat} {text : String} {entries : List (Nat × String)}
    (h : entries.Pairwise (·.1 < ·.1)) : (insertLevel level text entries).Pairwise (·.1 < ·.1) := by
  induction entries with
  | nil => exact List.pairwise_singleton _ _
  | cons d rest ih =>
    obtain ⟨hd, hrest⟩ := List.pairwise_cons.1 h
    unfold insertLevel
    split
    · rename_i hlt
      refine List.pairwise_cons.2 ⟨fun e he => ?_, h⟩
      rcases List.mem_cons.1 he with rfl | he
      · exact hlt
      · exact Nat.lt_trans hlt (hd e he)
    · split
      · rename_i heq
        exact List.pairwise_cons.2 ⟨fun e he => heq ▸ hd e he, hrest⟩
      · refine List.pairwise_cons.2 ⟨fun e he => ?_, ih hrest⟩
        rcases mem_insertLevel he with rfl | he
        · show d.1 < level
          omega
        · exact hd e he

theorem lookup_cons (k : Nat) (e : Nat × String) (rest : List (Nat × String)) :
    (e :: rest).lookup k = if k = e.1 then some e.2 else rest.lookup k := by
  rw [List.lookup_cons]
  by_cases h : k = e.1
  · simp [h]
  · rw [if_neg h, show (k == e.1) = false from beq_false_of_ne h]

theorem lookup_insertLevel (level : Nat) (text : String) (k : Nat) (entries : List (Nat × String)) :
    (insertLevel level text entries).lookup k = if k = level then some text else entries.lookup k := by
  induction entries with
  | nil => exact lookup_cons k (level, text) []
  | cons e rest ih =>
    unfold insertLevel
    split
    · exact lookup_cons k (level, text) (e :: rest)
    · split
      · rename_i heq
        rw [lookup_cons, lookup_cons, ← heq]
        split <;> rfl
      · rename_i hne
        rw [lookup_cons, lookup_cons, ih]
        split
        · rename_i hk
          rw [if_neg fun h : k = level => hne (h.symm.trans hk)]
        · rfl

/-- Below its first level an ascending list answers nothing. -/
theorem lookup_eq_none_of_lt {k : Nat} {entries : List (Nat × String)} (h : ∀ e ∈ entries, k < e.1) :
    entries.lookup k = none := by
  induction entries with
  | nil => rfl
  | cons e rest ih =>
    rw [lookup_cons, if_neg (Nat.ne_of_lt (h e List.mem_cons_self))]
    exact ih fun d hd => h d (List.mem_cons_of_mem e hd)

/-- Ascending entries that answer the same are the same. -/
theorem entries_eq_of_lookup {xs ys : List (Nat × String)} (hx : xs.Pairwise (·.1 < ·.1))
    (hy : ys.Pairwise (·.1 < ·.1)) (h : ∀ k, xs.lookup k = ys.lookup k) : xs = ys := by
  induction xs generalizing ys with
  | nil =>
    cases ys with
    | nil => rfl
    | cons e ys => simpa [lookup_cons] using h e.1
  | cons d xs ih =>
    cases ys with
    | nil => simpa [lookup_cons] using h d.1
    | cons e ys =>
      obtain ⟨hd, hxs⟩ := List.pairwise_cons.1 hx
      obtain ⟨he, hys⟩ := List.pairwise_cons.1 hy
      have level : d.1 = e.1 := by
        rcases Nat.lt_trichotomy d.1 e.1 with hlt | heq | hlt
        · have none : (e :: ys).lookup d.1 = none := by
            refine lookup_eq_none_of_lt fun c hc => ?_
            rcases List.mem_cons.1 hc with rfl | hc
            · exact hlt
            · exact Nat.lt_trans hlt (he c hc)
          simpa [lookup_cons d.1 d, none] using h d.1
        · exact heq
        · have none : (d :: xs).lookup e.1 = none := by
            refine lookup_eq_none_of_lt fun c hc => ?_
            rcases List.mem_cons.1 hc with rfl | hc
            · exact hlt
            · exact Nat.lt_trans hlt (hd c hc)
          simpa [lookup_cons e.1 e, none] using (h e.1).symm
      have text : d.2 = e.2 := by simpa [lookup_cons, level] using h d.1
      have head : d = e := Prod.ext level text
      subst head
      refine congrArg (d :: ·) (ih hxs hys fun k => ?_)
      by_cases hk : k = d.1
      · rw [hk, lookup_eq_none_of_lt hd, lookup_eq_none_of_lt he]
      · simpa [lookup_cons, hk] using h k

/-! ## Memos -/

/-- Levels with their indentations. -/
structure Memo where
  entries : List (Nat × String)
  ascending : entries.Pairwise (·.1 < ·.1) := by simp

namespace Memo

def empty : Memo := ⟨[], .nil⟩

/-- The indentation remembered for a level. -/
def get? (m : Memo) (level : Nat) : Option String := m.entries.lookup level

def insert (m : Memo) (level : Nat) (text : String) : Memo :=
  ⟨insertLevel level text m.entries, insertLevel_ascending m.ascending⟩

@[simp]
theorem get?_empty (k : Nat) : empty.get? k = none := rfl

theorem get?_insert (m : Memo) (level : Nat) (text : String) (k : Nat) :
    (m.insert level text).get? k = if k = level then some text else m.get? k :=
  lookup_insertLevel level text k m.entries

/-- Memos that answer the same are the same. -/
theorem ext_get? {m n : Memo} (h : ∀ k, m.get? k = n.get? k) : m = n := by
  obtain ⟨xs, hx⟩ := m
  obtain ⟨ys, hy⟩ := n
  have := entries_eq_of_lookup hx hy h
  subst this
  rfl

end Memo

end TemplateProjection
