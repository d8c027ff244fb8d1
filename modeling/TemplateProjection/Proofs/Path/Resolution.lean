import TemplateProjection.Proofs.Grammar.FirstViolation
import TemplateProjection.Proofs.Path.Relocation

/-!
# Error paths resolve

Indices lead down raw data to a value (`Value.at?`). Every failure of adapting names a path that leads, from the path
that raw data are adapted at, to a value in them, and blames that value or one that stands one or two steps above it
(`Fault.ResolvesIn`). Where the raw data stand decides neither the outcome nor the steps of the path; in a sequence of
siblings, the path goes through the index of the first one that fails (`adapt_paths_resolve`). No two places of raw data
share a path (`Place.paths_nodup`).
-/

namespace TemplateProjection

/-! ## Indices that lead down -/

/-- The value that indices lead to. -/
def Value.at? : Value → List Nat → Option Value
  | v, [] => some v
  | v, i :: rest => do
    let items ← v.items?
    let x ← items[i]?
    x.at? rest

theorem Value.at?_cons {v x : Value} {items : List Value} {i : Nat} (hv : v.items? = some items)
    (hx : items[i]? = some x) (rest : List Nat) : v.at? (i :: rest) = x.at? rest := by
  rw [at?, hv, Option.bind_eq_bind, Option.bind_some, hx]
  rfl

theorem Value.at?_append : ∀ (v : Value) (is js : List Nat), v.at? (is ++ js) = (v.at? is).bind (·.at? js)
  | _, [], _ => rfl
  | v, i :: is, js => by
    cases hv : v.items? with
    | none => simp [at?, hv]
    | some items =>
      cases hx : items[i]? with
      | none => simp [at?, hv, hx]
      | some x => rw [List.cons_append, at?_cons hv hx, at?_cons hv hx, at?_append x is js]

namespace Path

/-- Some steps further. -/
def down (p : Path) (steps : List Nat) : Path := ⟨p.base, p.steps ++ steps.map Int.ofNat⟩

theorem down_nil (p : Path) : p.down [] = p := by simp only [down, List.map_nil, List.append_nil]

theorem down_cons (p : Path) (i : Nat) (steps : List Nat) : p.down (i :: steps) = (p.child i).down steps := by
  simp only [down, child, List.map_cons, List.append_assoc]
  rfl

theorem down_append (p : Path) (is js : List Nat) : p.down (is ++ js) = (p.down is).down js := by
  simp only [down, List.map_append, List.append_assoc]

theorem down_inj {p : Path} {is js : List Nat} (h : p.down is = p.down js) : is = js := by
  have hsteps : is.map Int.ofNat = js.map Int.ofNat := List.append_cancel_left (congrArg Path.steps h)
  exact (List.map_inj_right fun _ _ => Int.ofNat.inj).1 hsteps

/-- An index in brackets. -/
def bracketed (i : Nat) : String := "[" ++ toString i ++ "]"

theorem text_child (p : Path) (i : Int) : (p.child i).text = p.text ++ stepText i := by
  simp only [text, child, List.map_append, List.map_singleton, String.join_append, String.join_cons, String.join_nil,
    String.append_empty, String.append_assoc]

theorem text_down (p : Path) (steps : List Nat) :
    (p.down steps).text = p.text ++ String.join (steps.map bracketed) := by
  induction steps generalizing p with
  | nil => rw [down_nil, List.map_nil, String.join_nil, String.append_empty]
  | cons i rest ih =>
    rw [down_cons, ih, text_child, List.map_cons, String.join_cons, String.append_assoc]
    rfl

end Path

/-! ## Faults -/

/-- A failure without the place of the raw data in which it was met. -/
structure Fault where
  cause : Cause
  /-- The steps from the raw data to the place that the failure names. -/
  steps : List Nat
  /-- The value at fault. -/
  node : Value

namespace Fault

/-- The failure that the fault is if the raw data stand at a path. -/
def failure (d : Fault) (p : Path) : Failure := ⟨d.cause, some (p.down d.steps), d.node⟩

/-- The steps lead to a value in the raw data, and the value at fault is that one or stands one or two steps above. -/
structure ResolvesIn (d : Fault) (raw : Value) : Prop where
  leads : ∃ v, raw.at? d.steps = some v
  blames : ∃ above last, d.steps = above ++ last ∧ last.length ≤ 2 ∧ raw.at? above = some d.node

/-- The same fault, seen from a value that some steps lead down from. -/
def below (d : Fault) (steps : List Nat) : Fault := { d with steps := steps ++ d.steps }

theorem failure_below (d : Fault) (steps : List Nat) (p : Path) :
    (d.below steps).failure p = d.failure (p.down steps) := by
  simp only [failure, below, Path.down_append]

theorem ResolvesIn.below {d : Fault} {raw v : Value} {steps : List Nat} (hv : raw.at? steps = some v)
    (h : d.ResolvesIn v) : (d.below steps).ResolvesIn raw := by
  obtain ⟨⟨u, hu⟩, above, last, hsteps, hlast, hnode⟩ := h
  refine ⟨⟨u, ?_⟩, steps ++ above, last, ?_, hlast, ?_⟩
  · show raw.at? (steps ++ d.steps) = some u
    rw [Value.at?_append, hv]
    exact hu
  · show steps ++ d.steps = _
    rw [hsteps, List.append_assoc]
  · rw [Value.at?_append, hv]
    exact hnode

/-- A fault at the raw data themselves. -/
theorem resolvesIn_here (cause : Cause) (raw : Value) : (Fault.mk cause [] raw).ResolvesIn raw :=
  ⟨⟨raw, rfl⟩, [], [], rfl, Nat.zero_le 2, rfl⟩

/-- A fault at an item. -/
theorem resolvesIn_item (cause : Cause) {raw x : Value} {items : List Value} {i : Nat} (hraw : raw.items? = some items)
    (hx : items[i]? = some x) : (Fault.mk cause [i] raw).ResolvesIn raw :=
  ⟨⟨x, Value.at?_cons hraw hx []⟩, [], [i], rfl, Nat.le_succ 1, rfl⟩

end Fault

/-! ## Violations -/

/-- Raw data at a path fail by a fault in them. -/
def Failure.IsFaultIn (f : Failure) (raw : Value) (p : Path) : Prop :=
  ∃ d : Fault, d.ResolvesIn raw ∧ f = d.failure p

theorem Failure.isFaultIn_here (cause : Cause) (raw : Value) (p : Path) :
    (Failure.mk cause (some p) raw).IsFaultIn raw p :=
  ⟨⟨cause, [], raw⟩, Fault.resolvesIn_here cause raw, by rw [Fault.failure, Path.down_nil]⟩

theorem Failure.isFaultIn_item (cause : Cause) {raw x : Value} {items : List Value} {i : Nat}
    (hraw : raw.items? = some items) (hx : items[i]? = some x) (p : Path) :
    (Failure.mk cause (some (p.child i)) raw).IsFaultIn raw p :=
  ⟨⟨cause, [i], raw⟩, Fault.resolvesIn_item cause hraw hx, rfl⟩

theorem Failure.isFaultIn_below_item (cause : Cause) {raw x y : Value} {items inner : List Value} {i j : Nat}
    (hraw : raw.items? = some items) (hx : items[i]? = some x) (hinner : x.items? = some inner)
    (hy : inner[j]? = some y) (p : Path) :
    (Failure.mk cause (some ((p.child i).child j)) raw).IsFaultIn raw p := by
  have leads : raw.at? [i, j] = some y := by
    rw [Value.at?_cons hraw hx, Value.at?_cons hinner hy]
    rfl
  refine ⟨⟨cause, [i, j], raw⟩, ⟨⟨y, leads⟩, [], [i, j], rfl, Nat.le_refl 2, rfl⟩, ?_⟩
  rw [Fault.failure, Path.down_cons, Path.down_cons, Path.down_nil]

theorem Requirement.violation?_isFaultIn {r : Requirement} {word : String} {v : Visit} {f : Failure}
    (hv : v.raw.items? = some v.items) (h : r.violation? word v = some f) : f.IsFaultIn v.raw v.path := by
  unfold Requirement.violation? at h
  split at h
  · obtain rfl := Option.some.inj h
    exact Failure.isFaultIn_here _ _ _
  · cases h
  · rename_i _ x _ hx
    split at h
    · obtain rfl := Option.some.inj h
      exact Failure.isFaultIn_item _ hv hx _
    · cases h

/-- The text of an attribute's value may stand two steps below the attribute, which is blamed for it. -/
theorem Visit.valueViolation?_isFaultIn {lenient : Bool} {v : Visit} {name : String} {value : Value} {f : Failure}
    (hv : v.raw.items? = some v.items) (hvalue : v.items[3]? = some value)
    (h : v.valueViolation? lenient name value = some f) : f.IsFaultIn v.raw v.path := by
  unfold Visit.valueViolation? Visit.textViolation? at h
  split at h
  · obtain rfl := Option.some.inj h
    exact Failure.isFaultIn_item _ hv hvalue _
  · obtain rfl := Option.some.inj h
    exact Failure.isFaultIn_item _ hv hvalue _
  · rename_i first rest hitems
    split at h
    · split at h
      · cases h
      · obtain rfl := Option.some.inj h
        exact Failure.isFaultIn_item _ hv hvalue _
    · cases h
    · rename_i x _ hx
      split at h
      · cases h
      · obtain rfl := Option.some.inj h
        exact Failure.isFaultIn_below_item _ hv hvalue hitems hx _

theorem Place.violation?_isFaultIn {lenient : Bool} {pl : Place} {f : Failure} (h : pl.violation? lenient = some f) :
    f.IsFaultIn pl.raw pl.path := by
  unfold Place.violation? at h
  split at h
  · unfold Value.nodeViolation? at h
    split at h
    · obtain rfl := Option.some.inj h
      exact Failure.isFaultIn_here _ _ _
    · rename_i items hitems
      split at h
      · obtain ⟨r, -, h⟩ := Option.bind_eq_some_iff.1 h
        exact Requirement.violation?_isFaultIn hitems h
      · cases h
  · unfold Value.attributeViolation? at h
    split at h
    · obtain rfl := Option.some.inj h
      exact Failure.isFaultIn_here _ _ _
    · rename_i items hattribute
      have hitems : pl.raw.items? = some items := (Option.filter_eq_some_iff.1 hattribute).1
      rcases Option.or_eq_some_iff.1 h with h | ⟨-, h⟩
      · exact Requirement.violation?_isFaultIn hitems h
      · rcases Option.or_eq_some_iff.1 h with h | ⟨-, h⟩
        · exact Requirement.violation?_isFaultIn hitems h
        · obtain ⟨name, -, h⟩ := Option.bind_eq_some_iff.1 h
          obtain ⟨value, hvalue, h⟩ := Option.bind_eq_some_iff.1 h
          exact Visit.valueViolation?_isFaultIn hitems hvalue h

/-! ## Places -/

/-- An item that a nesting makes a place stands in the list at the last index of the place's path. -/
theorem Nesting.index_of_mem_places {n : Nesting} {items : List Value} {p : Path} {q : Place}
    (h : q ∈ n.places items p) : ∃ i : Nat, items[i]? = some q.raw ∧ q.path = p.child i := by
  obtain ⟨⟨x, i⟩, hx, rfl⟩ := List.mem_map.1 h
  refine ⟨i, ?_, rfl⟩
  obtain ⟨hi, hget⟩ := List.mem_zipIdx_iff_le_and_getElem?_sub.1 (List.mem_filter.1 hx).1
  have hdrop : (items.drop n.start)[i - n.start]? = some x := by
    unfold Nesting.window at hget
    split at hget
    · exact hget
    · rw [List.getElem?_take] at hget
      split at hget
      · exact hget
      · cases hget
  rw [List.getElem?_drop, Nat.add_sub_cancel' hi] at hdrop
  exact hdrop

theorem Place.index_of_mem_nested {pl q : Place} (h : q ∈ pl.nested) :
    ∃ items, ∃ i : Nat, pl.raw.items? = some items ∧ items[i]? = some q.raw ∧ q.path = pl.path.child i := by
  rcases pl.nested_cases with hnone | ⟨items, n, hitems, hplaces⟩
  · rw [hnone] at h
    exact absurd h List.not_mem_nil
  · rw [hplaces] at h
    obtain ⟨i, hi, hpath⟩ := Nesting.index_of_mem_places h
    exact ⟨items, i, hitems, hi, hpath⟩

/-- The path of every place leads to it. -/
theorem Place.steps_of_mem_inOrder {pl q : Place} (h : q ∈ pl.inOrder) :
    ∃ steps, pl.raw.at? steps = some q.raw ∧ q.path = pl.path.down steps := by
  rw [inOrder_eq] at h
  rcases List.mem_cons.1 h with rfl | h
  · exact ⟨[], rfl, q.path.down_nil.symm⟩
  · obtain ⟨child, hchild, hq⟩ := List.mem_flatMap.1 h
    obtain ⟨items, i, hitems, hi, hpath⟩ := index_of_mem_nested hchild
    have := sizeOf_lt_of_mem_nested hchild
    obtain ⟨steps, hsteps, hdown⟩ := steps_of_mem_inOrder hq
    refine ⟨i :: steps, ?_, ?_⟩
    · rw [Value.at?_cons hitems hi]
      exact hsteps
    · rw [Path.down_cons, ← hpath]
      exact hdown
termination_by sizeOf pl.raw

/-- The places among the items of a list stand at different indices. -/
theorem Nesting.places_pairwise (n : Nesting) (items : List Value) (p : Path) :
    (n.places items p).Pairwise fun q r => ∃ i j : Nat, i ≠ j ∧ q.path = p.child i ∧ r.path = p.child j := by
  have hindices : ((n.window items).zipIdx n.start).Pairwise fun x y => x.2 < y.2 := by
    rw [← List.pairwise_map (f := Prod.snd), List.zipIdx_map_snd]
    exact List.pairwise_lt_range'
  refine List.pairwise_map.2 ((hindices.sublist List.filter_sublist).imp fun hlt => ?_)
  exact ⟨_, _, Nat.ne_of_lt hlt, rfl, rfl⟩

theorem Place.nested_pairwise (pl : Place) :
    pl.nested.Pairwise fun q r => ∃ i j : Nat, i ≠ j ∧ q.path = pl.path.child i ∧ r.path = pl.path.child j := by
  rcases pl.nested_cases with hnone | ⟨items, n, -, hplaces⟩
  · rw [hnone]
    exact .nil
  · rw [hplaces]
    exact n.places_pairwise items pl.path

/-- Every place of raw data has a path of its own. -/
theorem Place.paths_nodup (pl : Place) : (pl.inOrder.map Place.path).Nodup := by
  rw [List.Nodup, List.pairwise_map, inOrder_eq, List.pairwise_cons, List.pairwise_flatMap]
  refine ⟨fun r hr hpath => ?_, fun q hq => ?_, pl.nested_pairwise.imp ?_⟩
  · -- What stands below a place has more steps behind the path.
    obtain ⟨q, hq, hr⟩ := List.mem_flatMap.1 hr
    obtain ⟨_, i, -, -, hchild⟩ := index_of_mem_nested hq
    obtain ⟨steps, -, hdown⟩ := steps_of_mem_inOrder hr
    rw [hdown, hchild, ← Path.down_cons] at hpath
    exact absurd (Path.down_inj (pl.path.down_nil.trans hpath)) (List.cons_ne_nil _ _).symm
  · have := sizeOf_lt_of_mem_nested hq
    have hnodup := q.paths_nodup
    rwa [List.Nodup, List.pairwise_map] at hnodup
  · -- What stands below different items differs in the step to the item.
    rintro q q' ⟨i, j, hij, hi, hj⟩ r hr r' hr' hpath
    obtain ⟨steps, -, hdown⟩ := steps_of_mem_inOrder hr
    obtain ⟨steps', -, hdown'⟩ := steps_of_mem_inOrder hr'
    rw [hdown, hdown', hi, hj, ← Path.down_cons, ← Path.down_cons] at hpath
    exact hij (List.cons.inj (Path.down_inj hpath)).1
termination_by sizeOf pl.raw

/-- The first violation is a fault in the raw data. -/
theorem FirstViolation.isFaultIn {lenient : Bool} {role : Role} {raw : Value} {p : Path} {f : Failure}
    (h : FirstViolation lenient (Place.inOrder ⟨role, raw, p⟩) f) : f.IsFaultIn raw p := by
  obtain ⟨pl, hpl, hf⟩ := h.exists_place
  obtain ⟨steps, hsteps, hpath⟩ := Place.steps_of_mem_inOrder hpl
  obtain ⟨d, hd, rfl⟩ := Place.violation?_isFaultIn hf
  refine ⟨d.below steps, hd.below hsteps, ?_⟩
  rw [Fault.failure_below, hpath]

/-! ## Outcomes -/

theorem Fault.failure_under (d : Fault) (q p : Path) : (d.failure q).under p = d.failure (q.under p) := by
  simp only [failure, Failure.under, Option.map_some, Path.under, Path.down, List.append_assoc]

theorem Fault.text_failure (d : Fault) (p : Path) :
    (d.failure p).path?.map Path.text = some (p.text ++ String.join (d.steps.map Path.bracketed)) :=
  congrArg some (p.text_down d.steps)

/-- Wherever they stand, the raw data are adapted to the node. -/
def Value.AdaptsTo (lenient : Bool) (raw : Value) (n : Node) : Prop := ∀ p, (raw.adapt lenient p).result = .ok n

/-- Wherever they stand, the raw data fail by the same fault in them. The text of the path is that of their own path
with the steps of the fault behind it. -/
structure Value.FailsBy (lenient : Bool) (raw : Value) (d : Fault) : Prop where
  resolves : d.ResolvesIn raw
  result : ∀ p, (raw.adapt lenient p).result = .error (.failure (d.failure p))
  text : ∀ p, (d.failure p).path?.map Path.text = some (p.text ++ String.join (d.steps.map Path.bracketed))

theorem Value.adaptsTo_or_failsBy (lenient : Bool) (raw : Value) :
    (∃ n, raw.AdaptsTo lenient n) ∨ ∃ d, raw.FailsBy lenient d := by
  -- What happens at the empty path happens at every path, with that path in front.
  have everywhere : ∀ p, (raw.adapt lenient p).result =
      (raw.adapt lenient (.ofText "")).result.mapError (·.under p) := by
    intro p
    have h := raw.adapt_under p lenient (.ofText "")
    rw [Path.ofText_under] at h
    rw [h]
    rfl
  cases hr : (raw.adapt lenient (.ofText "")).result with
  | ok n =>
    refine .inl ⟨n, fun p => ?_⟩
    rw [everywhere p, hr]
    rfl
  | error e =>
    obtain ⟨f, rfl, hfirst⟩ := adapt_error_iff.1 hr
    obtain ⟨d, hd, rfl⟩ := hfirst.isFaultIn
    refine .inr ⟨d, hd, fun p => ?_, d.text_failure⟩
    have hmoved := d.failure_under (.ofText "") p
    rw [Path.ofText_under] at hmoved
    rw [everywhere p, hr, ← hmoved]
    rfl

/-! ## Siblings -/

section Siblings

variable {lenient : Bool} {v : Value} {rest : List Value}

theorem adaptSiblings_cons_list (h : v.isList = true) (p : Path) (start : Int) :
    adaptSiblings lenient (v :: rest) p start = (do
      let n ← v.adapt lenient (p.child start)
      let ns ← adaptSiblings lenient rest p (start + 1)
      pure (n :: ns)) :=
  siblings_cons_list h _

theorem adaptSiblings_cons_other (h : ¬v.isList = true) (p : Path) (start : Int) :
    adaptSiblings lenient (v :: rest) p start = adaptSiblings lenient rest p (start + 1) :=
  siblings_cons_other h _

/-- Wherever they stand, and whatever the index of the first, the raw siblings are adapted to the nodes. -/
def SiblingsAdaptTo (lenient : Bool) (items : List Value) (nodes : List Node) : Prop :=
  ∀ p start, (adaptSiblings lenient items p start).result = .ok nodes

/-- Wherever they stand, and whatever the index of the first, the raw siblings fail by the fault of item `j`: all lists
before it are adapted, and items that are no lists count too. -/
structure SiblingsFailBy (lenient : Bool) (items : List Value) (j : Nat) (d : Fault) : Prop where
  before : ∀ i < j, ∀ v, items[i]? = some v → v.isList = true → ∃ n, v.AdaptsTo lenient n
  item : ∃ v, items[j]? = some v ∧ v.isList = true ∧ v.FailsBy lenient d
  result : ∀ (p : Path) (start : Int), (adaptSiblings lenient items p start).result =
    .error (.failure (d.failure (p.child (start + j))))
  text : ∀ (p : Path) (start : Int), (d.failure (p.child (start + j))).path?.map Path.text =
    some (p.text ++ Path.stepText (start + j) ++ String.join (d.steps.map Path.bracketed))

theorem Fault.text_failure_child (d : Fault) (p : Path) (i : Int) : (d.failure (p.child i)).path?.map Path.text =
    some (p.text ++ Path.stepText i ++ String.join (d.steps.map Path.bracketed)) := by
  rw [text_failure, Path.text_child]

/-- The first item fails. -/
theorem Value.FailsBy.siblings {d : Fault} (hlist : v.isList = true) (h : v.FailsBy lenient d) :
    SiblingsFailBy lenient (v :: rest) 0 d where
  before := fun i hi => absurd hi (Nat.not_lt_zero i)
  item := ⟨v, rfl, hlist, h⟩
  result := fun p start => by
    rw [adaptSiblings_cons_list hlist, Logged.bind_error (h.result (p.child start)), Int.natCast_zero, Int.add_zero]
  text := fun p start => d.text_failure_child p _

/-- A later item fails. -/
theorem SiblingsFailBy.cons {j : Nat} {d : Fault} (h : SiblingsFailBy lenient rest j d)
    (hv : v.isList = true → ∃ n, v.AdaptsTo lenient n) : SiblingsFailBy lenient (v :: rest) (j + 1) d where
  before
    | 0, _, u, hu, hlist => by
      obtain rfl := Option.some.inj hu
      exact hv hlist
    | i + 1, hi, u, hu, hlist => h.before i (Nat.lt_of_succ_lt_succ hi) u hu hlist
  item := h.item
  result := fun p start => by
    have hrest := h.result p (start + 1)
    have hindex : start + 1 + (j : Int) = start + ((j + 1 : Nat) : Int) := by omega
    rw [hindex] at hrest
    by_cases hlist : v.isList = true
    · obtain ⟨n, hn⟩ := hv hlist
      rw [adaptSiblings_cons_list hlist, Logged.bind_ok (hn (p.child start)), Logged.bind_error hrest]
    · rw [adaptSiblings_cons_other hlist, hrest]
  text := fun p start => d.text_failure_child p _

theorem siblings_adaptTo_or_failBy (lenient : Bool) : ∀ items : List Value,
    (∃ nodes, SiblingsAdaptTo lenient items nodes) ∨ ∃ j d, SiblingsFailBy lenient items j d
  | [] => .inl ⟨[], fun _ _ => rfl⟩
  | v :: rest => by
    by_cases hlist : v.isList = true
    · rcases v.adaptsTo_or_failsBy lenient with ⟨n, hn⟩ | ⟨d, hd⟩
      · rcases siblings_adaptTo_or_failBy lenient rest with ⟨ns, hns⟩ | ⟨j, d, hd⟩
        · refine .inl ⟨n :: ns, fun p start => ?_⟩
          rw [adaptSiblings_cons_list hlist, Logged.bind_ok (hn _), Logged.bind_ok (hns p (start + 1))]
          rfl
        · exact .inr ⟨j + 1, d, hd.cons fun _ => ⟨n, hn⟩⟩
      · exact .inr ⟨0, d, hd.siblings hlist⟩
    · rcases siblings_adaptTo_or_failBy lenient rest with ⟨ns, hns⟩ | ⟨j, d, hd⟩
      · refine .inl ⟨ns, fun p start => ?_⟩
        rw [adaptSiblings_cons_other hlist, hns p (start + 1)]
      · exact .inr ⟨j + 1, d, hd.cons fun h => absurd h hlist⟩

end Siblings

/-- **Error paths resolve.** In strict and in lenient mode, raw data are adapted to one node wherever they stand, or
fail by one fault in them wherever they stand: the steps behind their own path lead to a value in them, and that value
or one that stands one or two steps above it is blamed. Siblings are adapted to the same nodes whatever the index of the
first, or fail by the fault of the first list among them that is not adapted, behind its index. -/
theorem adapt_paths_resolve (lenient : Bool) :
    (∀ raw : Value, (∃ n, raw.AdaptsTo lenient n) ∨ ∃ d, raw.FailsBy lenient d) ∧
    ∀ items : List Value, (∃ nodes, SiblingsAdaptTo lenient items nodes) ∨
      ∃ j d, SiblingsFailBy lenient items j d :=
  ⟨Value.adaptsTo_or_failsBy lenient, siblings_adaptTo_or_failBy lenient⟩

end TemplateProjection
