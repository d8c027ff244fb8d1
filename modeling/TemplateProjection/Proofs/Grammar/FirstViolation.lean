import TemplateProjection.Proofs.Grammar.Adaptation

/-!
# The first violation

Raw data are adapted if and only if no place of them violates the grammar, and else the first violation in the order of
the document is reported (`adapt_reports_first_violation`).
-/

namespace TemplateProjection

/-- The failure of the first place in a list that violates the grammar. -/
def FirstViolation (lenient : Bool) (places : List Place) (f : Failure) : Prop :=
  ∃ before pl after, places = before ++ pl :: after ∧ (∀ q ∈ before, q.violation? lenient = none) ∧
    pl.violation? lenient = some f

theorem firstViolation_iff {lenient : Bool} {places : List Place} {f : Failure} :
    FirstViolation lenient places f ↔ places.findSome? (Place.violation? lenient) = some f := by
  rw [List.findSome?_eq_some_iff]
  constructor
  · rintro ⟨before, pl, after, hplaces, hbefore, hpl⟩
    exact ⟨before, pl, after, hplaces, hpl, hbefore⟩
  · rintro ⟨before, pl, after, hplaces, hpl, hbefore⟩
    exact ⟨before, pl, after, hplaces, hbefore, hpl⟩

/-- A failure that is found first is the violation of a place. -/
theorem FirstViolation.exists_place {lenient : Bool} {places : List Place} {f : Failure}
    (h : FirstViolation lenient places f) : ∃ pl ∈ places, pl.violation? lenient = some f := by
  obtain ⟨before, pl, after, rfl, -, hpl⟩ := h
  exact ⟨pl, List.mem_append_right before List.mem_cons_self, hpl⟩

/-- Adapting fails with the first violation. -/
theorem adapt_error_iff {lenient : Bool} {raw : Value} {p : Path} {e : Error} :
    (raw.adapt lenient p).result = .error e ↔
      ∃ f, e = .failure f ∧ FirstViolation lenient (Place.inOrder ⟨.node, raw, p⟩) f := by
  rw [← errorOf_eq_some]
  show Place.error? lenient ⟨.node, raw, p⟩ = some e ↔ _
  rw [Place.error?_inOrder, Option.map_eq_some_iff]
  constructor
  · rintro ⟨f, hf, rfl⟩
    exact ⟨f, rfl, firstViolation_iff.2 hf⟩
  · rintro ⟨f, rfl, hf⟩
    exact ⟨f, firstViolation_iff.1 hf, rfl⟩

/-- Adapting succeeds if and only if no place violates the grammar. -/
theorem adapt_ok_iff {lenient : Bool} {raw : Value} {p : Path} :
    (∃ n, (raw.adapt lenient p).result = .ok n) ↔
      ∀ pl ∈ Place.inOrder ⟨.node, raw, p⟩, pl.violation? lenient = none := by
  rw [← List.findSome?_eq_none_iff, Option.eq_none_iff_forall_ne_some]
  constructor
  · rintro ⟨n, hn⟩ f hf
    have := adapt_error_iff.2 ⟨f, rfl, firstViolation_iff.2 hf⟩
    rw [hn] at this
    cases this
  · intro h
    cases hr : (raw.adapt lenient p).result with
    | ok n => exact ⟨n, rfl⟩
    | error e =>
      obtain ⟨f, -, hf⟩ := adapt_error_iff.1 hr
      exact absurd (firstViolation_iff.1 hf) (h f)

theorem FirstViolation.isMalformedNode {lenient : Bool} {places : List Place} {f : Failure}
    (h : FirstViolation lenient places f) : f.IsMalformedNode := by
  obtain ⟨pl, -, hpl⟩ := h.exists_place
  exact Place.violation?_isMalformedNode hpl

/-- Raw data with a place that violates the grammar are refused. -/
theorem adapt_refuses {lenient : Bool} {raw : Value} {p : Path} {pl : Place} {f : Failure}
    (hpl : pl ∈ Place.inOrder ⟨.node, raw, p⟩) (hf : pl.violation? lenient = some f) :
    ∃ f', Failure.IsMalformedNode f' ∧ (raw.adapt lenient p).result = .error (.failure f') := by
  cases hr : (raw.adapt lenient p).result with
  | ok n =>
    have hnone := adapt_ok_iff.1 ⟨n, hr⟩ pl hpl
    rw [hf] at hnone
    cases hnone
  | error e =>
    obtain ⟨f', rfl, hfirst⟩ := adapt_error_iff.1 hr
    exact ⟨f', hfirst.isMalformedNode, rfl⟩

/-- **The grammar is what adapting accepts, and its first violation is what adapting reports.** In strict and in lenient
mode, raw data at a path are adapted if and only if no place in the order of the document violates the grammar. Else the
error is the failure of the first place that does: its cause, its path and the value at fault. It is structural. -/
theorem adapt_reports_first_violation (lenient : Bool) (raw : Value) (p : Path) :
    ((∃ n, (raw.adapt lenient p).result = .ok n) ↔
      ∀ pl ∈ Place.inOrder ⟨.node, raw, p⟩, pl.violation? lenient = none) ∧
    ∀ e, (raw.adapt lenient p).result = .error e ↔
      ∃ f, e = .failure f ∧ f.IsMalformedNode ∧ FirstViolation lenient (Place.inOrder ⟨.node, raw, p⟩) f := by
  refine ⟨adapt_ok_iff, fun e => adapt_error_iff.trans ?_⟩
  constructor
  · rintro ⟨f, he, hf⟩
    exact ⟨f, he, hf.isMalformedNode, hf⟩
  · rintro ⟨f, he, -, hf⟩
    exact ⟨f, he, hf⟩

/-- Of a statement whose code is a number and a later entry that is no attribute, the statement is reported. -/
theorem adapt_reports_statement_before_attribute :
    let statement := Value.list [.str "slim", .str ":control", .int 5, .null]
    let raw := Value.list [.str "multi", .str "skipped", .list [.str "slim", .str "text", .str "inline", statement],
      .list [.str "html", .str "attrs", .int 7]]
    let failure : Failure := ⟨.notText "code" "int", some ⟨"root", [2, 3, 2]⟩, statement⟩
    FirstViolation false (Place.inOrder ⟨.node, raw, .root⟩) failure := by
  intro statement raw failure
  have hresult : (raw.adapt false .root).result = .error (.failure failure) := by rfl
  obtain ⟨f, hf, -, hfirst⟩ := ((adapt_reports_first_violation false raw .root).2 _).1 hresult
  obtain rfl := Error.failure.inj hf
  exact hfirst

end TemplateProjection
