import Mathlib.Algebra.GroupWithZero.Nat
import TemplateProjection.Proofs.Grammar.Places
import TemplateProjection.Proofs.Projection.Returns

/-!
# The widths of attribute lists

The entries of an attribute list are measured one behind the other, the name of each before its value text. All entries
count, each by what its name and value text count (`Value.entryColumns`), or the first fault among them decides
(`attributesWidth_eq`). So a width does not depend on the order of the entries, and lists that are put together share
one separating column; and a malformed entry is reported before a width that was reported wrongly
(`attribute_lists_add_up`).
-/

namespace TemplateProjection

/-! ## Entries -/

/-- An attribute whose name and value text can both be counted. -/
inductive Value.IsMeasurable : Value → Prop
  | attr {name text : Value} (kind : KindWord ValueKind) (hname : name.length?.isSome) (htext : text.length?.isSome) :
      IsMeasurable (.attr name kind text)

/-- What a value counts; what cannot be counted adds nothing. -/
def Value.count (v : Value) : Nat := v.length?.getD 0

/-- What the name and the value text of an attribute count together. -/
def Value.entryColumns : Value → Nat
  | .attr name _ text => name.count + text.count
  | _ => 0

/-- The fault of a value that cannot be counted. -/
def Value.countFault? (v : Value) : Option AccessFault :=
  if v.length?.isSome then none else some (.noLength v.typeName)

/-- The fault of an entry: of its name, or else of its value text. A tag has a name, but no value text. -/
def Value.entryFault? : Value → Option AccessFault
  | .attr name _ text => name.countFault?.or text.countFault?
  | .tagHead name => name.countFault?.or (some (.noField (tagHead name).typeName "value_text"))
  | v => some (.noField v.typeName "name")

theorem Value.countFault?_eq_none {v : Value} : v.countFault? = none ↔ v.length?.isSome := by
  unfold countFault?
  cases v.length?.isSome <;> simp

/-- The entries without a fault are the attributes that can be measured. -/
theorem Value.entryFault?_eq_none {v : Value} : v.entryFault? = none ↔ v.IsMeasurable := by
  constructor
  · intro h
    cases v with
    | attr name kind text =>
      obtain ⟨hname, htext⟩ := Option.or_eq_none_iff.1 h
      exact .attr kind (countFault?_eq_none.1 hname) (countFault?_eq_none.1 htext)
    | tagHead name => cases (Option.or_eq_none_iff.1 h).2
    | _ => cases h
  · rintro ⟨kind, hname, htext⟩
    exact Option.or_eq_none_iff.2 ⟨countFault?_eq_none.2 hname, countFault?_eq_none.2 htext⟩

/-! ## Sums -/

/-- A number of columns, unless there is a fault. -/
def columnsUnless (fault? : Option AccessFault) (columns : Nat) : Except AccessFault Nat :=
  match fault? with
  | none => .ok columns
  | some fault => .error fault

/-- Columns add up, and the first of two faults decides. -/
theorem columnsUnless_add (fault? fault'? : Option AccessFault) (m n : Nat) :
    (do
      let a ← columnsUnless fault? m
      let b ← columnsUnless fault'? n
      pure (a + b)) = columnsUnless (fault?.or fault'?) (m + n) := by
  cases fault? <;> cases fault'? <;> rfl

theorem Value.measure_eq (v : Value) : v.measure = columnsUnless v.countFault? v.count := by
  unfold measure countFault? count
  cases v.length? <;> rfl

/-- An entry is as wide as its columns, unless it has a fault. -/
theorem Value.attributeWidth_eq (entry : Value) :
    entry.attributeWidth = columnsUnless entry.entryFault? entry.entryColumns := by
  cases entry with
  | attr name kind text =>
    show (do
      let a ← name.measure
      let b ← text.measure
      pure (a + b)) = _
    rw [measure_eq, measure_eq, columnsUnless_add]
    rfl
  | tagHead name =>
    show (do
      let a ← name.measure
      let b ← columnsUnless (some (.noField (tagHead name).typeName "value_text")) 0
      pure (a + b)) = _
    rw [measure_eq, columnsUnless_add, entryFault?]
    cases name.countFault? <;> rfl
  | _ => rfl

theorem attributesWidth_step (entry : Value) (rest : List Value) : attributesWidth (entry :: rest) = (do
    let a ← entry.attributeWidth
    let b ← attributesWidth rest
    pure (a + b)) := by
  unfold attributesWidth
  rw [List.mapM_cons]
  cases entry.attributeWidth with
  | error fault => rfl
  | ok n => cases rest.mapM Value.attributeWidth <;> rfl

/-- All entries are as wide as their columns together, unless one has a fault: then the first one decides. -/
theorem attributesWidth_eq (entries : List Value) : attributesWidth entries =
    columnsUnless (entries.findSome? Value.entryFault?) (entries.map Value.entryColumns).sum := by
  induction entries with
  | nil => rfl
  | cons entry rest ih =>
    rw [attributesWidth_step, ih, Value.attributeWidth_eq, columnsUnless_add, List.map_cons, List.sum_cons,
      List.findSome?_cons]
    cases entry.entryFault? <;> rfl

theorem findSome?_entryFault?_eq_none {entries : List Value} :
    entries.findSome? Value.entryFault? = none ↔ ∀ a ∈ entries, a.IsMeasurable := by
  simp only [List.findSome?_eq_none_iff, Value.entryFault?_eq_none]

/-- The fault of the first entry that cannot be measured. -/
def FirstFault (entries : List Value) (fault : AccessFault) : Prop :=
  ∃ before entry after, entries = before ++ entry :: after ∧ (∀ a ∈ before, a.IsMeasurable) ∧
    entry.entryFault? = some fault

theorem firstFault_iff {entries : List Value} {fault : AccessFault} :
    FirstFault entries fault ↔ entries.findSome? Value.entryFault? = some fault := by
  simp only [List.findSome?_eq_some_iff, Value.entryFault?_eq_none]
  constructor
  · rintro ⟨before, entry, after, hentries, hbefore, hentry⟩
    exact ⟨before, entry, after, hentries, hentry, hbefore⟩
  · rintro ⟨before, entry, after, hentries, hentry, hbefore⟩
    exact ⟨before, entry, after, hentries, hbefore, hentry⟩

/-! ## Heads -/

section Heads

variable {attributes reported : Value} {entries : List Value}

/-- The failure of a head that has an entry with a fault. -/
def malformedHead (head : Value) (fault : AccessFault) : Failure := { cause := .malformedAttribute fault, node := head }

theorem attrsHead_headWidth (h : attributes.elements? = some entries) :
    (Value.attrsHead attributes reported).headWidth = match entries.findSome? Value.entryFault? with
      | none => .ok (1 + (entries.map Value.entryColumns).sum)
      | some fault => .error (.failure (malformedHead (.attrsHead attributes reported) fault)) := by
  simp only [Value.headWidth, h, attributesWidth_eq]
  cases entries.findSome? Value.entryFault? <;> rfl

/-- A head of attributes has a width if all its entries can be measured: one column and theirs. -/
theorem attrsHead_headWidth_ok (h : attributes.elements? = some entries) {n : Nat} :
    (Value.attrsHead attributes reported).headWidth = .ok n ↔
      (∀ a ∈ entries, a.IsMeasurable) ∧ n = 1 + (entries.map Value.entryColumns).sum := by
  rw [attrsHead_headWidth h, ← findSome?_entryFault?_eq_none]
  cases entries.findSome? Value.entryFault? with
  | none => exact ⟨fun hn => ⟨rfl, (Except.ok.inj hn).symm⟩, fun hn => congrArg Except.ok hn.2.symm⟩
  | some fault => exact ⟨nofun, nofun⟩

/-- Else the first fault is reported, of the whole head. -/
theorem attrsHead_headWidth_error (h : attributes.elements? = some entries) {e : Error} :
    (Value.attrsHead attributes reported).headWidth = .error e ↔
      ∃ fault, FirstFault entries fault ∧ e = .failure (malformedHead (.attrsHead attributes reported) fault) := by
  simp only [firstFault_iff]
  rw [attrsHead_headWidth h]
  cases entries.findSome? Value.entryFault? with
  | none => exact ⟨nofun, nofun⟩
  | some fault =>
    constructor
    · intro he
      exact ⟨fault, rfl, (Except.error.inj he).symm⟩
    · rintro ⟨_, hfault, rfl⟩
      obtain rfl := Option.some.inj hfault
      rfl

/-- The entries may stand in any order. -/
theorem attrsHead_headWidth_perm {attributes' reported' : Value} {entries' : List Value}
    (h : attributes.elements? = some entries) (h' : attributes'.elements? = some entries')
    (hperm : entries.Perm entries') {n : Nat} : (Value.attrsHead attributes reported).headWidth = .ok n ↔
      (Value.attrsHead attributes' reported').headWidth = .ok n := by
  have hsum : (entries.map Value.entryColumns).sum = (entries'.map Value.entryColumns).sum :=
    (hperm.map Value.entryColumns).sum_nat
  rw [attrsHead_headWidth_ok h, attrsHead_headWidth_ok h', hsum]
  simp only [hperm.mem_iff]

/-- Entries that are put together share the separating column. -/
theorem attrsHead_headWidth_append {xs ys : List Value} {reported' reported'' : Value} {n : Nat}
    (h : attributes.elements? = some (xs ++ ys)) : (Value.attrsHead attributes reported).headWidth = .ok n ↔
      ∃ a b, (Value.attrsHead (.tuple xs) reported').headWidth = .ok a ∧
        (Value.attrsHead (.tuple ys) reported'').headWidth = .ok b ∧ n = a + b - 1 := by
  have hxs : (Value.tuple xs).elements? = some xs := rfl
  have hys : (Value.tuple ys).elements? = some ys := rfl
  simp only [attrsHead_headWidth_ok h, attrsHead_headWidth_ok hxs, attrsHead_headWidth_ok hys,
    List.forall_mem_append, List.map_append, List.sum_append]
  constructor
  · rintro ⟨⟨hx, hy⟩, rfl⟩
    exact ⟨_, _, ⟨hx, rfl⟩, ⟨hy, rfl⟩, by omega⟩
  · rintro ⟨_, _, ⟨hx, rfl⟩, ⟨hy, rfl⟩, rfl⟩
    exact ⟨⟨hx, hy⟩, by omega⟩

end Heads

/-! ## Paddings -/

/-- A width is reported and checked, and it is not the given one. -/
structure WidthMismatch (o : Options) (reported : Value) (width : Nat) : Prop where
  checked : o.checkSourceWidth = true
  isReported : reported ≠ .null
  differs : reported.eq (.int width) = false

/-- The failure of a head that is not as wide as reported. -/
def mismatchedHead (head : Value) (width : Nat) : Failure :=
  { cause := .widthMismatch width head.sourceWidth, node := head }

section Paddings

variable {o : Options}

theorem widthMismatch_iff {reported : Value} {width : Nat} :
    WidthMismatch o reported width ↔ (o.checkSourceWidth && !reported.agreesWith width) = true := by
  have hnull : reported.isNull = false ↔ reported ≠ .null := by
    rw [← Bool.not_eq_true, Value.isNull_eq_true]
  rw [Value.agreesWith, Bool.and_eq_true, Bool.not_eq_true', Bool.or_eq_false_iff, hnull]
  exact ⟨fun ⟨hchecked, hreported, hdiffers⟩ => ⟨hchecked, hreported, hdiffers⟩,
    fun ⟨hchecked, hreported, hdiffers⟩ => ⟨hchecked, hreported, hdiffers⟩⟩

/-- Integers are equal as values if they are equal. -/
theorem Value.eq_int {a b : Int} : (Value.int a).eq (.int b) = true ↔ a = b := by
  show (Decimal.Point.ofInt a == Decimal.Point.ofInt b) = true ↔ a = b
  rw [beq_iff_eq]
  constructor
  · intro h
    have hrat : (Dyadic.ofIntWithPrec a 0).toRat = (Dyadic.ofIntWithPrec b 0).toRat :=
      congrArg Dyadic.toRat (Decimal.Point.exactly.inj h)
    rw [Dyadic.toRat_ofIntWithPrec_eq_mul_two_pow, Dyadic.toRat_ofIntWithPrec_eq_mul_two_pow] at hrat
    simpa using hrat
  · rintro rfl
    rfl

/-- A reported integer is not the width if it is another integer. -/
theorem widthMismatch_int {k : Int} {width : Nat} :
    WidthMismatch o (.int k) width ↔ o.checkSourceWidth = true ∧ k ≠ width := by
  have hdiffers : (Value.int k).eq (.int width) = false ↔ k ≠ width := by
    rw [← Bool.not_eq_true, Value.eq_int]
  exact ⟨fun h => ⟨h.checked, hdiffers.1 h.differs⟩, fun h => ⟨h.1, nofun, hdiffers.2 h.2⟩⟩

theorem Value.padding_eq_ok {head : Value} {text : String} : head.padding o = .ok text ↔
    ∃ width, head.headWidth = .ok width ∧ ¬WidthMismatch o head.sourceWidth width ∧ text = spaces width := by
  have hagrees : ∀ width, ¬WidthMismatch o head.sourceWidth width ↔
      (o.checkSourceWidth = true → head.sourceWidth.agreesWith width = true) := by
    intro width
    rw [widthMismatch_iff]
    simp
  simp only [padding_ok, hagrees]

theorem Value.padding_eq_error {head : Value} {e : Error} : head.padding o = .error e ↔ head.headWidth = .error e ∨
    ∃ width, head.headWidth = .ok width ∧ WidthMismatch o head.sourceWidth width ∧
      e = .failure (mismatchedHead head width) := by
  cases h : head.headWidth with
  | error e' =>
    rw [padding_of_error h]
    constructor
    · intro he
      exact .inl (congrArg _ (Except.error.inj he))
    · rintro (he | ⟨_, hwidth, -⟩)
      · exact congrArg _ (Except.error.inj he)
      · cases hwidth
  | ok width =>
    rw [padding_of_ok h]
    constructor
    · intro he
      split at he
      · rename_i hmismatch
        exact .inr ⟨width, rfl, widthMismatch_iff.2 hmismatch, (Except.error.inj he).symm⟩
      · cases he
    · rintro (he | ⟨_, hwidth, hmismatch, rfl⟩)
      · cases he
      · obtain rfl := Except.ok.inj hwidth
        exact if_pos (widthMismatch_iff.1 hmismatch)

end Paddings

/-! ## The law of attribute lists -/

/-- **Attribute lists add up.** Whatever the entries, a list of attributes has a width if and only if every entry is an
attribute whose name and value text can be counted, and then it is one column and theirs. The entries may be reordered,
and lists that are put together are as wide as both but for one column. Else the width fails as malformed, with the
whole head, and the message names the fault of the first malformed entry, of its name before its value text. The padding
fails as the width does, whatever is reported; else it fails if another width is reported and checked, naming both, or
it is that many spaces. -/
theorem attribute_lists_add_up {attributes : Value} {entries : List Value} (h : attributes.elements? = some entries)
    (reported : Value) :
    let head := Value.attrsHead attributes reported
    (∀ n, head.headWidth = .ok n ↔
      (∀ a ∈ entries, a.IsMeasurable) ∧ n = 1 + (entries.map Value.entryColumns).sum) ∧
    (∀ attributes' reported' entries', Value.elements? attributes' = some entries' → entries.Perm entries' →
      ∀ n, head.headWidth = .ok n ↔ (Value.attrsHead attributes' reported').headWidth = .ok n) ∧
    (∀ xs ys, entries = xs ++ ys → ∀ n, head.headWidth = .ok n ↔ ∃ a b,
      (Value.attrsHead (.tuple xs) .null).headWidth = .ok a ∧ (Value.attrsHead (.tuple ys) .null).headWidth = .ok b ∧
        n = a + b - 1) ∧
    (∀ e, head.headWidth = .error e ↔ ∃ fault, FirstFault entries fault ∧
      (malformedHead head fault).IsMalformedNode ∧ e = .failure (malformedHead head fault)) ∧
    (∀ fault, (malformedHead head fault).cause.line = "Malformed attribute in attribute list: " ++ fault.message) ∧
    ∀ o : Options,
      (∀ text, head.padding o = .ok text ↔
        ∃ n, head.headWidth = .ok n ∧ ¬WidthMismatch o reported n ∧ text = spaces n) ∧
      (∀ e, head.padding o = .error e ↔ head.headWidth = .error e ∨
        ∃ n, head.headWidth = .ok n ∧ WidthMismatch o reported n ∧ e = .failure (mismatchedHead head n)) ∧
      ∀ k, reported = .int k → ∀ n, WidthMismatch o reported n ↔ o.checkSourceWidth = true ∧ k ≠ n := by
  intro head
  refine ⟨fun n => attrsHead_headWidth_ok h, ?_, ?_, fun e => ?_, fun _ => rfl, fun o => ⟨?_, ?_, ?_⟩⟩
  · intro attributes' reported' entries' h' hperm n
    exact attrsHead_headWidth_perm h h' hperm
  · rintro xs ys rfl n
    exact attrsHead_headWidth_append h
  · refine (attrsHead_headWidth_error h).trans (exists_congr fun fault => and_congr_right fun _ => ?_)
    exact ⟨fun he => ⟨⟨rfl, rfl⟩, he⟩, fun he => he.2⟩
  · exact fun text => Value.padding_eq_ok
  · exact fun e => Value.padding_eq_error
  · rintro k rfl n
    exact widthMismatch_int

/-- Two attributes, one of them with a list for its name, take six columns in either order, so nine are a mismatch. With
an entry between them that has no text for its value, it is reported, although the next entry is no attribute at all. -/
theorem attribute_lists_add_up_mismatch :
    let id := Value.attr (.str "id") (.known .static) (.str "x")
    let wide := Value.attr (.list [.null, .null]) (.known .dynamic) (.str "")
    let broken := Value.attr (.str "b") (.known .static) .null
    let good := Value.attrsHead (.list [id, wide]) (.int 9)
    let bad := Value.attrsHead (.tuple [id, broken, .null, wide]) (.int 9)
    (Value.list [id, wide]).elements? = some [id, wide] ∧ good.headWidth = .ok 6 ∧
      (Value.attrsHead (.tuple [wide, id]) .null).headWidth = .ok 6 ∧
      good.padding { checkSourceWidth := false } = .ok (spaces 6) ∧
      good.padding {} = .error (.failure (mismatchedHead good 6)) ∧
      bad.padding {} = .error (.failure (malformedHead bad (.noLength "NoneType"))) := by
  intro id wide broken good bad
  have hid : id.IsMeasurable := .attr _ rfl rfl
  have hwide : wide.IsMeasurable := .attr _ rfl rfl
  have hentries : ∀ a ∈ [id, wide], a.IsMeasurable := List.forall_mem_cons.2 ⟨hid, List.forall_mem_singleton.2 hwide⟩
  have helements : (Value.list [id, wide]).elements? = some [id, wide] := rfl
  have hbroken : (Value.tuple [id, broken, .null, wide]).elements? = some [id, broken, .null, wide] := rfl
  obtain ⟨hwidth, hperm, -, -, -, hpadding⟩ := attribute_lists_add_up helements (.int 9)
  have hsix : good.headWidth = .ok 6 := (hwidth 6).2 ⟨hentries, rfl⟩
  refine ⟨helements, hsix, ?_, ?_, ?_, ?_⟩
  · exact (hperm (.tuple [wide, id]) .null _ rfl (.swap _ _ _) 6).1 hsix
  · exact ((hpadding _).1 _).2 ⟨6, hsix, fun h => absurd h.checked nofun, rfl⟩
  · exact ((hpadding _).2.1 _).2 (.inr ⟨6, hsix, ((hpadding _).2.2 9 rfl 6).2 ⟨rfl, by decide⟩, rfl⟩)
  · obtain ⟨-, -, -, hfails, -, hbad⟩ := attribute_lists_add_up hbroken (.int 9)
    have hfirst : FirstFault [id, broken, .null, wide] (.noLength "NoneType") :=
      ⟨[id], broken, [.null, wide], rfl, List.forall_mem_singleton.2 hid, rfl⟩
    exact ((hbad _).2.1 _).2 (.inl ((hfails _).2 ⟨_, hfirst, ⟨rfl, rfl⟩, rfl⟩))

end TemplateProjection
