import TemplateProjection.Proofs.Error.Lines
import TemplateProjection.Proofs.Grammar.Notices
import TemplateProjection.Proofs.Path.Resolution
import TemplateProjection.Proofs.Raw.WellFormed

/-!
# Messages of adapting

What a place of raw data violates is put into a line (`Place.violation?_isLine`): shapes and their fields are named by
words of the grammar, values by their types, and attributes by their quoted names. The path of an error starts where the
raw data stand, and the blamed value stands in them. So all errors of adapting consist of lines, if the objects in the
raw data write lines (`Value.adapt_onLines`, `adaptSiblings_onLines`). The objects in a tree that raw data are adapted
to stand in those that it keeps unrecognized (`Node.WellFormed.objects_subset`).
-/

namespace TemplateProjection

open Text

/-! ## Violations -/

theorem Shape.word_isLine (s : Shape) : IsLine s.word := by cases s <;> decide

theorem Shape.what_isLine {s : Shape} {r : Requirement} (h : s.requirement? = some r) : IsLine r.what := by
  cases s <;> cases h <;> decide

theorem notAList_isLine : IsLine Cause.notAList.line := by decide

theorem notAnAttribute_isLine : IsLine Cause.notAnAttribute.line := by decide

theorem valueNotAList_isLine : IsLine Cause.valueNotAList.line := by decide

theorem Requirement.violation?_isLine {r : Requirement} {word : String} {v : Visit} {f : Failure}
    (hwhat : IsLine r.what) (hword : IsLine word) (hitems : ∀ x ∈ v.items, x.ObjectsOnLines)
    (h : r.violation? word v = some f) : IsLine f.cause.line := by
  unfold Requirement.violation? at h
  split at h
  · cases h
    exact ((((IsLine.append (by decide) hword).append (by decide)).append hwhat).append (by decide)).append
      (isLine_nat r.index)
  · cases h
  · rename_i x _ hx
    split at h <;> cases h
    exact (hwhat.append (by decide)).append (Value.typeName_isLine (hitems x (List.mem_of_getElem? hx)))

theorem Visit.valueViolation?_isLine {lenient : Bool} {v : Visit} {name : String} {value : Value} {f : Failure}
    (hvalue : value.ObjectsOnLines) (h : v.valueViolation? lenient name value = some f) : IsLine f.cause.line := by
  unfold Visit.valueViolation? Visit.textViolation? at h
  split at h
  · cases h
    exact valueNotAList_isLine
  · cases h
    exact valueNotAList_isLine
  · rename_i items
    split at h
    · split at h <;> cases h
      exact ((IsLine.append (by decide) (isLine_quote name)).append (by decide)).append (isLine_nat _)
    · cases h
    · rename_i x _ hx
      split at h <;> cases h
      exact ((IsLine.append (by decide) (isLine_quote name)).append (by decide)).append
        (Value.typeName_isLine (hvalue.of_item items (List.mem_of_getElem? hx)))

/-- What a place violates is put into a line. -/
theorem Place.violation?_isLine {lenient : Bool} {pl : Place} {f : Failure} (hraw : pl.raw.ObjectsOnLines)
    (h : pl.violation? lenient = some f) : IsLine f.cause.line := by
  unfold Place.violation? at h
  split at h
  · unfold Value.nodeViolation? at h
    split at h
    · cases h
      exact notAList_isLine
    · rename_i items hitems
      split at h
      · rename_i s _
        obtain ⟨r, hr, h⟩ := Option.bind_eq_some_iff.1 h
        exact Requirement.violation?_isLine (Shape.what_isLine hr) s.word_isLine (fun _ => hraw.of_item hitems) h
      · cases h
  · unfold Value.attributeViolation? at h
    split at h
    · cases h
      exact notAnAttribute_isLine
    · rename_i items hattribute
      have hitems : ∀ x ∈ items, x.ObjectsOnLines := fun _ =>
        hraw.of_item (Option.filter_eq_some_iff.1 hattribute).1
      rcases Option.or_eq_some_iff.1 h with h | ⟨-, h⟩
      · exact Requirement.violation?_isLine (by decide) (by decide) hitems h
      · rcases Option.or_eq_some_iff.1 h with h | ⟨-, h⟩
        · exact Requirement.violation?_isLine (by decide) (by decide) hitems h
        · obtain ⟨name, -, h⟩ := Option.bind_eq_some_iff.1 h
          obtain ⟨value, hvalue, h⟩ := Option.bind_eq_some_iff.1 h
          exact Visit.valueViolation?_isLine (hitems value (List.mem_of_getElem? hvalue)) h

/-! ## Raw data -/

theorem Value.ObjectsOnLines.of_steps {v x : Value} {steps : List Nat} (h : v.ObjectsOnLines)
    (hx : v.at? steps = some x) : x.ObjectsOnLines := by
  induction steps generalizing v with
  | nil =>
    obtain rfl := Option.some.inj hx
    exact h
  | cons i rest ih =>
    obtain ⟨items, hitems, hx⟩ := Option.bind_eq_some_iff.1 hx
    obtain ⟨y, hy, hx⟩ := Option.bind_eq_some_iff.1 hx
    exact ih (h.of_item hitems (List.mem_of_getElem? hy)) hx

/-- The path of a fault starts where the raw data stand, and the value at fault stands in them. -/
theorem Value.adapt_onLines {lenient : Bool} {raw : Value} {p : Path} {e : Error} (hraw : raw.ObjectsOnLines)
    (hp : IsLine p.base) (h : (raw.adapt lenient p).result = .error e) : e.OnLines := by
  obtain ⟨f, rfl, hfirst⟩ := adapt_error_iff.1 h
  obtain ⟨pl, hpl, hf⟩ := hfirst.exists_place
  obtain ⟨steps, hsteps, -⟩ := Place.steps_of_mem_inOrder hpl
  obtain ⟨d, hd, rfl⟩ := hfirst.isFaultIn
  obtain ⟨above, -, -, -, hnode⟩ := hd.blames
  refine ⟨Place.violation?_isLine (hraw.of_steps hsteps) hf, fun q hq => ?_, hraw.of_steps hnode⟩
  obtain rfl := Option.some.inj hq
  exact hp

theorem childTuple_objects_subset {nodes : List Node} (h : ∀ n ∈ nodes, n.objects ⊆ Value.objectsAll n.kept) :
    (childTuple nodes).objects ⊆ Value.objectsAll (childTuple nodes).kept := by
  intro o ho
  obtain ⟨v, hv, ho⟩ := Value.mem_objectsAll.1 ho
  obtain ⟨n, hn, rfl⟩ := List.mem_map.1 hv
  obtain ⟨raw, hraw, ho⟩ := Value.mem_objectsAll.1 (h n hn ho)
  rw [kept_childTuple]
  exact Value.mem_objectsAll.2 ⟨raw, List.mem_flatMap.2 ⟨n, hn, hraw⟩, ho⟩

theorem bodyOf_objects_subset {inner : Option Node}
    (h : ∀ n, inner = some n → n.objects ⊆ Value.objectsAll n.kept) :
    (bodyOf inner).objects ⊆ Value.objectsAll (bodyOf inner).kept :=
  bodyOf_of_children (P := fun v => v.objects ⊆ Value.objectsAll v.kept) (List.Subset.refl _)
    (fun _ => childTuple_objects_subset) h

/-- The objects in a well-formed tree stand in the raw data that it keeps. -/
theorem Node.WellFormed.objects_subset {n : Node} (h : n.WellFormed) : n.objects ⊆ Value.objectsAll n.kept := by
  induction h with
  | lineBreak => exact List.Subset.refl _
  | multi _ ih | textBlock _ ih => exact childTuple_objects_subset ih
  | statement _ _ ih | embedded _ ih => exact bodyOf_objects_subset ih
  | @tag name inner _ ih =>
    cases inner with
    | none => exact List.Subset.refl _
    | some n => exact ih n rfl
  | attributes h =>
    -- All fields of attributes are texts, and neither a width nor a content is there.
    intro o ho
    have hhead := (List.mem_append.1 ho).resolve_right List.not_mem_nil
    have hattributes := (List.mem_append.1 hhead).resolve_right List.not_mem_nil
    obtain ⟨a, ha, ho⟩ := Value.mem_objectsAll.1 hattributes
    obtain ⟨name, kind, text, rfl⟩ := h a ha
    exact absurd ho List.not_mem_nil
  | unrecognized _ _ => exact fun o ho => Value.mem_objectsAll.2 ⟨_, List.mem_singleton_self _, ho⟩

theorem Value.adapt_objectsOnLines {lenient : Bool} {raw : Value} {p : Path} {n : Node} (hraw : raw.ObjectsOnLines)
    (h : (raw.adapt lenient p).result = .ok n) : (Value.node n).ObjectsOnLines := by
  intro o ho
  obtain ⟨kept, hkept, ho⟩ := Value.mem_objectsAll.1 ((raw.adapt_wellFormed lenient p n h).objects_subset ho)
  rw [(raw.adapt_accounted p n h).kept] at hkept
  obtain ⟨pl, hpl, hkept⟩ := List.mem_filterMap.1 hkept
  obtain ⟨_, -, rfl⟩ := Option.map_eq_some_iff.1 hkept
  obtain ⟨steps, hsteps, -⟩ := Place.steps_of_mem_inOrder hpl
  exact hraw.of_steps hsteps o ho

end TemplateProjection
