import TemplateProjection.Decimal.Layout
import TemplateProjection.Text.Quoted

/-!
# Lines

A text is a line if all its characters are printable (`Text.IsLine`). No character that breaks a line is printable, so
texts that are joined by newlines come apart again if they are lines (`Text.splitOn_lines`). Quoted texts and the texts
of numbers are lines, and so is what is put together from lines.
-/

namespace TemplateProjection

namespace Text

/-- The text has printable characters only. -/
def IsLine (s : String) : Prop := ∀ c ∈ s.toList, isPrintable c = true

instance (s : String) : Decidable (IsLine s) := decidable_of_iff (s.toList.all isPrintable = true) List.all_eq_true

theorem isLine_ofList {cs : List Char} : IsLine (String.ofList cs) ↔ ∀ c ∈ cs, isPrintable c = true := by
  rw [IsLine, String.toList_ofList]

namespace IsLine

variable {s t : String}

theorem append (h : IsLine s) (h' : IsLine t) : IsLine (s ++ t) := by
  unfold IsLine
  rw [String.toList_append]
  exact List.forall_mem_append.2 ⟨h, h'⟩

theorem join {parts : List String} (h : ∀ s ∈ parts, IsLine s) : IsLine (String.join parts) := by
  intro c hc
  rw [String.toList_join] at hc
  obtain ⟨s, hs, hc⟩ := List.mem_flatMap.1 hc
  exact h s hs c hc

theorem intercalate {parts : List String} (hs : IsLine s) (h : ∀ t ∈ parts, IsLine t) :
    IsLine (s.intercalate parts) := by
  induction parts with
  | nil => exact nofun
  | cons t rest ih =>
    obtain ⟨ht, hrest⟩ := List.forall_mem_cons.1 h
    cases rest with
    | nil => rwa [String.intercalate_singleton]
    | cons u rest =>
      rw [String.intercalate_cons_cons]
      exact (ht.append hs).append (ih hrest)

end IsLine

theorem isLine_quote (s : String) : IsLine (quote s) := quote_printable s

theorem isPrintable_of_isDigit {c : Char} (h : c.isDigit = true) : isPrintable c = true := by
  have hrange : 48 ≤ c.val ∧ c.val ≤ 57 := by simpa [Char.isDigit] using h
  have hlow : 48 ≤ c.toNat := UInt32.le_iff_toNat_le.1 hrange.1
  have hhigh : c.toNat ≤ 57 := UInt32.le_iff_toNat_le.1 hrange.2
  exact isPrintable_of_ascii (by omega) (by omega)

theorem digits_printable (n : Nat) : ∀ c ∈ Nat.toDigits 10 n, isPrintable c = true := fun _ hc =>
  isPrintable_of_isDigit (Nat.isDigit_of_mem_toDigits (by decide) (by decide) hc)

theorem isLine_nat (n : Nat) : IsLine (toString n) := isLine_ofList.2 (digits_printable n)

theorem isLine_int (n : Int) : IsLine (toString n) := by
  cases n with
  | ofNat n => exact isLine_nat n
  | negSucc n => exact IsLine.append (by decide) (isLine_nat (n + 1))

end Text

namespace Decimal

open Text

/-! ## Decimals -/

theorem stripZeros_subset (ds : List Char) : stripZeros ds ⊆ ds := by
  intro c hc
  exact List.mem_reverse.1 ((List.dropWhile_sublist _).subset (List.mem_reverse.1 hc))

theorem zeros_printable (n : Nat) : ∀ c ∈ List.replicate n '0', isPrintable c = true := by
  intro c hc
  rw [List.eq_of_mem_replicate hc]
  decide

theorem exponentText_printable (e : Int) : ∀ c ∈ exponentText e, isPrintable c = true := by
  unfold exponentText
  refine List.forall_mem_cons.2 ⟨?_, ?_⟩
  · split <;> decide
  · split
    · exact List.forall_mem_cons.2 ⟨by decide, digits_printable _⟩
    · exact digits_printable _

section Layout

variable {ds : List Char} (h : ∀ c ∈ ds, isPrintable c = true)
include h

theorem positional_printable (point : Int) : ∀ c ∈ positional ds point, isPrintable c = true := by
  unfold positional
  split
  · refine List.forall_mem_cons.2 ⟨by decide, List.forall_mem_cons.2 ⟨by decide, ?_⟩⟩
    exact List.forall_mem_append.2 ⟨zeros_printable _, h⟩
  · split
    · exact List.forall_mem_append.2 ⟨List.forall_mem_append.2 ⟨h, zeros_printable _⟩, List.all_eq_true.1 (by decide)⟩
    · refine List.forall_mem_append.2 ⟨fun c hc => h c (List.mem_of_mem_take hc), ?_⟩
      exact List.forall_mem_cons.2 ⟨by decide, fun c hc => h c (List.mem_of_mem_drop hc)⟩

theorem scientific_printable (e : Int) : ∀ c ∈ scientific ds e, isPrintable c = true := by
  have hexponent : ∀ c ∈ 'e' :: exponentText e, isPrintable c = true :=
    List.forall_mem_cons.2 ⟨by decide, exponentText_printable e⟩
  unfold scientific
  split
  · exact nofun
  · exact List.forall_mem_cons.2 ⟨h _ List.mem_cons_self, hexponent⟩
  · obtain ⟨hd, hrest⟩ := List.forall_mem_cons.1 h
    refine List.forall_mem_append.2 ⟨?_, hexponent⟩
    exact List.forall_mem_cons.2 ⟨hd, List.forall_mem_cons.2 ⟨by decide, hrest⟩⟩

end Layout

theorem Magnitude.text_printable (m : Magnitude) : ∀ c ∈ m.text, isPrintable c = true := by
  unfold Magnitude.text
  split
  · exact List.all_eq_true.1 (by decide)
  · have hdigits : ∀ c ∈ stripZeros (Nat.toDigits 10 m.shortest.digits), isPrintable c = true := fun c hc =>
      digits_printable _ c (stripZeros_subset _ hc)
    unfold Scaled.layout
    dsimp only
    split
    · exact positional_printable hdigits _
    · exact scientific_printable hdigits _

theorem isLine_write (x : Float) : IsLine (write x) := by
  refine isLine_ofList.2 ?_
  cases Number.ofFloat x with
  | nan => exact List.all_eq_true.1 (by decide)
  | infinite negative => cases negative <;> exact List.all_eq_true.1 (by decide)
  | finite negative m =>
    cases negative with
    | false => exact m.text_printable
    | true => exact List.forall_mem_cons.2 ⟨by decide, m.text_printable⟩

end Decimal

end TemplateProjection
