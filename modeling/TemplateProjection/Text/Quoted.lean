import TemplateProjection.Text.Printable

/-!
# Quoted text

A text is written between quotes so that it stays on one line and holds printable characters only. Single quotes are
used, unless the text holds a single quote and no double quote. A backslash, the quote in use, a newline, a carriage
return and a tab have two-character escapes; every other unprintable character is written by its code point, in the
shortest of the three widths that holds it. Main statement: whatever the text, `quote` gives printable characters only.
-/

namespace TemplateProjection.Text

/-! ## Hexadecimal digits -/

/-- The lower-case digit of a number below sixteen. -/
def hexDigit (n : Nat) : Char := if n < 10 then Char.ofNat (48 + n) else Char.ofNat (87 + n)

/-- The last `width` hexadecimal digits of a number, the most significant first. -/
def hexDigits : (width : Nat) → Nat → List Char
  | 0, _ => []
  | width + 1, n => hexDigits width (n / 16) ++ [hexDigit (n % 16)]

theorem hexDigit_printable {n : Nat} (h : n < 16) : isPrintable (hexDigit n) = true :=
  have range : ∀ n, n < 16 → 0x20 ≤ (hexDigit n).toNat ∧ (hexDigit n).toNat < 0x7f := by decide
  isPrintable_of_ascii (range n h).1 (range n h).2

theorem hexDigits_printable (width n : Nat) : ∀ c ∈ hexDigits width n, isPrintable c = true := by
  induction width generalizing n with
  | zero => simp [hexDigits]
  | succ width ih =>
    intro c hc
    rcases List.mem_append.1 hc with hc | hc
    · exact ih _ c hc
    · rw [List.mem_singleton.1 hc]
      exact hexDigit_printable (Nat.mod_lt _ (by decide))

/-! ## Escapes -/

/-- A code point in `width` hexadecimal digits, behind a backslash and the letter of that width. -/
def codeEscape (letter : Char) (width n : Nat) : List Char := '\\' :: letter :: hexDigits width n

/-- An unprintable character by its code point: two digits behind `x`, four behind `u` or eight behind `U`. -/
def escapeCode (c : Char) : List Char :=
  if c.toNat < 0x100 then codeEscape 'x' 2 c.toNat
  else if c.toNat < 0x10000 then codeEscape 'u' 4 c.toNat
  else codeEscape 'U' 8 c.toNat

/-- One character of a text that is written between `mark`s. -/
def escapeChar (mark c : Char) : List Char :=
  if c = mark ∨ c = '\\' then ['\\', c]
  else if c = '\n' then ['\\', 'n']
  else if c = '\r' then ['\\', 'r']
  else if c = '\t' then ['\\', 't']
  else if isPrintable c then [c]
  else escapeCode c

/-- The quote that a text is written in. -/
def quoteMark (cs : List Char) : Char := if '\'' ∈ cs ∧ '"' ∉ cs then '"' else '\''

/-- The characters of the quoted text. -/
def quoteChars (cs : List Char) : List Char :=
  quoteMark cs :: cs.flatMap (escapeChar (quoteMark cs)) ++ [quoteMark cs]

/-- The text between quotes, with escapes. -/
def quote (s : String) : String := String.ofList (quoteChars s.toList)

@[simp]
theorem toList_quote (s : String) : (quote s).toList = quoteChars s.toList := String.toList_ofList

/-! ## Quoted text is printable -/

theorem backslash_printable : isPrintable '\\' = true := isPrintable_of_ascii (by decide) (by decide)

theorem pair_printable {c : Char} (h : isPrintable c = true) : ∀ d ∈ ['\\', c], isPrintable d = true := by
  simp [backslash_printable, h]

theorem codeEscape_printable {letter : Char} (h : isPrintable letter = true) (width n : Nat) :
    ∀ d ∈ codeEscape letter width n, isPrintable d = true := by
  intro d hd
  rcases List.mem_cons.1 hd with rfl | hd
  · exact backslash_printable
  · rcases List.mem_cons.1 hd with rfl | hd
    · exact h
    · exact hexDigits_printable width n d hd

theorem escapeCode_printable (c : Char) : ∀ d ∈ escapeCode c, isPrintable d = true := by
  unfold escapeCode
  split
  · exact codeEscape_printable (isPrintable_of_ascii (by decide) (by decide)) 2 c.toNat
  · split
    · exact codeEscape_printable (isPrintable_of_ascii (by decide) (by decide)) 4 c.toNat
    · exact codeEscape_printable (isPrintable_of_ascii (by decide) (by decide)) 8 c.toNat

theorem quoteMark_eq (cs : List Char) : quoteMark cs = '"' ∨ quoteMark cs = '\'' := by
  unfold quoteMark
  split <;> simp

theorem quoteMark_printable (cs : List Char) : isPrintable (quoteMark cs) = true := by
  rcases quoteMark_eq cs with h | h <;> rw [h] <;> exact isPrintable_of_ascii (by decide) (by decide)

theorem escapeChar_printable {mark : Char} (hm : isPrintable mark = true) (c : Char) :
    ∀ d ∈ escapeChar mark c, isPrintable d = true := by
  unfold escapeChar
  split
  · rename_i h
    rcases h with rfl | rfl
    · exact pair_printable hm
    · exact pair_printable backslash_printable
  · split
    · exact pair_printable (isPrintable_of_ascii (by decide) (by decide))
    · split
      · exact pair_printable (isPrintable_of_ascii (by decide) (by decide))
      · split
        · exact pair_printable (isPrintable_of_ascii (by decide) (by decide))
        · split
          · rename_i h
            simpa using h
          · exact escapeCode_printable c

theorem quoteChars_printable (cs : List Char) : ∀ d ∈ quoteChars cs, isPrintable d = true := by
  intro d hd
  simp only [quoteChars, List.cons_append, List.mem_cons, List.mem_append, List.mem_flatMap, List.not_mem_nil,
    or_false] at hd
  rcases hd with rfl | ⟨c, -, hd⟩ | rfl
  · exact quoteMark_printable cs
  · exact escapeChar_printable (quoteMark_printable cs) c d hd
  · exact quoteMark_printable cs

/-- A quoted text holds printable characters only. -/
theorem quote_printable (s : String) : ∀ d ∈ (quote s).toList, isPrintable d = true := by
  rw [toList_quote]
  exact quoteChars_printable s.toList

end TemplateProjection.Text
