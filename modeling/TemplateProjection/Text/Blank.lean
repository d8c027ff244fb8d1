/-!
# Blank characters

The 29 code points that count as blank at the ends of a code fragment, and `strip`, which takes them off both ends of a
text and leaves everything between.
-/

namespace TemplateProjection.Text

/-- The ranges of blank code points, ascending and apart, first and last included. -/
def blankRanges : List (Nat × Nat) :=
  [(0x9, 0xd), (0x1c, 0x20), (0x85, 0x85), (0xa0, 0xa0), (0x1680, 0x1680), (0x2000, 0x200a), (0x2028, 0x2029),
   (0x202f, 0x202f), (0x205f, 0x205f), (0x3000, 0x3000)]

def isBlank (c : Char) : Bool := blankRanges.any fun r => r.1 ≤ c.toNat && c.toNat ≤ r.2

/-- The text without its trailing blanks. -/
def trimEnd (cs : List Char) : List Char := (cs.reverse.dropWhile isBlank).reverse

/-- The characters from the first that is not blank to the last that is not. -/
def trim (cs : List Char) : List Char := trimEnd (cs.dropWhile isBlank)

/-- The text without the blanks at its two ends. -/
def strip (s : String) : String := String.ofList (trim s.toList)

@[simp]
theorem toList_strip (s : String) : (strip s).toList = trim s.toList := String.toList_ofList

end TemplateProjection.Text
