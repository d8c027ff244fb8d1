import TemplateProjection.Error.Basic

/-!
# Options

How a projection indents, how strictly it reads attribute values, and whether it checks reported widths.

A text of spaces may be of any length here; that an interpreter has no text longer than its memory and its index sizes
allow is left out.
-/

namespace TemplateProjection

/-- A text of `n` spaces. -/
def spaces (n : Nat) : String := String.ofList (List.replicate n ' ')

@[simp]
theorem toList_spaces (n : Nat) : (spaces n).toList = List.replicate n ' ' := String.toList_ofList

@[simp]
theorem length_spaces (n : Nat) : (spaces n).length = n := by simp [← String.length_toList]

structure Options where
  /-- The spaces of one level of indentation. -/
  indentWidth : Nat := 2
  /-- Attribute values without code count nothing, and value texts of other types are written out. -/
  lenientAttributes : Bool := false
  /-- A reported width of an attribute list must be the computed one. -/
  checkSourceWidth : Bool := true
  deriving DecidableEq, Repr

namespace Options

/-- The indentation of one level. -/
def indentUnit (o : Options) : String := spaces o.indentWidth

/-- A width of indentation is an integer, not a truth value, and not negative. -/
def readIndentWidth : Value → Except Error Nat
  | .int n => if n < 0 then .error (.ofCause (.negativeIndentWidth n)) else .ok n.toNat
  | v => .error (.ofCause (.indentWidthNotInt v.typeName))

end Options

end TemplateProjection
