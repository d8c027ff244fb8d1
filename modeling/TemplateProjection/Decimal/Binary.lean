/-!
# Binary numbers behind floats

A 64-bit float is not a number, an infinity, or a signed magnitude `mantissa * 2 ^ exponent`. `Number.ofFloat` reads it
off the bits, so that comparisons and texts of floats are exact arithmetic on naturals and integers.
-/

namespace TemplateProjection.Decimal

/-- The magnitude `mantissa * 2 ^ exponent` of a finite float. -/
structure Magnitude where
  mantissa : Nat
  exponent : Int
  deriving DecidableEq, Repr

/-- What a float stands for. -/
inductive Number
  | nan
  | infinite (negative : Bool)
  | finite (negative : Bool) (magnitude : Magnitude)
  deriving DecidableEq, Repr

/-- The exponent of the numbers that carry no hidden bit, which is the least of all. -/
def leastExponent : Int := -1074

/-- The hidden bit of all other numbers. -/
def hiddenBit : Nat := Nat.pow 2 52

/-- The number that the three fields of a float's bits stand for. -/
def Number.ofFields (negative : Bool) (biased fraction : Nat) : Number :=
  if biased = 0x7ff then
    if fraction = 0 then .infinite negative else .nan
  else if biased = 0 then .finite negative ⟨fraction, leastExponent⟩
  else .finite negative ⟨hiddenBit + fraction, leastExponent + (biased - 1)⟩

def Number.ofBits (bits : UInt64) : Number :=
  .ofFields (decide (Nat.pow 2 63 ≤ bits.toNat)) (bits.toNat / Nat.pow 2 52 % Nat.pow 2 11) (bits.toNat % Nat.pow 2 52)

def Number.ofFloat (x : Float) : Number := .ofBits x.toBits

/-! ## Exact comparison -/

/-- A point of the line that floats and integers share, with its two ends. -/
inductive Point
  | below
  | exactly (value : Dyadic)
  | above
  deriving DecidableEq

namespace Point

def ofInt (n : Int) : Point := .exactly (.ofInt n)

def lt : Point → Point → Bool
  | .below, .below => false
  | .below, _ => true
  | .exactly a, .exactly b => a < b
  | .exactly _, .above => true
  | _, _ => false

end Point

/-- The place of a number on the line; what is not a number has none. -/
def Number.point? : Number → Option Point
  | .nan => none
  | .infinite true => some .below
  | .infinite false => some .above
  | .finite true m => some (.exactly (.ofIntWithPrec (-m.mantissa) (-m.exponent)))
  | .finite false m => some (.exactly (.ofIntWithPrec m.mantissa (-m.exponent)))

end TemplateProjection.Decimal
