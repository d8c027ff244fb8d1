import TemplateProjection.Decimal.Binary

/-!
# Shortest decimals

The decimal that is written for a float is the one with the fewest digits among those that read back as this float; of
several with that many digits the nearest is taken, and of two equally near ones the even one.

The reals that read back as `m * 2 ^ q` reach half-way to its two neighbours, the ends included exactly when `m` is
even. Below a power of two the neighbour is only half as far away. All tests are made on naturals: a real
`x / 4 * 2 ^ q` and a point `c * 10 ^ scale` are compared after both are multiplied by the same power of two and of ten.
-/

namespace TemplateProjection.Decimal

/-- The decimal number `digits * 10 ^ scale`. -/
structure Scaled where
  digits : Nat
  scale : Int
  deriving DecidableEq, Repr

namespace Magnitude

/-! ## Quarters of the last binary place -/

/-- How many quarters of the last place lie between the number and the lower end of its interval. -/
def gapBelow (x : Magnitude) : Nat := if x.mantissa = hiddenBit ∧ leastExponent < x.exponent then 1 else 2

/-- The factor that a count of quarters takes on the grid of step `10 ^ scale`. -/
def quarterFactor (x : Magnitude) (scale : Int) : Nat :=
  Nat.pow 2 (x.exponent - 2).toNat * Nat.pow 10 (-scale).toNat

/-- The factor that a grid point's digits take beside `quarterFactor`. -/
def gridFactor (x : Magnitude) (scale : Int) : Nat :=
  Nat.pow 2 (2 - x.exponent).toNat * Nat.pow 10 scale.toNat

/-- The point `c * 10 ^ scale` reads back as the number. -/
def readsBack (x : Magnitude) (scale : Int) (c : Nat) : Bool :=
  let low := (4 * x.mantissa - x.gapBelow) * x.quarterFactor scale
  let high := (4 * x.mantissa + 2) * x.quarterFactor scale
  let point := c * x.gridFactor scale
  if x.mantissa % 2 = 0 then low ≤ point && point ≤ high else low < point && point < high

/-! ## One grid -/

/-- The digits of the last grid point that is not above the number. -/
def floorOn (x : Magnitude) (scale : Int) : Nat := 4 * x.mantissa * x.quarterFactor scale / x.gridFactor scale

/-- The nearer of the two grid points around the number, the even one if both are equally near. -/
def nearestOn (x : Magnitude) (scale : Int) : Nat :=
  let c := x.floorOn scale
  match compare (8 * x.mantissa * x.quarterFactor scale) ((2 * c + 1) * x.gridFactor scale) with
  | .lt => c
  | .gt => c + 1
  | .eq => if c % 2 = 0 then c else c + 1

/-- The grid point that reads back as the number, the nearer of two. -/
def hit? (x : Magnitude) (scale : Int) : Option Nat :=
  let c := x.floorOn scale
  match x.readsBack scale c, x.readsBack scale (c + 1) with
  | true, true => some (x.nearestOn scale)
  | true, false => some c
  | false, true => some (c + 1)
  | false, false => none

/-! ## From the coarsest grid to finer ones -/

/-- The number of decimal digits. -/
def digitCount (n : Nat) : Nat := (Nat.toDigits 10 n).length

/-- The power of ten of the leading digit of a positive number. -/
def leadingScale (x : Magnitude) : Int :=
  let num := 4 * x.mantissa * x.quarterFactor 0
  let den := x.gridFactor 0
  if den ≤ num then digitCount (num / den) - 1
  else
    let d := digitCount (den / num)
    if Nat.pow 10 (d - 1) * num = den then -(d - 1 : Nat) else -(d : Int)

/-- The first hit on the grids from `scale` down, on at most `grids` of them. -/
def search (x : Magnitude) : (grids : Nat) → (scale : Int) → Scaled
  | 0, scale => ⟨x.nearestOn scale, scale⟩
  | grids + 1, scale =>
    match x.hit? scale with
    | some c => ⟨c, scale⟩
    | none => x.search grids (scale - 1)

/-- The shortest decimal of a positive number; seventeen digits always read back. -/
def shortest (x : Magnitude) : Scaled := x.search 17 x.leadingScale

end Magnitude

end TemplateProjection.Decimal
