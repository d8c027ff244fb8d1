import TemplateProjection.Decimal.Shortest

/-!
# Decimal texts of floats

A finite float is written by its shortest digits: positionally when the power of ten of its first digit is at least -4
and below 16, with `.0` behind a whole number, else with an exponent of a sign and at least two digits. A negative zero
keeps its sign. `read?` reads these texts, and any other decimal with a fraction or an exponent, and rounds to the
nearest float.
-/

namespace TemplateProjection.Decimal

/-! ## Writing -/

/-- The exponents of the first digit that are written positionally start here. -/
def plainFrom : Int := -4

/-- The exponents of the first digit that are written positionally end before this one. -/
def plainBelow : Int := 16

/-- The digits without the zeros at their end. -/
def stripZeros (ds : List Char) : List Char := (ds.reverse.dropWhile (· == '0')).reverse

/-- An exponent: its sign and two digits at least. -/
def exponentText (e : Int) : List Char :=
  let ds := Nat.toDigits 10 e.natAbs
  (if e < 0 then '-' else '+') :: (if ds.length < 2 then '0' :: ds else ds)

/-- The digits `ds` with the decimal point behind the first `point` of them, which may lie outside them. -/
def positional (ds : List Char) (point : Int) : List Char :=
  if point ≤ 0 then '0' :: '.' :: List.replicate (-point).toNat '0' ++ ds
  else if ds.length ≤ point.toNat then ds ++ List.replicate (point.toNat - ds.length) '0' ++ ['.', '0']
  else ds.take point.toNat ++ '.' :: ds.drop point.toNat

/-- The digits `ds` with the point behind the first one, times ten to the power `e`. -/
def scientific (ds : List Char) (e : Int) : List Char :=
  match ds with
  | [] => []
  | [d] => d :: 'e' :: exponentText e
  | d :: rest => d :: '.' :: rest ++ 'e' :: exponentText e

/-- The text of a positive decimal. -/
def Scaled.layout (d : Scaled) : List Char :=
  let all := Nat.toDigits 10 d.digits
  let point := all.length + d.scale
  let ds := stripZeros all
  if plainFrom ≤ point - 1 ∧ point - 1 < plainBelow then positional ds point else scientific ds (point - 1)

/-- The text of a magnitude, without a sign. -/
def Magnitude.text (m : Magnitude) : List Char :=
  if m.mantissa = 0 then ['0', '.', '0'] else m.shortest.layout

/-- The text of a number. -/
def Number.text : Number → List Char
  | .nan => ['n', 'a', 'n']
  | .infinite false => ['i', 'n', 'f']
  | .infinite true => ['-', 'i', 'n', 'f']
  | .finite false m => m.text
  | .finite true m => '-' :: m.text

/-- The text of a float. -/
def write (x : Float) : String := String.ofList (Number.ofFloat x).text

/-! ## Reading -/

/-- The number that decimal digits spell; no digits or another character spell none. -/
def digitsValue? (ds : List Char) : Option Nat :=
  if ds ≠ [] ∧ ds.all Char.isDigit then some (ds.foldl (fun n d => 10 * n + (d.toNat - 48)) 0) else none

/-- The exponent behind its mark, with or without a sign. -/
def exponentValue? : List Char → Option Int
  | '-' :: ds => (digitsValue? ds).map fun n => -n
  | '+' :: ds => (digitsValue? ds).map Int.ofNat
  | ds => (digitsValue? ds).map Int.ofNat

/-- An unsigned decimal: digits, perhaps a point and more digits, perhaps an exponent. -/
def magnitude? (cs : List Char) : Option Float := do
  let whole := cs.takeWhile Char.isDigit
  let rest := cs.dropWhile Char.isDigit
  let (fraction, rest) := match rest with
    | '.' :: tail => (tail.takeWhile Char.isDigit, tail.dropWhile Char.isDigit)
    | _ => ([], rest)
  let digits ← digitsValue? (whole ++ fraction)
  let exponent ← match rest with
    | [] => some 0
    | mark :: tail => if mark = 'e' ∨ mark = 'E' then exponentValue? tail else none
  let scale := exponent - fraction.length
  pure (Float.ofScientific digits (decide (scale < 0)) scale.natAbs)

/-- The float that a text stands for. -/
def read? (s : String) : Option Float :=
  match s.toList with
  | ['n', 'a', 'n'] => some (0.0 / 0.0)
  | ['i', 'n', 'f'] => some (1.0 / 0.0)
  | ['-', 'i', 'n', 'f'] => some (-(1.0 / 0.0))
  | '-' :: cs => (magnitude? cs).map fun x => -x
  | cs => magnitude? cs

end TemplateProjection.Decimal
