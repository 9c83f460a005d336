import Extraction.Text.Basic

/-!
# Shortest decimals

A finite binary number stands for all reals that round to it. Its shortest decimal is the one with
the fewest digits among those reals and, of these, the one nearest to the number. Everything is
decided in exact arithmetic on natural numbers: the grid of decimals `d · 10 ^ e` is refined until
one of the two grid points beside the number rounds to it.

## Main definitions

* `Binary`: a nonnegative number `significand · 2 ^ exponent` with the interval that rounds to it
* `Decimal`: a nonnegative number `digits · 10 ^ exponent`
* `Binary.shortest`: the shortest decimal of a binary number
-/

namespace Extraction

/-- The number `digits · 10 ^ exponent`. -/
structure Decimal where
  digits : Nat
  exponent : Int

/-- The number `significand · 2 ^ exponent`. With `narrow` the gap below it is half the gap above,
as at a power of two. -/
structure Binary where
  significand : Nat
  exponent : Int
  narrow : Bool

namespace Binary

/-- The magnitude of a finite float. -/
def ofFloat (x : Float) : Binary :=
  let bits : Nat := x.toBits.toNat
  let fraction : Nat := bits % 4503599627370496
  let biased : Nat := (bits >>> 52) % 2048
  if biased = 0 then ⟨fraction, -1074, false⟩
  else ⟨4503599627370496 + fraction, (biased : Int) - 1075, fraction == 0 && biased > 1⟩

/-- `base ^ e` over `base ^ (-e)`, whichever is whole, as numerator and denominator. -/
def powerRatio (base : Nat) (e : Int) : Nat × Nat :=
  if 0 ≤ e then (Nat.pow base e.toNat, 1) else (1, Nat.pow base (-e).toNat)

/-- The grid point `d` with `d · 10 ^ e` nearest to the number among those that round to it, if one
of the two neighbours of the number does. A tie goes to the even point. -/
def nearestOnGrid? (b : Binary) (e : Int) : Option Nat :=
  let (twos, twosBelow) := powerRatio 2 (b.exponent - 2)
  let (tens, tensBelow) := powerRatio 10 e
  -- in units of a common denominator, the number is `4 · significand · unit`
  let unit := twos * tensBelow
  let step := tens * twosBelow
  let value := 4 * b.significand * unit
  let high := value + 2 * unit
  let low := value - (if b.narrow then unit else 2 * unit)
  let inside (p : Nat) : Bool :=
    if b.significand % 2 = 0 then low ≤ p && p ≤ high else low < p && p < high
  let d := value / step
  let below := d * step
  let above := below + step
  match inside below && d != 0, inside above with
  | true, true =>
    let down := value - below
    let up := above - value
    if down < up then some d
    else if up < down then some (d + 1)
    else some (if d % 2 = 0 then d else d + 1)
  | true, false => some d
  | false, true => some (d + 1)
  | false, false => none

/-- The first grid, from `10 ^ e` down, that has a point that rounds to the number. -/
def refine (b : Binary) : (fuel : Nat) → (e : Int) → Decimal
  | 0, e => ⟨0, e⟩
  | fuel + 1, e =>
    match nearestOnGrid? b e with
    | some d => ⟨d, e⟩
    | none => refine b fuel (e - 1)

/-- The shortest decimal that rounds to the number. Seventeen digits suffice, and the search begins
at most three grids above the first digit. -/
def shortest (b : Binary) : Decimal :=
  if b.significand = 0 then ⟨0, 0⟩
  else
    let log := (b.significand.log2 : Int) + b.exponent
    refine b 24 (log * 30103 / 100000 + 2)

end Binary

namespace Decimal

/-- The decimal digits, first digit first. -/
def text (d : Decimal) : Text := Text.ofNat d.digits

/-- The place of the decimal point, counted in digits from before the first one. -/
def point (d : Decimal) : Int := d.text.length + d.exponent

/-- The digits with zeros up to the decimal point, and the digits after the point. -/
def positional (d : Decimal) : Text × Text :=
  let digits := d.text
  let point := d.point
  if point ≤ 0 then (['0'], List.replicate (-point).toNat '0' ++ digits)
  else if digits.length ≤ point.toNat then
    (digits ++ List.replicate (point.toNat - digits.length) '0', [])
  else (digits.take point.toNat, digits.drop point.toNat)

/-- Positional notation, with a point only where digits follow it. -/
def plain (d : Decimal) : Text :=
  match d.positional with
  | (whole, []) => whole
  | (whole, fraction) => whole ++ '.' :: fraction

/-- Positional notation with at least one digit after the point. -/
def pointed (d : Decimal) : Text :=
  match d.positional with
  | (whole, []) => whole ++ ['.', '0']
  | (whole, fraction) => whole ++ '.' :: fraction

/-- Exponent notation with one digit before the point and the sign of the exponent always
written. -/
def scientific (d : Decimal) : Text :=
  let mantissa := match d.text with
    | [] => []
    | [c] => [c]
    | c :: cs => c :: '.' :: cs
  let e := d.point - 1
  mantissa ++ 'e' :: (if 0 ≤ e then ['+'] else ['-']) ++ Text.ofNat e.natAbs

end Decimal

end Extraction
