import Loopback.Number.Binary64

/-!
# The shortest decimal that reads back

The digits of a finite value: the fewest significant digits that no other value of the format
is nearer to, and of the decimals with so many digits the one nearest to the value. Both
neighbours of the value on each decimal grid are tried, coarsest grid first.
-/

namespace Loopback.Number

/-- A decimal `digits · 10 ^ exponent`. -/
structure Decimal where
  digits : Nat
  exponent : Int
deriving DecidableEq, Repr

/-- The reals that round to a magnitude, in quarter units; the ends belong to it exactly when
its significand is even. -/
structure Basin where
  low : Nat
  middle : Nat
  high : Nat
  closed : Bool
deriving DecidableEq, Repr

/-- The basin of a magnitude of at least one unit. Below a power of two values lie twice as close. -/
def basin (units : Nat) : Basin :=
  let shift := units.log2 + 1 - significandBits
  let spacing := Nat.pow 2 shift
  let significand := units / spacing
  let narrow := significand = Nat.pow 2 (significandBits - 1) ∧ shift > 0
  { low := 4 * units - (if narrow then spacing else 2 * spacing)
    middle := 4 * units
    high := 4 * units + 2 * spacing
    closed := significand % 2 = 0 }

/-- Ten to an exponent of either sign, as numerator and denominator. -/
def tenTo (exponent : Int) : Nat × Nat :=
  if 0 ≤ exponent then (Nat.pow 10 exponent.toNat, 1) else (1, Nat.pow 10 (-exponent).toNat)

/-- Whether `digits · 10 ^ exponent` lies in the basin. -/
def Basin.holds (b : Basin) (d : Decimal) : Bool :=
  let (up, down) := tenTo d.exponent
  let point := d.digits * up * (4 * unitsPerOne)
  let low := b.low * down
  let high := b.high * down
  if b.closed then low ≤ point && point ≤ high else low < point && point < high

/-- The distance from the middle, times a factor that depends on the exponent only. -/
def Basin.distance (b : Basin) (d : Decimal) : Nat :=
  let (up, down) := tenTo d.exponent
  let point := d.digits * up * (4 * unitsPerOne)
  let middle := b.middle * down
  (point - middle) + (middle - point)

/-- The point of the grid of `10 ^ exponent` that reads back and is nearest, if one reads back. -/
def Basin.onGrid (b : Basin) (exponent : Int) : Option Decimal :=
  let (up, down) := tenTo exponent
  let below := b.middle * down / (4 * unitsPerOne * up)
  let lower : Decimal := ⟨below, exponent⟩
  let upper : Decimal := ⟨below + 1, exponent⟩
  match b.holds lower, b.holds upper with
  | true, true =>
    let down := b.distance lower
    let up := b.distance upper
    if down < up ∨ (down = up ∧ below % 2 = 0) then some lower else some upper
  | true, false => some lower
  | false, true => some upper
  | false, false => none

/-- The first grid with a point that reads back, going to ever finer ones. -/
def Basin.shortest (b : Basin) : Nat → Int → Decimal
  | 0, exponent => ⟨0, exponent⟩
  | fuel + 1, exponent =>
    match b.onGrid exponent with
    | some d => d
    | none => shortest b fuel (exponent - 1)

/-- The shortest decimal of a magnitude, without zeros at its end. -/
def shortestDecimal (units : Nat) : Decimal :=
  if units = 0 then ⟨0, 0⟩
  else (basin units).shortest 700 309

end Loopback.Number
