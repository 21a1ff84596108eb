import Loopback.Number.Rounding

/-!
# Binary floating point of 64 bits, exactly

Every finite value of the format is a whole number of units of 2⁻¹⁰⁷⁴. A magnitude is that
number of units, so values are compared and divided as natural numbers, and every operation is
the exact result rounded once: to 53 significant bits, and to whole units, half to even.
-/

namespace Loopback.Number

/-- How many units of 2⁻¹⁰⁷⁴ make one. -/
def unitsPerOne : Nat := Nat.pow 2 1074

/-- The bits of a significand. -/
def significandBits : Nat := 53

/-- The magnitude, in units, nearest to `num / den`, were the exponent unbounded above. -/
def nearestUnits (num den : Nat) : Nat :=
  let exact := num * unitsPerOne
  let spacing := Nat.pow 2 ((exact / den).log2 + 1 - significandBits)
  halfEven exact (den * spacing) * spacing

/-- The least magnitude, in units, that is too large for the format. -/
def unitsLimit : Nat := Nat.pow 2 (1074 + 1024)

/-- A value of the format. Zero keeps its sign; only one value is not a number. -/
inductive Binary64 where
  | finite (negative : Bool) (units : Nat)
  | infinite (negative : Bool)
  | nan
deriving DecidableEq, Repr

/-- The value nearest to `num / den`, with a sign; one that is too large becomes infinite. -/
def Binary64.ofQuotient (negative : Bool) (num den : Nat) : Binary64 :=
  let units := nearestUnits num den
  if units < unitsLimit then .finite negative units else .infinite negative

/-- The value nearest to `digits · 10 ^ exponent`. Exponents far outside the format are settled
without writing the number out. -/
def Binary64.ofDecimal (negative : Bool) (digits : Nat) (exponent : Int) : Binary64 :=
  if digits = 0 then .finite negative 0
  else if exponent > 400 then .infinite negative
  else if exponent + digits.log2 < -400 then .finite negative 0
  else if 0 ≤ exponent then .ofQuotient negative (digits * Nat.pow 10 exponent.toNat) 1
  else .ofQuotient negative digits (Nat.pow 10 (-exponent).toNat)

end Loopback.Number
