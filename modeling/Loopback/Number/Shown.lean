import Loopback.Number.Shortest
import Loopback.Text.Numeral

/-!
# Decimal text of floating-point values

Two ways to write the shortest decimal of a value. The plain one writes all its places. The
brief one leaves positional notation where the number would have more than sixteen places
before its point, or more than four zeros after it. Both write a whole number with `.0`.
-/

namespace Loopback.Number

/-- The places of a decimal before and after its point; at least one on either side. -/
def Decimal.places (d : Decimal) : List Char × List Char :=
  let digits := Nat.toDigits 10 d.digits
  if 0 ≤ d.exponent then (digits ++ List.replicate d.exponent.toNat '0', ['0'])
  else
    let after := (-d.exponent).toNat
    if after < digits.length then
      (digits.take (digits.length - after), digits.drop (digits.length - after))
    else (['0'], List.replicate (after - digits.length) '0' ++ digits)

/-- A decimal with all its places. -/
def Decimal.positional (d : Decimal) : String :=
  let (before, after) := d.places
  String.ofList (before ++ '.' :: after)

/-- A decimal with one place before its point, if it has more than one, and an exponent. -/
def Decimal.scientific (d : Decimal) : String :=
  let digits := Nat.toDigits 10 d.digits
  let exponent := d.exponent + digits.length - 1
  let mark := if exponent < 0 then "e-" else "e"
  let front := match digits with
    | first :: second :: rest => first :: '.' :: second :: rest
    | few => few
  String.ofList front ++ mark ++ Text.decimal exponent.natAbs

/-- A decimal in the shorter of the two notations. -/
def Decimal.brief (d : Decimal) : String :=
  let point := d.exponent + (Nat.toDigits 10 d.digits).length
  if -5 < point ∧ point ≤ 16 then d.positional else d.scientific

/-- A sign and what follows it. -/
def signed (negative : Bool) (text : String) : String :=
  if negative then "-" ++ text else text

namespace Binary64

/-- A value written with a way of writing its magnitude. -/
def shownBy (write : Decimal → String) : Binary64 → String
  | .finite negative units => signed negative (write (shortestDecimal units))
  | .infinite negative => signed negative "inf"
  | .nan => "NaN"

/-- A value with all its places. -/
def plain (value : Binary64) : String := value.shownBy Decimal.positional

/-- A value in the shorter notation. -/
def brief (value : Binary64) : String := value.shownBy Decimal.brief

end Binary64

end Loopback.Number
