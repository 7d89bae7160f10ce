/-
The decimal text of a binary64 number with a fixed number of places. The exact value is rounded once, half to even, and
every digit before the point is written, however large the number; the sign of zero is kept.

- `fixedUnits`: the rounded number of units in the last place.
- `fixed`: the text of a number given by its bits.
-/
import BatchEval.Rounding

namespace BatchEval.Decimal

/-- the digits of a whole number of units `10 ^ -places`, with the point set -/
def point (places units : Nat) : String :=
  let digits := Nat.toDigits 10 units
  let padded := List.replicate (places + 1 - digits.length) '0' ++ digits
  let whole := padded.length - places
  if places = 0 then String.ofList padded
  else String.ofList (padded.take whole ++ '.' :: padded.drop whole)

/-- `m * 2 ^ q` in units of `10 ^ -places`, rounded half to even -/
def fixedUnits (places m : Nat) (q : Int) : Nat :=
  if 0 ≤ q then (m <<< q.toNat) * Nat.pow 10 places
  else Rounding.nearest (m * Nat.pow 10 places) (1 <<< (-q).toNat)

/-- the text of the binary64 number with these bits -/
def fixed (places : Nat) (bits : UInt64) : String :=
  let n : Nat := bits.toNat
  let exponent : Nat := n / 0x10000000000000 % 2048
  let fraction : Nat := n % 0x10000000000000
  let sign := if 0x8000000000000000 ≤ n then "-" else ""
  if exponent = 2047 then
    if fraction = 0 then sign ++ "inf" else "NaN"
  else if exponent = 0 then sign ++ point places (fixedUnits places fraction (-1074))
  else sign ++ point places (fixedUnits places (0x10000000000000 + fraction) ((exponent : Int) - 1075))

end BatchEval.Decimal
