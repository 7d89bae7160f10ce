/-
A binary32 number held as its 32 bits. Numbers pass through this library bit for bit, so a word is compared, copied and
tested as bits; the one operation that computes is the square, which is exact and then rounded once.

- `ofScaled`: the word nearest to `m * 2 ^ q`, ties to even, with gradual underflow and overflow to infinity.
- `square`: the product of a word with itself.
- `same`: equality of numbers, where NaN differs from itself and both zeros are equal.
-/
import BatchEval.Rounding

namespace BatchEval

/-- a binary32 number, by its bits -/
structure Word where
  bits : UInt32
deriving DecidableEq, Inhabited

namespace Word

/-! ## Fields of the encoding -/

/-- positive zero -/
def zero : Word := ⟨0⟩

/-- positive one -/
def one : Word := ⟨0x3f800000⟩

/-- positive infinity -/
def infinity : Word := ⟨0x7f800000⟩

/-- the biased exponent, from 0 to 255 -/
def exponent (w : Word) : Nat := w.bits.toNat / 0x800000 % 256

/-- the 23 low bits -/
def fraction (w : Word) : Nat := w.bits.toNat % 0x800000

/-- no number at all -/
def isNaN (w : Word) : Bool := w.exponent == 255 && w.fraction != 0

/-- either zero -/
def isZero (w : Word) : Bool := w.exponent == 0 && w.fraction == 0

/-- equality of numbers: NaN equals nothing, and both zeros are equal -/
def same (a b : Word) : Bool :=
  !a.isNaN && !b.isNaN && (a == b || a.isZero && b.isZero)

/-! ## Exact values -/

/-- the whole number `m` of a finite magnitude `m * 2 ^ q` -/
def significand (w : Word) : Nat := if w.exponent = 0 then w.fraction else 0x800000 + w.fraction

/-- the power `q` of a finite magnitude `m * 2 ^ q` -/
def scale (w : Word) : Int := if w.exponent = 0 then -149 else (w.exponent : Int) - 150

/-- the exponent of the last place kept when `m * 2 ^ q` is rounded to 24 bits, never below the smallest subnormal -/
def lastPlace (m : Nat) (q : Int) : Int := max (q + (Nat.log2 m + 1) - 24) (-149)

/-- the positive word nearest to `m * 2 ^ q`, ties to even; values too large become infinity -/
def ofScaled (m : Nat) (q : Int) : Word :=
  let place := lastPlace m q
  let kept := if place ≤ q then m <<< (q - place).toNat else Rounding.nearest m (1 <<< (place - q).toNat)
  let code := (place + 149).toNat * 0x800000 + kept
  if m = 0 then zero else if code < infinity.bits.toNat then ⟨UInt32.ofNat code⟩ else infinity

/-- the square, rounded once to nearest even; the square of a NaN is a quiet NaN -/
def square (w : Word) : Word :=
  if w.isNaN then ⟨w.bits ||| 0x400000⟩
  else if w.exponent = 255 then infinity
  else ofScaled (w.significand * w.significand) (2 * w.scale)

end Word

end BatchEval
