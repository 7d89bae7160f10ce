/-
Rounding the quotient of two natural numbers to the nearest whole number, a half going to the even neighbour. Binary
products (`Word.square`) and decimal texts (`Decimal.fixed`) are both rounded by this one rule.

- `nearest_le`, `le_nearest`: the result is within half a unit of the quotient.
- `nearest_even`: a result that is half a unit away is even.
-/

namespace BatchEval.Rounding

/-- the whole number nearest to `n / d`; of two equally near ones, the even one -/
def nearest (n d : Nat) : Nat :=
  if 2 * (n % d) < d then n / d
  else if d < 2 * (n % d) then n / d + 1
  else n / d + n / d % 2

/-- the result exceeds the quotient by half a unit at most -/
theorem nearest_le {n d : Nat} (hd : 0 < d) : 2 * (nearest n d * d) ≤ 2 * n + d := by
  have hn := Nat.div_add_mod n d
  have hq : n / d * d = d * (n / d) := Nat.mul_comm _ _
  have h2 : n / d % 2 ≤ 1 := by omega
  have h3 : n / d % 2 * d ≤ 1 * d := Nat.mul_le_mul_right d h2
  have hr := Nat.mod_lt n hd
  unfold nearest
  split
  · omega
  · split <;> rw [Nat.add_mul] <;> omega

/-- the result falls short of the quotient by half a unit at most -/
theorem le_nearest {n d : Nat} (hd : 0 < d) : 2 * n ≤ 2 * (nearest n d * d) + d := by
  have hn := Nat.div_add_mod n d
  have hq : n / d * d = d * (n / d) := Nat.mul_comm _ _
  have hr := Nat.mod_lt n hd
  unfold nearest
  split
  · omega
  · split <;> rw [Nat.add_mul] <;> omega

/-- a result that is half a unit away from the quotient is even -/
theorem nearest_even {n d : Nat} (hd : 0 < d)
    (htie : 2 * (nearest n d * d) = 2 * n + d ∨ 2 * n = 2 * (nearest n d * d) + d) : nearest n d % 2 = 0 := by
  have hn := Nat.div_add_mod n d
  have hq : n / d * d = d * (n / d) := Nat.mul_comm _ _
  have hr := Nat.mod_lt n hd
  unfold nearest at htie ⊢
  split at htie
  · omega
  · split at htie
    · rw [Nat.add_mul] at htie
      omega
    · rw [if_neg (by assumption), if_neg (by assumption)]
      omega

end BatchEval.Rounding
