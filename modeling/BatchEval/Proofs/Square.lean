/-
The square of a number is rounded correctly. A finite word stands for a rational number, and of all finite words the
square of a word is the one nearest to the exact square; of two equally near ones it is the even one. Squares from
(2^25 - 1) * 2^103 on, which is half a last place above the largest finite word, are infinity.

- `Rounding.Rounds`, `Rounding.nearest_rounds`: a whole number within half a unit, even if it is half a unit away.
- `Word.value`, `Word.Nearest`: the number that a word stands for, and the word nearest to a number.
- `Word.eq_or_far`, `Word.nearest_of_rounds`: in last places every word is a whole number, or half a unit away at least.
- `Word.magnitude_code`, `Word.code_lt_iff`: the number that the rounded bits stand for, and when they are too large.
- `Word.ofScaled_nearest`, `Word.square_nearest`: the rounding of any `m * 2 ^ q`, and of a square.
- `Prediction.DecodedAt.meanSq_nearest`: the mean of squares that a decoded batch has where the model gives none.
-/
import Mathlib.Algebra.Order.Field.Power
import Mathlib.Algebra.Order.Ring.Rat
import Mathlib.Data.Nat.Cast.Order.Field
import Mathlib.Tactic.Linarith
import Mathlib.Tactic.NormNum
import Mathlib.Tactic.Positivity
import Mathlib.Tactic.Ring
import BatchEval.Proofs.Layout

namespace BatchEval

/-! ## Rounding to whole numbers -/

namespace Rounding

/-- the whole number is within half a unit of `y`, and even if it is half a unit away -/
structure Rounds (y : ℚ) (k : ℕ) : Prop where
  near : |k - y| ≤ 1 / 2
  even : |k - y| = 1 / 2 → k % 2 = 0

namespace Rounds

variable {y u : ℚ} {k : ℕ}

/-- no other whole number is nearer than half a unit -/
theorem eq_or_far (h : Rounds y k) (j : ℕ) : (j : ℚ) = k ∨ 1 / 2 ≤ |j - y| := by
  rcases eq_or_ne j k with rfl | hne
  · exact .inl rfl
  · right
    have hunit : (1 : ℚ) ≤ |(j : ℚ) - k| := by
      have hint : (1 : ℤ) ≤ |(j : ℤ) - k| := Int.one_le_abs (by omega)
      exact_mod_cast hint
    have htriangle : |(j : ℚ) - k| ≤ |j - y| + |k - y| := by
      rw [abs_sub_comm (k : ℚ) y]
      exact abs_sub_le _ _ _
    have hnear := h.near
    linarith

/-- among numbers that are half a unit away the rounded one is closest, and even if another one is as close -/
theorem closest (h : Rounds y k) (hu : u = k ∨ 1 / 2 ≤ |u - y|) :
    |k - y| ≤ |u - y| ∧ (|u - y| = |k - y| → u = k ∨ k % 2 = 0) := by
  rcases hu with rfl | hfar
  · exact ⟨le_rfl, fun _ => .inl rfl⟩
  · refine ⟨h.near.trans hfar, fun htie => .inr (h.even ?_)⟩
    exact le_antisymm h.near (htie ▸ hfar)

/-- an even number is reached from half a unit below it on, as the tie goes to it -/
theorem lt_iff (h : Rounds y k) {bound : ℕ} (heven : bound % 2 = 0) : k < bound ↔ y < bound - 1 / 2 := by
  obtain ⟨hlow, hhigh⟩ := abs_le.1 h.near
  constructor
  · intro hk
    have hcast : (k : ℚ) + 1 ≤ bound := by exact_mod_cast hk
    refine lt_of_le_of_ne (by linarith) fun hy => ?_
    have hnext : (k : ℚ) + 1 = bound := by linarith
    have hsucc : k + 1 = bound := by exact_mod_cast hnext
    have htie : (k : ℚ) - y = -(1 / 2) := by linarith
    have hparity := h.even (by rw [htie]; norm_num)
    omega
  · intro hy
    have hcast : (k : ℚ) < bound := by linarith
    exact_mod_cast hcast

theorem natCast (k : ℕ) : Rounds k k := by
  constructor
  · rw [sub_self, abs_zero]
    norm_num
  · rw [sub_self, abs_zero]
    norm_num

end Rounds

/-- a quotient is rounded to a nearest whole number -/
theorem nearest_rounds (n : ℕ) {d : ℕ} (hd : 0 < d) : Rounds (n / d : ℚ) (nearest n d) := by
  have hd' : (0 : ℚ) < d := by exact_mod_cast hd
  have hle : 2 * ((nearest n d : ℚ) * d) ≤ 2 * n + d := by exact_mod_cast nearest_le hd
  have hge : 2 * (n : ℚ) ≤ 2 * (nearest n d * d) + d := by exact_mod_cast le_nearest hd
  have hgap : ((nearest n d : ℚ) - n / d) * d = nearest n d * d - n := by
    rw [sub_mul, div_mul_cancel₀ _ hd'.ne']
  constructor
  · rw [abs_le]
    constructor
    · refine le_of_mul_le_mul_right ?_ hd'
      rw [hgap]
      linarith
    · refine le_of_mul_le_mul_right ?_ hd'
      rw [hgap]
      linarith
  · intro htie
    apply nearest_even hd
    rcases (abs_eq (by norm_num)).1 htie with hup | hdown
    · left
      rw [hup] at hgap
      have habove : 2 * ((nearest n d : ℚ) * d) = 2 * n + d := by linarith
      exact_mod_cast habove
    · right
      rw [hdown] at hgap
      have hbelow : 2 * (n : ℚ) = 2 * (nearest n d * d) + d := by linarith
      exact_mod_cast hbelow

end Rounding

/-! ## The numbers of words -/

namespace Word

/-- neither infinite nor NaN -/
def Finite (w : Word) : Prop := w.exponent ≠ 255

instance (w : Word) : Decidable w.Finite := inferInstanceAs (Decidable (w.exponent ≠ 255))

/-- whether the sign is set -/
def negative (w : Word) : Bool := decide (0x80000000 ≤ w.bits.toNat)

/-- the size of the number that a finite word stands for -/
def magnitude (w : Word) : ℚ := w.significand * 2 ^ w.scale

/-- the number that a finite word stands for -/
def value (w : Word) : ℚ := if w.negative then -w.magnitude else w.magnitude

/-- the finite word is nearest to `x`, and even if another number is as near -/
structure Nearest (x : ℚ) (w : Word) : Prop where
  finite : w.Finite
  nearest : ∀ v : Word, v.Finite → |w.value - x| ≤ |v.value - x|
  even : ∀ v : Word, v.Finite → |v.value - x| = |w.value - x| → v.value = w.value ∨ w.fraction % 2 = 0

variable {v w : Word} {m k : ℕ} {p q : ℤ} {x y : ℚ}

theorem Finite.isNaN_eq (hw : w.Finite) : w.isNaN = false := by
  rw [isNaN, beq_eq_false_iff_ne.2 hw, Bool.false_and]

/-! ### Powers of two -/

theorem mul_zpow_div (a : ℚ) (q p : ℤ) : a * 2 ^ q / 2 ^ p = a * 2 ^ (q - p) := by
  rw [mul_div_assoc, ← zpow_sub₀ two_ne_zero]

theorem mul_zpow_natCast (n : ℕ) (hq : 0 ≤ q) : (n : ℚ) * 2 ^ q = ((n * 2 ^ q.toNat : ℕ) : ℚ) := by
  rw [Nat.cast_mul, Nat.cast_pow, Nat.cast_ofNat, ← zpow_natCast, Int.toNat_of_nonneg hq]

/-- a distance, measured in units of a power of two -/
theorem abs_sub_eq_mul (a b : ℚ) (p : ℤ) : |a - b| = |a / 2 ^ p - b / 2 ^ p| * 2 ^ p := by
  have hp : (0 : ℚ) < 2 ^ p := by positivity
  rw [← sub_div, abs_div, abs_of_pos hp, div_mul_cancel₀ _ hp.ne']

/-! ### Bounds -/

theorem significand_lt (w : Word) : w.significand < 2 ^ 24 := by
  have hfraction : w.fraction < 0x800000 := Nat.mod_lt _ (by decide)
  unfold significand
  split <;> omega

theorem le_scale (w : Word) : -149 ≤ w.scale := by
  unfold scale
  split <;> omega

theorem magnitude_nonneg (w : Word) : 0 ≤ w.magnitude := by
  unfold magnitude
  positivity

theorem value_sq (w : Word) : w.value ^ 2 = w.magnitude ^ 2 := by
  unfold value
  split
  · exact neg_sq _
  · rfl

/-- a sign takes a number away from what is positive -/
theorem abs_magnitude_le (v : Word) (hx : 0 ≤ x) : |v.magnitude - x| ≤ |v.value - x| := by
  have hnonneg := v.magnitude_nonneg
  unfold value
  split
  · rw [abs_le, abs_of_nonpos (by linarith : -v.magnitude - x ≤ 0)]
    constructor <;> linarith
  · exact le_rfl

/-- only zero is as far from a positive number on both of its sides -/
theorem value_eq_magnitude (v : Word) (hx : 0 < x) (htie : |v.value - x| = |v.magnitude - x|) :
    v.value = v.magnitude := by
  have hnonneg := v.magnitude_nonneg
  unfold value at htie ⊢
  split at htie
  · rw [if_pos (by assumption)]
    rw [abs_of_nonpos (by linarith : -v.magnitude - x ≤ 0)] at htie
    rcases abs_cases (v.magnitude - x) with ⟨habs, -⟩ | ⟨habs, -⟩ <;> linarith
  · rw [if_neg (by assumption)]

/-! ## Candidates -/

/-- measured in last places a finite word is a whole number, or too small to be near to a number that fills its places -/
theorem eq_or_far (v : Word) (hy : Rounding.Rounds y k) (hfull : -149 < p → 2 ^ 23 ≤ y) :
    v.magnitude / 2 ^ p = k ∨ 1 / 2 ≤ |v.magnitude / 2 ^ p - y| := by
  rw [magnitude, mul_zpow_div]
  rcases le_or_gt p v.scale with hle | hlt
  · rw [mul_zpow_natCast v.significand (by omega)]
    exact hy.eq_or_far _
  · right
    have hplace : 2 ^ 23 ≤ y := hfull (lt_of_le_of_lt v.le_scale hlt)
    have hsignificand : (v.significand : ℚ) + 1 ≤ 2 ^ 24 := by exact_mod_cast v.significand_lt
    have hscale : (2 : ℚ) ^ (v.scale - p) ≤ 2 ^ (-1 : ℤ) := zpow_le_zpow_right₀ one_le_two (by omega)
    have hsmall : (v.significand : ℚ) * 2 ^ (v.scale - p) ≤ (2 ^ 24 - 1) * 2 ^ (-1 : ℤ) :=
      mul_le_mul (by linarith) hscale (by positivity) (by norm_num)
    rw [abs_sub_comm]
    refine le_trans ?_ (le_abs_self _)
    norm_num at hsmall hplace ⊢
    linarith

/-- a word that counts the rounded number of last places is nearest -/
theorem nearest_of_rounds (hx : 0 < x) (hy : Rounding.Rounds (x / 2 ^ p) k) (hfull : -149 < p → 2 ^ 23 ≤ x / 2 ^ p)
    (hfin : w.Finite) (hsign : w.negative = false) (hw : w.magnitude = k * 2 ^ p) (hparity : w.fraction % 2 = k % 2) :
    w.Nearest x := by
  have hp : (0 : ℚ) < 2 ^ p := by positivity
  have hvalue : w.value = w.magnitude := by rw [value, hsign]; rfl
  have hplaces : w.magnitude / 2 ^ p = k := by rw [hw, mul_div_cancel_right₀ _ hp.ne']
  have hclosest : ∀ v : Word, |w.magnitude - x| ≤ |v.magnitude - x| ∧
      (|v.magnitude - x| = |w.magnitude - x| → v.magnitude = w.magnitude ∨ k % 2 = 0) := by
    intro v
    obtain ⟨hle, htie⟩ := hy.closest (eq_or_far v hy hfull)
    rw [abs_sub_eq_mul w.magnitude x p, abs_sub_eq_mul v.magnitude x p, hplaces]
    refine ⟨mul_le_mul_of_nonneg_right hle hp.le, fun heq => ?_⟩
    rcases htie (mul_right_cancel₀ hp.ne' heq) with hsame | heven
    · left
      rw [hw, ← hsame, div_mul_cancel₀ _ hp.ne']
    · exact .inr heven
  refine ⟨hfin, fun v _ => ?_, fun v _ htie => ?_⟩
  · rw [hvalue]
    exact (hclosest v).1.trans (v.abs_magnitude_le hx.le)
  · rw [hvalue] at htie ⊢
    have hsame : |v.magnitude - x| = |w.magnitude - x| :=
      le_antisymm (htie ▸ v.abs_magnitude_le hx.le) (hclosest v).1
    rcases (hclosest v).2 hsame with hmagnitude | heven
    · exact .inl ((v.value_eq_magnitude hx (htie.trans hsame.symm)).trans hmagnitude)
    · exact .inr (hparity.trans heven)

/-! ## Rounding -/

/-- the whole number of last places that is kept of `m * 2 ^ q` -/
def kept (m : ℕ) (q : ℤ) : ℕ :=
  if lastPlace m q ≤ q then m <<< (q - lastPlace m q).toNat
  else Rounding.nearest m (1 <<< (lastPlace m q - q).toNat)

/-- the bits of the rounded number, before they are found to be too large -/
def code (m : ℕ) (q : ℤ) : ℕ := (lastPlace m q + 149).toNat * 0x800000 + kept m q

theorem ofScaled_eq (hm : m ≠ 0) :
    ofScaled m q = if code m q < infinity.bits.toNat then ⟨UInt32.ofNat (code m q)⟩ else infinity := by
  unfold ofScaled
  rw [if_neg hm]
  rfl

theorem kept_rounds (m : ℕ) (q : ℤ) : Rounding.Rounds (m * 2 ^ q / 2 ^ lastPlace m q) (kept m q) := by
  rw [mul_zpow_div]
  unfold kept
  split
  · rw [mul_zpow_natCast m (by omega), Nat.shiftLeft_eq]
    exact .natCast _
  · have hquotient : (m : ℚ) * (2 : ℚ) ^ (q - lastPlace m q) = m / ((2 ^ (lastPlace m q - q).toNat : ℕ) : ℚ) := by
      rw [Nat.cast_pow, Nat.cast_ofNat, ← zpow_natCast, Int.toNat_of_nonneg (by omega), div_eq_mul_inv, ← zpow_neg,
        neg_sub]
    rw [hquotient, Nat.shiftLeft_eq, one_mul]
    exact Rounding.nearest_rounds m (Nat.two_pow_pos _)

/-- what is rounded has 24 bits before the last place at most -/
theorem places_lt (m : ℕ) (q : ℤ) : (m : ℚ) * 2 ^ q / 2 ^ lastPlace m q < 2 ^ 24 := by
  have hm : (m : ℚ) < 2 ^ (Nat.log2 m + 1) := by exact_mod_cast Nat.lt_log2_self
  have hexp : q - lastPlace m q ≤ 24 - ((Nat.log2 m + 1 : ℕ) : ℤ) := by
    unfold lastPlace
    omega
  rw [mul_zpow_div]
  calc
    (m : ℚ) * 2 ^ (q - lastPlace m q) ≤ m * 2 ^ (24 - ((Nat.log2 m + 1 : ℕ) : ℤ)) :=
      mul_le_mul_of_nonneg_left (zpow_le_zpow_right₀ one_le_two hexp) (Nat.cast_nonneg m)
    _ < 2 ^ (Nat.log2 m + 1) * 2 ^ (24 - ((Nat.log2 m + 1 : ℕ) : ℤ)) := mul_lt_mul_of_pos_right hm (by positivity)
    _ = 2 ^ 24 := by
      rw [← zpow_natCast, ← zpow_add₀ two_ne_zero, add_sub_cancel]
      norm_num

/-- and 24 bits exactly unless its last place is the smallest -/
theorem le_places (hm : m ≠ 0) (hplace : -149 < lastPlace m q) : 2 ^ 23 ≤ (m : ℚ) * 2 ^ q / 2 ^ lastPlace m q := by
  have hle : (2 : ℚ) ^ Nat.log2 m ≤ m := by exact_mod_cast Nat.log2_self_le hm
  have hexp : q - lastPlace m q = 23 - (Nat.log2 m : ℤ) := by
    unfold lastPlace at hplace ⊢
    omega
  rw [mul_zpow_div, hexp]
  calc
    (2 : ℚ) ^ 23 = 2 ^ Nat.log2 m * 2 ^ (23 - (Nat.log2 m : ℤ)) := by
      rw [← zpow_natCast 2 (Nat.log2 m), ← zpow_add₀ two_ne_zero, add_sub_cancel]
      norm_num
    _ ≤ m * 2 ^ (23 - (Nat.log2 m : ℤ)) := mul_le_mul_of_nonneg_right hle (by positivity)

/-- the word with these bits counts `k` last places -/
theorem magnitude_code {place : ℕ} (hk : k ≤ 2 ^ 24) (hfull : 0 < place → 2 ^ 23 ≤ k)
    (hcode : place * 0x800000 + k < infinity.bits.toNat) (hw : w = ⟨UInt32.ofNat (place * 0x800000 + k)⟩) :
    w.Finite ∧ w.negative = false ∧ w.magnitude = k * 2 ^ ((place : ℤ) - 149) ∧ w.fraction % 2 = k % 2 := by
  have hinfinity : infinity.bits.toNat = 0x7f800000 := by decide
  rw [hinfinity] at hcode
  have hbits : w.bits.toNat = place * 0x800000 + k := by
    rw [hw]
    exact UInt32.toNat_ofNat_of_lt' (by simp only [UInt32.size]; omega)
  have hexponent : w.exponent = place + k / 0x800000 := by
    unfold exponent
    omega
  have hfraction : w.fraction = k % 0x800000 := by
    unfold fraction
    omega
  refine ⟨?_, ?_, ?_, by omega⟩
  · unfold Finite
    omega
  · exact decide_eq_false (by omega)
  · unfold magnitude significand scale
    rcases Nat.lt_or_ge k 0x800000 with hsubnormal | hnormal
    · obtain rfl : place = 0 := by omega
      have hzero : w.exponent = 0 := by omega
      rw [if_pos hzero, if_pos hzero, hfraction, Nat.mod_eq_of_lt hsubnormal]
      norm_num
    · have hpos : w.exponent ≠ 0 := by omega
      rw [if_neg hpos, if_neg hpos]
      rcases Nat.lt_or_eq_of_le hk with hlt | rfl
      · have hexact : (w.exponent : ℤ) - 150 = place - 149 := by omega
        rw [hexact, show 0x800000 + w.fraction = k by omega]
      · -- the last place moves up by one
        have hexact : (w.exponent : ℤ) - 150 = place - 149 + 1 := by omega
        rw [hexact, show 0x800000 + w.fraction = 2 ^ 23 by omega, zpow_add_one₀ two_ne_zero]
        norm_num
        ring

theorem kept_le (m : ℕ) (q : ℤ) : kept m q ≤ 2 ^ 24 := by
  have hnear := (abs_le.1 (kept_rounds m q).near).2
  have hlt := places_lt m q
  have hcast : (kept m q : ℚ) < 2 ^ 24 + 1 := by linarith
  exact Nat.lt_succ_iff.1 (by exact_mod_cast hcast)

theorem le_kept (hm : m ≠ 0) (hplace : -149 < lastPlace m q) : 2 ^ 23 ≤ kept m q := by
  have hnear := (abs_le.1 (kept_rounds m q).near).1
  have hle := le_places hm hplace
  have hcast : (2 ^ 23 : ℚ) < kept m q + 1 := by linarith
  exact Nat.lt_succ_iff.1 (by exact_mod_cast hcast)

/-- the bits are too large from half a last place above the largest finite word on -/
theorem code_lt_iff (hm : m ≠ 0) :
    code m q < infinity.bits.toNat ↔ (m : ℚ) * 2 ^ q < (2 ^ 25 - 1) * 2 ^ 103 := by
  have hinfinity : infinity.bits.toNat = 0x7f800000 := by decide
  have hp : (0 : ℚ) < 2 ^ lastPlace m q := by positivity
  have hx : (m : ℚ) * 2 ^ q = m * 2 ^ q / 2 ^ lastPlace m q * 2 ^ lastPlace m q := (div_mul_cancel₀ _ hp.ne').symm
  have hrounds := kept_rounds m q
  have hlt := places_lt m q
  have hle := kept_le m q
  rw [hinfinity, code]
  generalize hy : (m : ℚ) * 2 ^ q / 2 ^ lastPlace m q = y at *
  rw [hx]
  rcases lt_trichotomy (lastPlace m q) 104 with hsmall | hlast | hlarge
  · have hpower : (2 : ℚ) ^ lastPlace m q ≤ 2 ^ (103 : ℤ) := zpow_le_zpow_right₀ one_le_two (by omega)
    refine iff_of_true (by omega) ?_
    calc
      y * 2 ^ lastPlace m q < 2 ^ 24 * 2 ^ lastPlace m q := mul_lt_mul_of_pos_right hlt hp
      _ ≤ 2 ^ 24 * 2 ^ (103 : ℤ) := mul_le_mul_of_nonneg_left hpower (by norm_num)
      _ < (2 ^ 25 - 1) * 2 ^ 103 := by norm_num
  · have hcode : (lastPlace m q + 149).toNat * 0x800000 + kept m q < 0x7f800000 ↔ kept m q < 2 ^ 24 := by
      rw [hlast]
      omega
    have hthreshold : ((2 : ℚ) ^ 25 - 1) * 2 ^ 103 = (2 ^ 24 - 1 / 2) * 2 ^ lastPlace m q := by
      rw [hlast]
      norm_num
    rw [hcode, hthreshold, mul_lt_mul_iff_left₀ hp, hrounds.lt_iff (by decide)]
    norm_num
  · have hkept := le_kept hm (q := q) (by omega)
    have hfull := le_places hm (q := q) (by omega)
    rw [hy] at hfull
    have hpower : (2 : ℚ) ^ (105 : ℤ) ≤ 2 ^ lastPlace m q := zpow_le_zpow_right₀ one_le_two (by omega)
    refine iff_of_false (by omega) (not_lt.2 ?_)
    calc
      ((2 : ℚ) ^ 25 - 1) * 2 ^ 103 ≤ 2 ^ 23 * 2 ^ (105 : ℤ) := by norm_num
      _ ≤ y * 2 ^ lastPlace m q := mul_le_mul hfull hpower (by positivity) (by linarith)

theorem zero_nearest : zero.Nearest 0 := by
  have hvalue : zero.value = 0 := by
    unfold value magnitude
    rw [show zero.significand = 0 by decide]
    simp
  refine ⟨by decide, fun v _ => ?_, fun v _ htie => .inl ?_⟩
  · rw [hvalue, sub_zero, abs_zero]
    exact abs_nonneg _
  · rw [hvalue, sub_zero, sub_zero, abs_zero] at htie
    rw [hvalue, abs_eq_zero.1 htie]

/-- a number is rounded to the nearest word, and to infinity from half a last place above the largest finite word on -/
theorem ofScaled_nearest (m : ℕ) (q : ℤ) :
    if (2 ^ 25 - 1) * 2 ^ 103 ≤ (m : ℚ) * 2 ^ q then ofScaled m q = infinity
    else (ofScaled m q).negative = false ∧ (ofScaled m q).Nearest (m * 2 ^ q) := by
  rcases eq_or_ne m 0 with rfl | hm
  · have hx : ((0 : ℕ) : ℚ) * 2 ^ q = 0 := by rw [Nat.cast_zero, zero_mul]
    rw [hx, if_neg (by norm_num)]
    exact ⟨rfl, zero_nearest⟩
  · rw [ofScaled_eq hm]
    have hplace : -149 ≤ lastPlace m q := le_max_right _ _
    have hcast : (((lastPlace m q + 149).toNat : ℕ) : ℤ) - 149 = lastPlace m q := by omega
    split
    · rename_i hover
      rw [if_neg fun hlt => absurd ((code_lt_iff hm).1 hlt) (not_lt.2 hover)]
    · rename_i hfits
      have hlt := (code_lt_iff hm).2 (not_le.1 hfits)
      rw [if_pos hlt]
      have hfull : 0 < (lastPlace m q + 149).toNat → 2 ^ 23 ≤ kept m q := fun hpos => le_kept hm (by omega)
      obtain ⟨hfin, hsign, hmagnitude, hparity⟩ := magnitude_code (kept_le m q) hfull hlt rfl
      rw [hcast] at hmagnitude
      refine ⟨hsign, nearest_of_rounds ?_ (kept_rounds m q) (le_places hm) hfin hsign hmagnitude hparity⟩
      have hpos : (0 : ℚ) < m := by exact_mod_cast Nat.pos_of_ne_zero hm
      positivity

/-! ## Squares -/

/-- **A square is rounded once, to the nearest word.** The square of a finite word is the finite word without a sign that
is nearest to the exact square, the even one of two, if the exact square is less than (2^25 - 1) * 2^103; it is infinity
if it is not. -/
theorem square_nearest (hw : w.Finite) :
    if (2 ^ 25 - 1) * 2 ^ 103 ≤ w.value ^ 2 then w.square = infinity
    else w.square.negative = false ∧ w.square.Nearest (w.value ^ 2) := by
  have hnumber : ¬w.isNaN = true := by
    rw [hw.isNaN_eq]
    exact Bool.false_ne_true
  have hsquare : w.square = ofScaled (w.significand * w.significand) (2 * w.scale) := by
    rw [square, if_neg hnumber, if_neg hw]
  have hvalue : w.value ^ 2 = ((w.significand * w.significand : ℕ) : ℚ) * 2 ^ (2 * w.scale) := by
    rw [value_sq, magnitude, mul_pow, Nat.cast_mul, ← pow_two, mul_comm 2 w.scale, zpow_mul]
    norm_cast
  rw [hsquare, hvalue]
  exact ofScaled_nearest _ _

/-- half a last place goes to the even word, and a square of 2^128 is too large -/
example : square ⟨0x3f800800⟩ = ⟨0x3f801000⟩ ∧ square ⟨0x5f800000⟩ = infinity := by decide +kernel

/-- setting the quiet bit leaves the exponent, and the fraction is not zero -/
theorem isNaN_quiet (hw : w.exponent = 255) : (⟨w.bits ||| 0x400000⟩ : Word).isNaN = true := by
  have hbits : (w.bits ||| 0x400000).toNat = w.bits.toNat ||| 0x400000 := UInt32.toNat_or _ _
  have hexponent : (⟨w.bits ||| 0x400000⟩ : Word).exponent = 255 := by
    rw [← hw, exponent, exponent, hbits, show 0x800000 = 2 ^ 23 from rfl, Nat.or_div_two_pow]
    norm_num
  have hfraction : (⟨w.bits ||| 0x400000⟩ : Word).fraction ≠ 0 := by
    rw [fraction, hbits, show 0x800000 = 2 ^ 23 from rfl, Nat.or_mod_two_pow]
    exact fun hzero => absurd (Nat.or_eq_zero_iff.1 hzero).2 (by decide)
  rw [isNaN, hexponent, bne_iff_ne.2 hfraction]
  rfl

/-- a square is a NaN exactly if it is that of a NaN -/
theorem isNaN_square (w : Word) : w.square.isNaN = w.isNaN := by
  by_cases hnan : w.isNaN = true
  · obtain ⟨hexponent, -⟩ : w.exponent = 255 ∧ w.fraction ≠ 0 := by simpa [isNaN] using hnan
    rw [hnan, square, if_pos hnan, isNaN_quiet hexponent]
  · rw [Bool.not_eq_true] at hnan
    rw [hnan]
    by_cases hw : w.Finite
    · have hnearest := square_nearest hw
      split at hnearest
      · rw [hnearest]
        decide
      · exact hnearest.2.finite.isNaN_eq
    · rw [square, if_neg (by simp [hnan]), if_pos (Decidable.not_not.1 hw)]
      decide

end Word

/-! ## Decoded batches -/

namespace Prediction

variable {old new : Prediction} {h : Handle} {raw : RawBatch} {r : Nat}

/-- where a model gives no mean of squares, that of a decoded batch is nearest to the exact square of its mean -/
theorem DecodedAt.meanSq_nearest (hat : old.DecodedAt h raw r new) (hlayout : h.model.layout = .meanOnly)
    (hmean : new.mean.Finite) :
    if (2 ^ 25 - 1) * 2 ^ 103 ≤ new.mean.value ^ 2 then new.meanSq = Word.infinity
    else new.meanSq.negative = false ∧ new.meanSq.Nearest (new.mean.value ^ 2) := by
  have hsq := hat.meanSq
  rw [hlayout] at hsq
  rw [show new.meanSq = new.mean.square from hsq]
  exact Word.square_nearest hmean

end Prediction

end BatchEval
