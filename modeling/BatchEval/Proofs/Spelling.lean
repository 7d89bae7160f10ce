/-
Texts that stand for a value: numbers and names of accelerators. What a text has to look like is told without the readers,
and each reader accepts exactly that.

- `Text.Numeral`, `Text.Natural.read_eq_ok_iff`: decimal digits, with at most one plus sign before them.
- `Accelerator.Named`, `Accelerator.parse_eq_ok_iff`, `Accelerator.parse_eq_error_iff`: the names, and the texts that are
  given back unread.
-/
import BatchEval.Accelerator
import BatchEval.Text.Natural

namespace BatchEval

/-! ## Numbers -/

namespace Text

/-- the text writes a number below the limit: at least one decimal digit, and at most one plus sign before the digits -/
def Numeral (limit : Nat) (text : String) (n : Nat) : Prop :=
  ∃ digits, digits ≠ [] ∧ (text.toList = digits ∨ text.toList = '+' :: digits) ∧ (∀ c ∈ digits, c.isDigit = true) ∧
    Nat.ofDigitChars 10 digits 0 = n ∧ n < limit

variable {limit value n : Nat} {text : String} {cs : List Char}

/-- more digits make a number no smaller -/
theorem le_ofDigitChars (value : Nat) (cs : List Char) : value ≤ Nat.ofDigitChars 10 cs value := by
  rw [Nat.ofDigitChars_eq_ofDigitChars_zero]
  have hpow : value ≤ 10 ^ cs.length * value := Nat.le_mul_of_pos_left value (Nat.pow_pos (by decide))
  omega

/-- a number that reaches the limit before its last digit reaches it at its last digit too -/
theorem Natural.readDigits_eq_ok_iff (hv : value < limit) : readDigits limit value cs = .ok n ↔
    (∀ c ∈ cs, c.isDigit = true) ∧ Nat.ofDigitChars 10 cs value = n ∧ n < limit := by
  induction cs generalizing value with
  | nil =>
    simp only [readDigits, Except.ok.injEq, List.not_mem_nil, false_implies, implies_true, true_and,
      Nat.ofDigitChars_nil]
    constructor
    · rintro rfl
      exact ⟨rfl, hv⟩
    · rintro ⟨hn, -⟩
      exact hn
  | cons c rest ih =>
    simp only [readDigits, List.forall_mem_cons, Nat.ofDigitChars_cons]
    by_cases hc : c.isDigit = true
    · by_cases hnext : 10 * value + (c.toNat - '0'.toNat) < limit
      · simp only [hc, hnext, if_true, true_and]
        exact ih hnext
      · have hle := le_ofDigitChars (10 * value + (c.toNat - '0'.toNat)) rest
        simp only [hc, hnext, if_true, if_false, true_and, reduceCtorEq, false_iff]
        rintro ⟨-, hn, hlt⟩
        omega
    · simp [hc]

/-- a number is read exactly from the texts that write it -/
theorem Natural.read_eq_ok_iff (hlimit : 0 < limit) : read limit text = .ok n ↔ Numeral limit text n := by
  have hplus : '+'.isDigit = false := by decide
  unfold read Numeral
  split
  · rename_i hnil
    refine ⟨nofun, ?_⟩
    rintro ⟨digits, hne, hdigits | hdigits, -⟩
    · exact absurd (hdigits.symm.trans hnil) hne
    · rw [hnil] at hdigits
      cases hdigits
  · rename_i hlone
    refine ⟨nofun, ?_⟩
    rintro ⟨digits, hne, hdigits | hdigits, hall, -⟩
    · rw [hlone] at hdigits
      subst hdigits
      simp [hplus] at hall
    · rw [hlone] at hdigits
      simp_all
  · rename_i digits hne hsigned
    rw [readDigits_eq_ok_iff hlimit]
    constructor
    · rintro ⟨hall, hn⟩
      exact ⟨digits, hne, .inr hsigned, hall, hn⟩
    · rintro ⟨other, -, hother | hother, hall, hn⟩
      · rw [hsigned] at hother
        subst hother
        simp [hplus] at hall
      · rw [hsigned] at hother
        cases hother
        exact ⟨hall, hn⟩
  · rename_i hempty hlone hsigned
    rw [readDigits_eq_ok_iff hlimit]
    constructor
    · rintro ⟨hall, hn⟩
      exact ⟨text.toList, hempty, .inl rfl, hall, hn⟩
    · rintro ⟨digits, hne, rfl | hother, hall, hn⟩
      · exact ⟨hall, hn⟩
      · exact absurd hother (hsigned digits)

end Text

/-! ## Accelerators -/

namespace Accelerator

/-- the text names the accelerator: without the blanks at its ends and with its ASCII letters small it is one of five -/
def Named (text : String) (x : Accelerator) : Prop :=
  (normalized text, x) ∈ [("cpu", cpu), ("gpu", gpu), ("cuda", gpu), ("webgl", gpu), ("auto", auto)]

variable {text : String} {x : Accelerator} {e : UnknownAccelerator}

theorem parse_cases (text : String) : (∃ x, parse text = .ok x ∧ ∀ y, Named text y ↔ y = x) ∨
    (parse text = .error ⟨text⟩ ∧ ∀ y, ¬Named text y) := by
  unfold parse Named
  split
  · rename_i h
    exact .inl ⟨_, rfl, by simp [h]⟩
  · rename_i h
    exact .inl ⟨_, rfl, by simp [h]⟩
  · rename_i h
    exact .inl ⟨_, rfl, by simp [h]⟩
  · rename_i h
    exact .inl ⟨_, rfl, by simp [h]⟩
  · rename_i h
    exact .inl ⟨_, rfl, by simp [h]⟩
  · rename_i hcpu hgpu hcuda hwebgl hauto
    exact .inr ⟨rfl, by simp_all⟩

/-- exactly the texts that name an accelerator are read -/
theorem parse_eq_ok_iff : parse text = .ok x ↔ Named text x := by
  rcases parse_cases text with ⟨y, hy, hnamed⟩ | ⟨herror, hnone⟩
  · rw [hy, hnamed, Except.ok.injEq, eq_comm]
  · rw [herror]
    exact ⟨nofun, fun hx => absurd hx (hnone x)⟩

/-- any other text is given back as it is -/
theorem parse_eq_error_iff : parse text = .error e ↔ (∀ x, ¬Named text x) ∧ e = ⟨text⟩ := by
  rcases parse_cases text with ⟨y, hy, hnamed⟩ | ⟨herror, hnone⟩
  · rw [hy]
    exact ⟨nofun, fun ⟨hnone, _⟩ => absurd ((hnamed y).2 rfl) (hnone y)⟩
  · rw [herror, Except.error.injEq, eq_comm]
    exact ⟨fun he => ⟨hnone, he⟩, fun ⟨_, he⟩ => he⟩

end Accelerator

end BatchEval
