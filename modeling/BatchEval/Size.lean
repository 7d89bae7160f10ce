/-
Sizes are counted in 64 bits. A sum or a product that does not fit is a fault, and so is a buffer of more words than can
be allocated.

- `add_eq_ok_iff`, `mul_eq_ok_iff`, `words_eq_ok_iff`: exactly when a size fits, and what it is.
-/
import BatchEval.Fault

namespace BatchEval.Size

/-- the first number that 64 bits do not hold, 2^64 -/
def limit : Nat := 0x10000000000000000

/-- the largest number of words in one buffer, 2^61 - 1: the largest allocation holds no more -/
def maxWords : Nat := 0x1fffffffffffffff

/-- the largest number of bytes in one allocation, 2^63 - 1 -/
def maxBytes : Nat := 0x7fffffffffffffff

/-- the bytes of one word -/
def wordBytes : Nat := 4

def add (a b : Nat) : Except Fault Nat := if a + b < limit then .ok (a + b) else .error .sumTooLarge

def mul (a b : Nat) : Except Fault Nat := if a * b < limit then .ok (a * b) else .error .productTooLarge

/-- the bytes of a number of words -/
def bytes (words : Nat) : Except Fault Nat := mul words wordBytes

/-- a number of words that one buffer can hold -/
def words (n : Nat) : Except Fault Nat := if n ≤ maxWords then .ok n else .error .capacityTooLarge

/-- the words of a buffer of equal rows -/
def rows (count width : Nat) : Except Fault Nat := do words (← mul count width)

theorem maxWords_lt_limit : maxWords < limit := by decide

theorem add_eq_ok_iff {a b c : Nat} : add a b = .ok c ↔ a + b < limit ∧ a + b = c := by
  unfold add; split <;> simp [*]

theorem mul_eq_ok_iff {a b c : Nat} : mul a b = .ok c ↔ a * b < limit ∧ a * b = c := by
  unfold mul; split <;> simp [*]

theorem words_eq_ok_iff {a b : Nat} : words a = .ok b ↔ a ≤ maxWords ∧ a = b := by
  unfold words; split <;> simp [*]

/-- a buffer of equal rows is held exactly when its words are; the product cannot fail before -/
theorem rows_eq_ok_iff {count width n : Nat} :
    rows count width = .ok n ↔ count * width ≤ maxWords ∧ count * width = n := by
  simp only [rows, Checked.bind_eq_ok_iff, mul_eq_ok_iff, words_eq_ok_iff]
  refine ⟨?_, ?_⟩
  · intro hok
    obtain ⟨_, ⟨_, rfl⟩, h, rfl⟩ := hok
    exact ⟨h, rfl⟩
  · intro hcond
    obtain ⟨h, rfl⟩ := hcond
    exact ⟨_, ⟨Nat.lt_of_le_of_lt h (by decide), rfl⟩, h, rfl⟩

end BatchEval.Size
