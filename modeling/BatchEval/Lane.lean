/-
The six buffers of an arena, called lanes: two of packed inputs and four of decoded results, in the order in which they
are counted and allocated.

- `PerLane`: one value for each lane.
- `PerLane.build_eq_ok_iff`: a family built lane by lane is built exactly when each of its members is.
-/
import BatchEval.Checked

namespace BatchEval

/-- a buffer of an arena -/
inductive Lane
  | spatial
  | global
  | policy
  | value
  | score
  | ownership
deriving DecidableEq

/-- one value for each lane -/
@[ext] structure PerLane (α : Type) where
  spatial : α
  global : α
  policy : α
  value : α
  score : α
  ownership : α
deriving DecidableEq

namespace PerLane

variable {α β ε : Type}

/-- the value for a lane -/
def get (p : PerLane α) : Lane → α
  | .spatial => p.spatial
  | .global => p.global
  | .policy => p.policy
  | .value => p.value
  | .score => p.score
  | .ownership => p.ownership

/-- the family with another value for one lane -/
def set (p : PerLane α) (k : Lane) (a : α) : PerLane α :=
  match k with
  | .spatial => { p with spatial := a }
  | .global => { p with global := a }
  | .policy => { p with policy := a }
  | .value => { p with value := a }
  | .score => { p with score := a }
  | .ownership => { p with ownership := a }

/-- builds the members in order; the first failure ends it -/
def build (f : Lane → Except ε α) : Except ε (PerLane α) := do
  let spatial ← f .spatial
  let global ← f .global
  let policy ← f .policy
  let value ← f .value
  let score ← f .score
  let ownership ← f .ownership
  pure ⟨spatial, global, policy, value, score, ownership⟩

theorem get_set (p : PerLane α) (k j : Lane) (a : α) : (p.set k a).get j = if j = k then a else p.get j := by
  cases k <;> cases j <;> rfl

/-- a family is built exactly when each of its members is -/
theorem build_eq_ok_iff {f : Lane → Except ε α} {p : PerLane α} :
    build f = .ok p ↔ ∀ k, f k = .ok (p.get k) := by
  simp only [build, Checked.bind_eq_ok_iff]
  refine ⟨?_, ?_⟩
  · intro hok
    obtain ⟨_, h1, _, h2, _, h3, _, h4, _, h5, _, h6, h⟩ := hok
    cases h
    intro k
    cases k <;> assumption
  · intro h
    exact ⟨_, h .spatial, _, h .global, _, h .policy, _, h .value, _, h .score, _, h .ownership, rfl⟩

end PerLane

end BatchEval
