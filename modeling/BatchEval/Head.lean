/-
The four raw outputs of a network, called heads, in the order in which every check and every table of this library goes
through them: policy, value, misc, ownership.

- `PerHead`: one value for each head.
- `PerHead.build_eq_ok_iff`: a family built head by head is built exactly when each of its members is.
-/
import BatchEval.Checked

namespace BatchEval

/-- a raw output -/
inductive Head
  | policy
  | value
  | misc
  | ownership
deriving DecidableEq

namespace Head

/-- the heads in their order -/
def all : List Head := [.policy, .value, .misc, .ownership]

/-- the name of a head in messages -/
def label : Head → String
  | .policy => "policy"
  | .value => "value"
  | .misc => "misc"
  | .ownership => "ownership"

theorem mem_all (k : Head) : k ∈ all := by cases k <;> decide

end Head

/-- one value for each head -/
@[ext] structure PerHead (α : Type) where
  policy : α
  value : α
  misc : α
  ownership : α
deriving DecidableEq

namespace PerHead

variable {α β ε : Type}

/-- the value for a head -/
def get (p : PerHead α) : Head → α
  | .policy => p.policy
  | .value => p.value
  | .misc => p.misc
  | .ownership => p.ownership

/-- the family with another value for one head -/
def set (p : PerHead α) (k : Head) (a : α) : PerHead α :=
  match k with
  | .policy => { p with policy := a }
  | .value => { p with value := a }
  | .misc => { p with misc := a }
  | .ownership => { p with ownership := a }

/-- the family of the values of a function -/
def ofFn (f : Head → α) : PerHead α := ⟨f .policy, f .value, f .misc, f .ownership⟩

/-- the same value for every head -/
def replicate (a : α) : PerHead α := ofFn fun _ => a

/-- builds the members in order; the first failure ends it -/
def build (f : Head → Except ε α) : Except ε (PerHead α) := do
  let policy ← f .policy
  let value ← f .value
  let misc ← f .misc
  let ownership ← f .ownership
  pure ⟨policy, value, misc, ownership⟩

@[simp] theorem get_ofFn (f : Head → α) (k : Head) : (ofFn f).get k = f k := by cases k <;> rfl

@[simp] theorem get_replicate (a : α) (k : Head) : (replicate a).get k = a := get_ofFn _ k

theorem get_set (p : PerHead α) (k j : Head) (a : α) : (p.set k a).get j = if j = k then a else p.get j := by
  cases k <;> cases j <;> rfl

/-- two families with the same members are the same -/
theorem ext_get {p q : PerHead α} (h : ∀ k, p.get k = q.get k) : p = q :=
  PerHead.ext (h .policy) (h .value) (h .misc) (h .ownership)

/-- a family is built exactly when each of its members is -/
theorem build_eq_ok_iff {f : Head → Except ε α} {p : PerHead α} :
    build f = .ok p ↔ ∀ k, f k = .ok (p.get k) := by
  simp only [build, Checked.bind_eq_ok_iff]
  refine ⟨?_, ?_⟩
  · intro hok
    obtain ⟨_, h1, _, h2, _, h3, _, h4, h⟩ := hok
    cases h
    intro k
    cases k <;> assumption
  · intro h
    exact ⟨_, h .policy, _, h .value, _, h .misc, _, h .ownership, rfl⟩

end PerHead

end BatchEval
