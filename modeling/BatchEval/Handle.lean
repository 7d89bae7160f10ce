/-
A model bound to the extents of a board, a capacity and a device: what one compute worker holds.

- `policySize`: one policy entry for each cell, and one for passing.
- `Handle.create`: refuses an empty capacity or board; the entry comes before the policy size is known to fit.
-/
import BatchEval.Context
import BatchEval.Descriptor
import BatchEval.Size

namespace BatchEval

/-- policy entries of a board: one for each cell plus the pass -/
def policySize (x y : Nat) : Except Fault Nat := do
  let area ← Size.mul x y
  Size.add area 1

theorem policySize_eq_ok_iff {x y n : Nat} : policySize x y = .ok n ↔ x * y + 1 < Size.limit ∧ x * y + 1 = n := by
  simp only [policySize, Checked.bind_eq_ok_iff, Size.mul_eq_ok_iff, Size.add_eq_ok_iff]
  refine ⟨?_, ?_⟩
  · intro hok
    obtain ⟨_, ⟨_, rfl⟩, h, rfl⟩ := hok
    exact ⟨h, rfl⟩
  · intro hcond
    obtain ⟨h, rfl⟩ := hcond
    exact ⟨_, ⟨by omega, rfl⟩, h, rfl⟩

/-- capacity and extents are positive -/
def checkExtents (rows x y : Nat) : Except Fault Unit :=
  if rows = 0 then .error .noRows
  else if x = 0 ∨ y = 0 then .error (.emptyBoard x y)
  else .ok ()

theorem checkExtents_eq_ok_iff {rows x y : Nat} :
    checkExtents rows x y = .ok () ↔ 0 < rows ∧ 0 < x ∧ 0 < y := by
  unfold checkExtents
  split
  · simp; omega
  · split <;> simp <;> omega

/-- a model bound to a board, a capacity and a device -/
structure Handle where
  model : Descriptor
  accelerator : Accelerator
  options : Options
  /-- the largest batch -/
  rows : Nat
  x : Nat
  y : Nat
  rows_pos : 0 < rows
  x_pos : 0 < x
  y_pos : 0 < y
  policy_fits : x * y + 1 < Size.limit

namespace Handle

/-- the cells of the board -/
def area (h : Handle) : Nat := h.x * h.y

/-- the policy entries of the board -/
def policySize (h : Handle) : Nat := h.x * h.y + 1

/-- binds a model; the options are passed on as they are -/
def create (context : Context) (model : Descriptor) (rows x y : Nat) (options : Options) :
    Logged (Except Fault Handle) :=
  match hc : checkExtents rows x y with
  | .error f => ⟨[], .error f⟩
  | .ok () =>
    { log := [.bound model.name x y rows context.accelerator options]
      value :=
        match hp : BatchEval.policySize x y with
        | .error f => .error f
        | .ok _ => .ok
          { model, options, rows, x, y
            accelerator := context.accelerator
            rows_pos := (checkExtents_eq_ok_iff.1 hc).1
            x_pos := (checkExtents_eq_ok_iff.1 hc).2.1
            y_pos := (checkExtents_eq_ok_iff.1 hc).2.2
            policy_fits := (policySize_eq_ok_iff.1 hp).1 } }

theorem area_pos (h : Handle) : 0 < h.area := Nat.mul_pos h.x_pos h.y_pos

end Handle

end BatchEval
