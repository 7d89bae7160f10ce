/-
Raw outputs as a provider returns them: for each head one flat list of equal rows, in the order of the packed inputs. A
policy row holds two numbers for each policy entry, of which the first counts.

- `RawWidths.ofHandle`: the row widths of a handle.
- `RawBatch.row`: the rows with one number, of all heads.
-/
import BatchEval.Flat
import BatchEval.Handle

namespace BatchEval

/-- words per row of each head -/
abbrev RawWidths := PerHead Nat

/-- the raw outputs of one batch -/
abbrev RawBatch := PerHead (Array Word)

/-- the row widths of a handle -/
def RawWidths.ofHandle (h : Handle) : Except Fault RawWidths := do
  let policy ← Size.mul 2 h.policySize
  let columns ← Size.mul h.model.channels.ownership h.x
  let ownership ← Size.mul columns h.y
  pure { policy, ownership, value := h.model.channels.value, misc := h.model.channels.misc }

/-- row `r` of a flat list of rows of this width -/
def RawBatch.cut (a : Array Word) (width r : Nat) : Except Fault (Array Word) := do
  let start ← Size.mul r width
  let next ← Size.add r 1
  let stop ← Size.mul next width
  Flat.slice a start stop

/-- row `r` of every head -/
def RawBatch.row (raw : RawBatch) (widths : RawWidths) (r : Nat) : Except Fault RawBatch :=
  PerHead.build fun k => RawBatch.cut (raw.get k) (widths.get k) r

end BatchEval
