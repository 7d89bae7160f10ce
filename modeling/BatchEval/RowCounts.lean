/-
How many words each lane of an arena takes per row.

- `RowCounts.ofModel`: the counts of a model on a board.
- `RowCounts.totalBytes`: the bytes of all lanes; its sums are taken in lane order, and each may be too large.
-/
import BatchEval.Descriptor
import BatchEval.Size

namespace BatchEval

/-- words per row of each lane -/
abbrev RowCounts := PerLane Nat

namespace RowCounts

/-- the counts of a model on a board -/
def ofModel (model : Descriptor) (x y : Nat) : Except Fault RowCounts := do
  let area ← Size.mul x y
  let spatial ← Size.mul model.channels.spatial area
  let policy ← Size.add 1 area
  let ownership ← Size.mul model.channels.ownership area
  pure
    { spatial, policy, ownership
      global := model.channels.global
      value := model.channels.value
      score := model.channels.score }

/-- the words of all lanes in one row -/
def perRow (c : RowCounts) : Except Fault Nat := do
  let n ← Size.add c.spatial c.global
  let n ← Size.add n c.policy
  let n ← Size.add n c.value
  let n ← Size.add n c.score
  Size.add n c.ownership

/-- the bytes of all lanes in a number of rows -/
def totalBytes (c : RowCounts) (rows : Nat) : Except Fault Nat := do
  let row ← c.perRow
  let words ← Size.mul row rows
  Size.bytes words

end RowCounts

end BatchEval
