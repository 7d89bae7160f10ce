/-
Where the outputs of an engine wait until all four are there. Each head has a buffer for the largest batch, sized once
and used again by every batch, and a mark that tells whether the current batch filled it.

- `Staging.start`: a new batch; it clears the marks and leaves the words.
- `Staging.write`: one output, which must have exactly the rows of the batch.
- `Staging.view`: the rows of the batch, once every head is filled.
-/
import BatchEval.Raw
import BatchEval.Tensor

namespace BatchEval

/-- why an output is not taken or not given -/
inductive StagingError
  /-- an output that does not divide into rows -/
  | rowWidth (head : Head) (size width : Nat)
  /-- an output with more or fewer rows than the batch -/
  | rowCount (head : Head) (rows batch : Nat)
  | capacity (batch rows : Nat)
  /-- no output came for a head -/
  | missing (head : Head)
deriving DecidableEq

def StagingError.message : StagingError → String
  | rowWidth head size width =>
    "output " ++ head.tensorName ++ s!": {size} floats is not a whole number of {width}-float rows"
  | rowCount head rows batch => "output " ++ head.tensorName ++ s!": {rows} rows for a batch of {batch}"
  | capacity batch rows => s!"batch of {batch} exceeds staging capacity {rows}"
  | missing head => "provider produced no " ++ head.tensorName ++ " output"

/-- buffers for the raw outputs of one batch -/
structure Staging where
  /-- the capacity -/
  rows : Nat
  widths : RawWidths
  cells : PerHead (Array Word)
  filled : PerHead Bool
deriving DecidableEq

namespace Staging

/-- empty buffers for the largest batch of a handle -/
def ofHandle (h : Handle) : Except Fault Staging := do
  let widths ← RawWidths.ofHandle h
  let sizes ← PerHead.build fun k => Size.rows h.rows (widths.get k)
  pure
    { rows := h.rows, widths
      cells := PerHead.ofFn fun k => Array.replicate (sizes.get k) Word.zero
      filled := PerHead.replicate false }

/-- forgets which heads the batch before filled -/
def start (s : Staging) (batch : Nat) : Except StagingError Staging :=
  if s.rows < batch then .error (.capacity batch s.rows)
  else .ok { s with filled := PerHead.replicate false }

/-- takes the output of one head -/
def write (s : Staging) (k : Head) (batch : Nat) (data : Array Word) : Except (Halt StagingError) Staging := do
  let width := s.widths.get k
  if width = 0 then throw (.fault .divisionByZero)
  if data.size % width ≠ 0 then throw (.refused (.rowWidth k data.size width))
  if data.size / width ≠ batch then throw (.refused (.rowCount k (data.size / width) batch))
  if s.rows < data.size / width then throw (.refused (.capacity (data.size / width) s.rows))
  let old ← Halt.ofFault (Flat.front (s.cells.get k) data.size)
  let new ← Halt.ofFault (Flat.replaceAll old data)
  pure
    { s with
      cells := s.cells.set k (Flat.overwrite (s.cells.get k) 0 new)
      filled := s.filled.set k true }

/-- the first head that the batch has not filled -/
def unfilled? (s : Staging) : Option Head := Head.all.find? fun k => !s.filled.get k

/-- the first `batch` rows of every head -/
def view (s : Staging) (batch : Nat) : Except (Halt StagingError) RawBatch :=
  match s.unfilled? with
  | some k => .error (.refused (.missing k))
  | none => Halt.ofFault <| PerHead.build fun k => do
      let size ← Size.mul batch (s.widths.get k)
      Flat.front (s.cells.get k) size

end Staging

end BatchEval
