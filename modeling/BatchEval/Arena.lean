/-
Host memory for one batch: packed inputs, symmetry flags and decoded results. Every lane is one flat buffer of equal
rows, and row `i` of a lane of width `w` lies from place `i * w` up to place `(i + 1) * w`.

- `Arena.allocate`: every row starts as zeros, every flag as false.
- `Arena.row`, `Arena.write`, `Arena.replaceRow`: the rows of a lane.
- `Arena.replaceLanes`: one row in several lanes, one lane after another.
- `Arena.inputs`: the packed rows from the first up to a batch size, as a provider gets them.
- `Arena.staged`: the decoded results of a row.
-/
import BatchEval.RowCounts
import BatchEval.Flat
import BatchEval.Handle

namespace BatchEval

/-- the flags that together name one of the eight symmetries of a board -/
structure Symmetries where
  transpose : Bool := false
  flipX : Bool := false
  flipY : Bool := false
deriving DecidableEq

/-- the number of symmetry flags -/
def Symmetries.count : Nat := 3

/-- the packed rows of one batch -/
structure Inputs where
  batch : Nat
  x : Nat
  y : Nat
  spatial : Array Word
  global : Array Word
  symmetries : Symmetries
deriving DecidableEq

/-- host memory for one batch -/
structure Arena where
  /-- the capacity -/
  rows : Nat
  x : Nat
  y : Nat
  layout : ScoreLayout
  counts : RowCounts
  cells : PerLane (Array Word)
  symmetries : Symmetries
deriving DecidableEq

/-- a write beyond the end of a row of this width -/
structure RowOverrun where
  width : Nat
deriving DecidableEq

def RowOverrun.message (e : RowOverrun) : String := s!"row holds {e.width}"

namespace Arena

/-! ## Allocation -/

/-- an arena of zeros with these counts -/
def ofCounts (layout : ScoreLayout) (counts : RowCounts) (rows x y : Nat) : Except Fault Arena := do
  let sizes ← PerLane.build fun k => Size.rows rows (counts.get k)
  let lane (k : Lane) : Array Word := Array.replicate (sizes.get k) Word.zero
  pure
    { rows, x, y, layout, counts
      cells := ⟨lane .spatial, lane .global, lane .policy, lane .value, lane .score, lane .ownership⟩
      symmetries := {} }

/-- memory for `rows` rows of a board; the entry, and the total it tells, are made only when they are shown -/
def allocate (v : Verbosity) (model : Descriptor) (rows x y : Nat) : Logged (Except Fault Arena) :=
  match (do checkExtents rows x y; RowCounts.ofModel model x y) with
  | .error f => ⟨[], .error f⟩
  | .ok counts =>
    if LogLevel.debug.shownAt v then
      match counts.totalBytes rows with
      | .error f => ⟨[], .error f⟩
      | .ok bytes => ⟨[.sized model.name rows x y bytes], ofCounts model.layout counts rows x y⟩
    else ⟨[], ofCounts model.layout counts rows x y⟩

/-- memory that fits a handle -/
def ofHandle (v : Verbosity) (h : Handle) : Logged (Except Fault Arena) := allocate v h.model h.rows h.x h.y

/-! ## Rows -/

/-- where a row of a lane of this width starts and stops -/
def span (a : Arena) (row width : Nat) : Except Fault (Nat × Nat) :=
  if row < a.rows then do
    let start ← Size.mul row width
    let next ← Size.add row 1
    let stop ← Size.mul next width
    pure (start, stop)
  else .error (.rowMissing row a.rows)

/-- a row of a lane -/
def row (a : Arena) (k : Lane) (r : Nat) : Except Fault (Array Word) := do
  let (start, stop) ← a.span r (a.counts.get k)
  Flat.slice (a.cells.get k) start stop

/-- writes into a row from `offset` on, if the row reaches that far -/
def write (a : Arena) (k : Lane) (r offset : Nat) (data : Array Word) : Except (Halt RowOverrun) Arena := do
  let (start, _) ← Halt.ofFault (a.span r (a.counts.get k))
  let old ← Halt.ofFault (a.row k r)
  if offset + data.size ≤ old.size then
    pure { a with cells := a.cells.set k (Flat.overwrite (a.cells.get k) (start + offset) data) }
  else throw (.refused ⟨old.size⟩)

/-- writes a whole row -/
def replaceRow (a : Arena) (k : Lane) (r : Nat) (data : Array Word) : Except Fault Arena := do
  let (start, _) ← a.span r (a.counts.get k)
  let old ← a.row k r
  let new ← Flat.replaceAll old data
  pure { a with cells := a.cells.set k (Flat.overwrite (a.cells.get k) start new) }

/-- replaces a row in one lane after another, each made when its turn comes; a fault leaves what was written before it -/
def replaceLanes (r : Nat) : List (Lane × Except Fault (Array Word)) → Arena → Arena × Except Fault Unit
  | [], a => (a, .ok ())
  | (k, data) :: rest, a =>
    match (do a.replaceRow k r (← data)) with
    | .error f => (a, .error f)
    | .ok a => replaceLanes r rest a

/-! ## Batches -/

/-- the first `batch` rows, ready for a provider -/
def inputs (a : Arena) (batch : Nat) : Except Fault Inputs := do
  if batch = 0 then throw .emptyBatch
  if a.rows < batch then throw (.batchTooLarge batch a.rows)
  let spatial ← Flat.front a.cells.spatial (← Size.mul batch a.counts.spatial)
  let global ← Flat.front a.cells.global (← Size.mul batch a.counts.global)
  pure { batch, x := a.x, y := a.y, spatial, global, symmetries := a.symmetries }

/-! ## Decoded results -/

/-- the decoded results of one row -/
structure StagedRow where
  policy : Array Word
  value : Array Word
  score : Array Word
  ownership : Array Word
  layout : ScoreLayout

/-- the decoded results of a row -/
def staged (a : Arena) (r : Nat) : Except Fault StagedRow := do
  let policy ← a.row .policy r
  let value ← a.row .value r
  let score ← a.row .score r
  let ownership ← a.row .ownership r
  pure { policy, value, score, ownership, layout := a.layout }

namespace StagedRow

def win (s : StagedRow) : Except Fault Word := Flat.item s.value 0

def loss (s : StagedRow) : Except Fault Word := Flat.item s.value 1

def noResult (s : StagedRow) : Except Fault Word := Flat.item s.value 2

def mean (s : StagedRow) : Except Fault Word := Flat.item s.score 0

/-- the mean of squares; a layout without one has the square of the mean in its place -/
def meanSq (s : StagedRow) : Except Fault Word :=
  match s.layout with
  | .meanOnly => Word.square <$> Flat.item s.score 0
  | .meanAndSecondMoment => Flat.item s.score 1

end StagedRow

end Arena

end BatchEval
