/-
Decoding a completed batch, row by row, into predictions or into the staged results of an arena. A decoder is made once
for a handle and looks at nothing but the handle's sizes and score layout.

- `Decoder.checkBatch`: what a raw batch must satisfy before a row is read.
- `Decoder.decode`: writes predictions; a bad prediction stops it, and the rows before stay written.
- `Decoder.stage`: writes an arena; after its checks no row can stop it.
-/
import BatchEval.Arena
import BatchEval.Prediction
import BatchEval.Raw

namespace BatchEval

/-- the mean and the mean of squares that a misc row encodes -/
def ScoreLayout.decode (layout : ScoreLayout) (misc : Array Word) : Except Fault (Word × Word) := do
  let mean ← Flat.item misc 0
  match layout with
  | .meanOnly => pure (mean, mean.square)
  | .meanAndSecondMoment => pure (mean, ← Flat.item misc 1)

/-- the win, loss and no-result numbers of a value row -/
def outcomes (value : Array Word) : Except Fault (Word × Word × Word) := do
  let win ← Flat.item value 0
  let loss ← Flat.item value 1
  let noResult ← Flat.item value 2
  pure (win, loss, noResult)

/-- decodes the batches of one handle -/
structure Decoder where
  handle : Handle
  widths : RawWidths

namespace Decoder

def ofHandle (h : Handle) : Except Fault Decoder := do
  let widths ← RawWidths.ofHandle h
  pure ⟨h, widths⟩

def layout (d : Decoder) : ScoreLayout := d.handle.model.layout

/-! ## The batch -/

/-- a raw output holds at least the rows of the batch -/
def checkHead (d : Decoder) (raw : RawBatch) (batch : Nat) (k : Head) : Except Fault Unit := do
  let needed ← Size.mul batch (d.widths.get k)
  if needed ≤ (raw.get k).size then pure () else throw (.rawTooShort k (raw.get k).size batch needed)

/-- the batch is neither empty nor too large, every head is long enough, and the first win probability is a number -/
def checkBatch (d : Decoder) (raw : RawBatch) (batch : Nat) : Except Fault Unit := do
  if batch = 0 then throw .emptyBatch
  if d.handle.rows < batch then throw (.batchTooLarge batch d.handle.rows)
  let _ ← PerHead.build (d.checkHead raw batch)
  let win ← Flat.item raw.value 0
  if win.isNaN then throw .winNotANumber

/-! ## Into predictions -/

/-- the prediction is one for the handle's board -/
def checkRecord (d : Decoder) (r : Nat) (p : Prediction) : Except Fault Unit := do
  if p.x ≠ d.handle.x ∨ p.y ≠ d.handle.y then throw (.recordBoard r p.x p.y d.handle.x d.handle.y)
  if p.policy.size ≠ d.handle.policySize then throw (.policySize r p.policy.size d.handle.policySize)

/-- the new ownership map of a prediction; one that wants none gets none -/
def decodeOwner (d : Decoder) (r : Nat) (ownership : Array Word) :
    Option (Array Word) → Except Fault (Option (Array Word))
  | none => pure none
  | some map => do
    if d.handle.model.channels.ownership ≠ 1 then throw (.ownershipChannels d.handle.model.channels.ownership)
    if map.size ≠ d.handle.area then throw (.ownershipSize r map.size d.handle.area)
    some <$> Flat.replaceAll map ownership

/-- decodes one row; a fault leaves what was written before it -/
def decodeRow (d : Decoder) (raw : RawBatch) (r : Nat) (p : Prediction) : Prediction × Except Fault Unit :=
  match (do d.checkRecord r p; raw.row d.widths r) with
  | .error f => (p, .error f)
  | .ok part =>
    match outcomes part.value with
    | .error f => (p, .error f)
    | .ok (win, loss, noResult) =>
      let p := { p with win, loss, noResult, policy := Flat.takeEven part.policy p.policy }
      match d.decodeOwner r part.ownership p.owner with
      | .error f => (p, .error f)
      | .ok owner =>
        let p := { p with owner }
        match d.layout.decode part.misc with
        | .error f => (p, .error f)
        | .ok (mean, meanSq) => ({ p with mean, meanSq }, .ok ())

/-- decodes `count` rows from row `r` on, into as many predictions -/
def decodeRows (d : Decoder) (raw : RawBatch) (r : Nat) : Nat → List Prediction → List Prediction × Except Fault Unit
  | count + 1, p :: ps =>
    match d.decodeRow raw r p with
    | (p, .error f) => (p :: ps, .error f)
    | (p, .ok ()) =>
      let (ps, outcome) := decodeRows d raw (r + 1) count ps
      (p :: ps, outcome)
  | _, ps => (ps, .ok ())

/-- decodes the first `batch` rows into the first `batch` predictions -/
def decode (d : Decoder) (raw : RawBatch) (batch : Nat) (ps : List Prediction) :
    List Prediction × Except Fault Unit :=
  match d.checkBatch raw batch with
  | .error f => (ps, .error f)
  | .ok () =>
    if ps.length < batch then (ps, .error (.recordsMissing ps.length batch))
    else d.decodeRows raw 0 batch ps

/-! ## Into an arena -/

/-- the arena is one for the handle's board and score layout, and holds the batch -/
def checkArena (d : Decoder) (batch : Nat) (a : Arena) : Except Fault Unit := do
  if a.x ≠ d.handle.x ∨ a.y ≠ d.handle.y then throw (.arenaBoard a.x a.y d.handle.x d.handle.y)
  if a.rows < batch then throw (.arenaTooSmall batch a.rows)
  if a.layout ≠ d.layout then throw (.arenaLayout a.layout d.layout)

/-- a score row with the mean in its first place and the mean of squares in its second, if it has one -/
def scoreRow (old : Array Word) (mean meanSq : Word) : Except Fault (Array Word) := do
  let _ ← Flat.item old 0
  pure ((old.setIfInBounds 0 mean).setIfInBounds 1 meanSq)

/-- decodes one row, the score last; a fault leaves the lanes written before it -/
def stageRow (d : Decoder) (raw : RawBatch) (r : Nat) (a : Arena) : Arena × Except Fault Unit :=
  match (do pure (← raw.row d.widths r, ← a.staged r)) with
  | .error f => (a, .error f)
  | .ok (part, old) =>
    a.replaceLanes r
      [(.value, Flat.front part.value old.value.size),
        (.policy, pure (Flat.takeEven part.policy old.policy)),
        (.ownership, pure part.ownership),
        (.score, do
          let (mean, meanSq) ← d.layout.decode part.misc
          scoreRow old.score mean meanSq)]

/-- decodes `count` rows from row `r` on -/
def stageRows (d : Decoder) (raw : RawBatch) (r : Nat) : Nat → Arena → Arena × Except Fault Unit
  | 0, a => (a, .ok ())
  | count + 1, a =>
    match d.stageRow raw r a with
    | (a, .error f) => (a, .error f)
    | (a, .ok ()) => stageRows d raw (r + 1) count a

/-- decodes the first `batch` rows into the first `batch` rows of the arena -/
def stage (d : Decoder) (raw : RawBatch) (batch : Nat) (a : Arena) : Arena × Except Fault Unit :=
  match (do d.checkBatch raw batch; d.checkArena batch a) with
  | .error f => (a, .error f)
  | .ok () => d.stageRows raw 0 batch a

end Decoder

end BatchEval
