/-
The decoded prediction for one position, owned by the search that asked for it. Numbers are from the perspective of the
player to move, and policy entries are raw network outputs.

- `Prediction.blank`, `Prediction.blankBatch`: predictions of zeros, with or without a place for the ownership map.
- `Prediction.same`: equality field by field, with numbers compared as numbers.
-/
import BatchEval.Flat
import BatchEval.Handle

namespace BatchEval

/-- the decoded prediction for one position -/
structure Prediction where
  x : Nat
  y : Nat
  win : Word
  loss : Word
  noResult : Word
  mean : Word
  meanSq : Word
  /-- one entry for each cell, the pass last -/
  policy : Array Word
  /-- one entry for each cell, row by row; none when the search wants no map -/
  owner : Option (Array Word)
deriving DecidableEq

namespace Prediction

/-- the bytes of one prediction, without the words of its two lists -/
def bytes : Nat := 88

/-- a list of zeros -/
def zeros (n : Nat) : Except Fault (Array Word) := do
  let n ← Size.words n
  pure (Array.replicate n Word.zero)

/-- a prediction of zeros; the ownership map is sized first -/
def blank (x y : Nat) (owned : Bool) : Except Fault Prediction := do
  let owner ← if owned then some <$> (Size.mul x y >>= zeros) else pure none
  let policy ← BatchEval.policySize x y >>= zeros
  pure
    { x, y, policy, owner
      win := Word.zero, loss := Word.zero, noResult := Word.zero, mean := Word.zero, meanSq := Word.zero }

/-- one prediction of zeros for each row of a handle -/
def blankBatch (h : Handle) (owned : Bool) : Except Fault (List Prediction) :=
  if h.rows * bytes ≤ Size.maxBytes then List.replicate h.rows <$> blank h.x h.y owned
  else .error .capacityTooLarge

/-- lists of numbers, compared place by place -/
def sameWords (a b : Array Word) : Bool := a.isEqv b Word.same

/-- ownership maps: both missing, or both there and equal -/
def sameOwner : Option (Array Word) → Option (Array Word) → Bool
  | none, none => true
  | some a, some b => sameWords a b
  | _, _ => false

/-- equality of predictions; one that holds a NaN differs from itself -/
def same (a b : Prediction) : Bool :=
  a.x == b.x && a.y == b.y && a.win.same b.win && a.loss.same b.loss && a.noResult.same b.noResult &&
    a.mean.same b.mean && a.meanSq.same b.meanSq && sameWords a.policy b.policy && sameOwner a.owner b.owner

end Prediction

end BatchEval
