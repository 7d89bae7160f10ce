/-
Broken preconditions. A fault is a mistake of the caller, or a size that does not fit the machine; the operation that
meets one stops there, and what it wrote before stays written.

- `Fault`: the causes.
- `Fault.message`: their wording.
- `Halt`: an operation's own error, or a fault.
-/
import BatchEval.Head
import BatchEval.Lane
import BatchEval.ScoreLayout

namespace BatchEval

/-- why an operation stops for good -/
inductive Fault
  /-- a sum of 2^64 or more -/
  | sumTooLarge
  /-- a product of 2^64 or more -/
  | productTooLarge
  /-- a buffer beyond the allocation limit -/
  | capacityTooLarge
  | divisionByZero
  /-- a buffer read at a place it does not have -/
  | placeMissing (size place : Nat)
  /-- a buffer cut at an end beyond its own -/
  | endMissing (size stop : Nat)
  /-- a row replaced by one of another size -/
  | copySize (source target : Nat)
  | noRows
  | emptyBoard (x y : Nat)
  | rowMissing (row rows : Nat)
  | emptyBatch
  | batchTooLarge (batch rows : Nat)
  /-- a raw output shorter than the batch needs -/
  | rawTooShort (head : Head) (size batch needed : Nat)
  /-- the first win probability is no number -/
  | winNotANumber
  | recordsMissing (records batch : Nat)
  /-- a record made for another board -/
  | recordBoard (row x y handleX handleY : Nat)
  | policySize (row actual expected : Nat)
  /-- a model with another number of ownership channels than one -/
  | ownershipChannels (actual : Nat)
  | ownershipSize (row actual expected : Nat)
  /-- an arena made for another board -/
  | arenaBoard (x y handleX handleY : Nat)
  | arenaTooLarge (rows handleRows : Nat)
  /-- an arena whose row counts are those of another model -/
  | arenaCounts (actual expected : PerLane Nat)
  | arenaTooSmall (batch rows : Nat)
  /-- an arena whose score layout is that of another model -/
  | arenaLayout (actual expected : ScoreLayout)
deriving DecidableEq

namespace Fault

/-- row counts as messages show them -/
private def countsText (c : PerLane Nat) : String :=
  s!"RowElementCounts \x7b spatial_input: {c.spatial}, global_input: {c.global}, policy_result: {c.policy}, " ++
    s!"value_result: {c.value}, score_value_result: {c.score}, ownership_result: {c.ownership} \x7d"

/-- the wording of two values that should have been equal, with what they are of if that is told -/
private def unequal (subject : Option String) (left right : String) : String :=
  let suffix := subject.elim "" (": " ++ ·)
  s!"assertion `left == right` failed{suffix}\n  left: {left}\n right: {right}"

def message : Fault → String
  | sumTooLarge => "attempt to add with overflow"
  | productTooLarge => "attempt to multiply with overflow"
  | capacityTooLarge => "capacity overflow"
  | divisionByZero => "attempt to calculate the remainder with a divisor of zero"
  | placeMissing size place => s!"index out of bounds: the len is {size} but the index is {place}"
  | endMissing size stop => s!"range end index {stop} out of range for slice of length {size}"
  | copySize source target => s!"a row of {target} floats cannot take {source} floats"
  | noRows => "max_batch_size must be positive"
  | emptyBoard x y => s!"board extents must be positive, got {x}x{y}"
  | rowMissing row rows => s!"row {row} out of range for max_batch_size {rows}"
  | emptyBatch => "empty batch"
  | batchTooLarge batch rows => s!"batch size {batch} exceeds max_batch_size {rows}"
  | rawTooShort head size batch needed =>
    "raw " ++ head.label ++ s!" output has {size} floats, batch of {batch} needs {needed}"
  | winNotANumber => "provider returned NaN win probability"
  | recordsMissing records batch => s!"{records} output records for a batch of {batch}"
  | recordBoard row x y handleX handleY => s!"output record {row} is {x}x{y}, handle is {handleX}x{handleY}"
  | policySize row actual expected => unequal (some s!"policy length, row {row}") (toString actual) (toString expected)
  | ownershipChannels actual => unequal none (toString actual) "1"
  | ownershipSize row actual expected =>
    unequal (some s!"ownership length, row {row}") (toString actual) (toString expected)
  | arenaBoard x y handleX handleY => s!"buffers are {x}x{y}, handle is {handleX}x{handleY}"
  | arenaTooLarge rows handleRows => s!"buffers hold {rows} rows, handle max_batch_size is {handleRows}"
  | arenaCounts actual expected =>
    unequal (some "buffers built for another model") (countsText actual) (countsText expected)
  | arenaTooSmall batch rows => s!"batch size {batch} exceeds buffer capacity {rows}"
  | arenaLayout actual expected => unequal (some "buffers built for another model") actual.name expected.name

end Fault

/-- how an operation with errors of its own may stop -/
inductive Halt (ε : Type)
  | refused (e : ε)
  | fault (f : Fault)
deriving DecidableEq

namespace Halt

variable {ε δ α : Type}

/-- a step that can only fault, among steps that can also be refused -/
def ofFault : Except Fault α → Except (Halt ε) α
  | .ok a => .ok a
  | .error f => .error (.fault f)

/-- a step that can only be refused, among steps that can also fault -/
def ofRefusal : Except ε α → Except (Halt ε) α
  | .ok a => .ok a
  | .error e => .error (.refused e)

/-- the same stop, with the error put in other terms -/
def map (f : ε → δ) : Halt ε → Halt δ
  | refused e => refused (f e)
  | fault x => fault x

theorem ofFault_eq_ok_iff {x : Except Fault α} {a : α} : (ofFault x : Except (Halt ε) α) = .ok a ↔ x = .ok a := by
  cases x <;> simp [ofFault]

end Halt

end BatchEval
