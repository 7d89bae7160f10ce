/-
The names of the tensors that a network graph takes and gives, and which of the outputs are decoded.

- `Head.tensorName`, `Head.ofTensorName?`: the decoded outputs and their names.
- `Head.ofTensorName?_tensorName`: each name leads back to its head.
-/
import BatchEval.Head
import BatchEval.Word

namespace BatchEval

/-- one output of an engine, flattened row by row -/
structure NamedTensor where
  name : String
  data : Array Word
deriving DecidableEq

namespace TensorName

def spatialInputs : String := "swa_model/bin_inputs"

def globalInputs : String := "swa_model/global_inputs"

/-- in the graph, but not decoded -/
def scoreBelief : String := "swa_model/scorebelief_output"

/-- in the graph, but not decoded -/
def bonusBelief : String := "swa_model/bonusbelief_output"

end TensorName

namespace Head

def tensorName : Head → String
  | .policy => "swa_model/policy_output"
  | .value => "swa_model/value_output"
  | .misc => "swa_model/miscvalues_output"
  | .ownership => "swa_model/ownership_output"

/-- the head that a tensor is decoded as, none for a tensor that is not decoded -/
def ofTensorName? (name : String) : Option Head := all.find? fun k => k.tensorName == name

theorem ofTensorName?_tensorName (k : Head) : ofTensorName? k.tensorName = some k := by cases k <;> decide

end Head

/-- every tensor name: the inputs, the decoded outputs, the outputs that are not decoded -/
def TensorName.all : List String :=
  [spatialInputs, globalInputs] ++ Head.all.map Head.tensorName ++ [scoreBelief, bonusBelief]

end BatchEval
