/-
What a handle passes on to its provider untouched.

- `Options.text`: the options as log lines show them.
-/

namespace BatchEval

/-- per-handle options, forwarded to the provider as they are -/
structure Options where
  /-- board extents must equal the extents the model was trained on -/
  requireExactExtents : Bool := false
  /-- packed spatial inputs are channels-last -/
  inputsChannelsLast : Bool := false
  /-- device index, none for the provider's default -/
  deviceIndex : Option Nat := none
  halfPrecision : Bool := false
  /-- the provider's own tensors are channels-last -/
  channelsLast : Bool := false
deriving DecidableEq

/-- the options as log lines show them -/
def Options.text (o : Options) : String :=
  let index := match o.deviceIndex with
    | none => "None"
    | some i => s!"Some({i})"
  s!"ComputeOptions \x7b require_exact_nn_len: {o.requireExactExtents}, inputs_use_nhwc: {o.inputsChannelsLast}, " ++
    s!"gpu_idx: {index}, use_fp16: {o.halfPrecision}, use_nhwc: {o.channelsLast} \x7d"

end BatchEval
