/-
The provider without a network: all outputs are zeros, which is a uniform policy and value after the search's softmax, a
zero score and a neutral ownership map. One list of zeros, as long as the longest output of the largest batch, serves
all four heads.

- `Uniform.ofHandle`: the provider for a handle.
- `Uniform.provider`: its answers.
-/
import BatchEval.Provider

namespace BatchEval

/-- the zeros for a handle -/
structure Uniform where
  /-- the capacity -/
  rows : Nat
  widths : RawWidths
  zeros : Array Word

namespace Uniform

/-- the widest of the four rows -/
def widest (w : RawWidths) : Nat := max (max (max w.policy w.value) w.misc) w.ownership

def ofHandle (h : Handle) : Except Fault Uniform := do
  let widths ← RawWidths.ofHandle h
  let size ← Size.rows (widest widths) h.rows
  pure ⟨h.rows, widths, Array.replicate size Word.zero⟩

/-- zeros for every head -/
def answer (u : Uniform) (batch : Nat) : Except (Halt ProviderError) RawBatch :=
  if u.rows < batch then
    .error (.refused { message := s!"batch size {batch} exceeds provider capacity {u.rows}" })
  else
    Halt.ofFault <| PerHead.build fun k => do
      let size ← Size.mul batch (u.widths.get k)
      Flat.front u.zeros size

/-- the provider, whose state never changes -/
def provider : Provider Uniform where
  name := "uniform"
  runBatch u _ inputs := { state := u, outcome := u.answer inputs.batch }

end Uniform

end BatchEval
