/-
The boundary between batches and whatever runs the network. A provider is a machine with a state of its own: it is given
packed inputs and answers with raw outputs, an error or a fault.

- `evaluate`: checks the arena, runs the provider once, and decodes what it answers.
- `Provider.recording`: the same provider, remembering the inputs it was given.
-/
import BatchEval.Decoder
import BatchEval.Staging

namespace BatchEval

/-! ## Errors -/

/-- an error that a provider error was made from -/
inductive ErrorSource
  | staging (e : StagingError)
  /-- an error of the engine itself, known by its text -/
  | engine (text : String)
deriving DecidableEq

/-- a failure of a provider -/
structure ProviderError where
  message : String
  source : Option ErrorSource := none
deriving DecidableEq

namespace ProviderError

def ofStaging (e : StagingError) : ProviderError := ⟨e.message, some (.staging e)⟩

def ofEngine (text : String) : ProviderError := ⟨text, some (.engine text)⟩

end ProviderError

/-! ## Providers -/

/-- what one call of a provider comes to -/
structure Call (σ : Type) where
  state : σ
  log : List LogEntry := []
  outcome : Except (Halt ProviderError) RawBatch

/-- whatever runs the network, with states in `σ` -/
structure Provider (σ : Type) where
  name : String
  runBatch : σ → Handle → Inputs → Call σ

/-- the provider that also keeps the inputs of its calls, the first call first -/
def Provider.recording {σ : Type} (p : Provider σ) : Provider (σ × List Inputs) where
  name := p.name
  runBatch s h inputs :=
    let call := p.runBatch s.1 h inputs
    { state := (call.state, s.2 ++ [inputs]), log := call.log, outcome := call.outcome }

/-! ## Evaluation -/

/-- the arena has the handle's board, at most its rows, and the row counts of its model -/
def Arena.checkFor (a : Arena) (h : Handle) : Except Fault Unit := do
  if a.x ≠ h.x ∨ a.y ≠ h.y then throw (.arenaBoard a.x a.y h.x h.y)
  if h.rows < a.rows then throw (.arenaTooLarge a.rows h.rows)
  let expected ← RowCounts.ofModel h.model h.x h.y
  if a.counts ≠ expected then throw (.arenaCounts a.counts expected)

/-- what the evaluation of one batch comes to -/
structure Evaluation (σ : Type) where
  state : σ
  records : List Prediction
  log : List LogEntry
  outcome : Except (Halt ProviderError) Unit

/-- decodes the raw outputs of a handle's batch -/
def decodeFor (h : Handle) (raw : RawBatch) (batch : Nat) (records : List Prediction) :
    List Prediction × Except Fault Unit :=
  match Decoder.ofHandle h with
  | .error f => (records, .error f)
  | .ok d => d.decode raw batch records

/-- runs the first `batch` rows of the arena through the provider and decodes its answer into the records; an error of
the provider is logged and given back as it is -/
def evaluate {σ : Type} (p : Provider σ) (s : σ) (h : Handle) (a : Arena) (batch : Nat) (records : List Prediction) :
    Evaluation σ :=
  match (do a.checkFor h; a.inputs batch) with
  | .error f => ⟨s, records, [], .error (.fault f)⟩
  | .ok inputs =>
    let call := p.runBatch s h inputs
    match call.outcome with
    | .error (.fault f) => ⟨call.state, records, call.log, .error (.fault f)⟩
    | .error (.refused e) =>
      ⟨call.state, records, call.log ++ [.inferenceFailed h.model.name batch e.message], .error (.refused e)⟩
    | .ok raw =>
      let (records, outcome) := decodeFor h raw batch records
      ⟨call.state, records, call.log, Halt.ofFault outcome⟩

end BatchEval
