/-
A model loaded on an engine, as a provider. A session is launched for one handle: it selects the device, loads the model,
compares versions and sizes the staging. Each batch asks the engine once and collects its tensors in the staging.

- `Session.launch`: a failed load is given back as it is; a loaded model of another version is unloaded.
- `Session.provider`: one request for each batch that the staging can hold.
- `Session.close`: unloads the model.
-/
import BatchEval.Engine

namespace BatchEval

/-- a model loaded on an engine -/
structure Session (π : Type) where
  engine : π
  staging : Staging

/-- what launching a session comes to; the engine is there whether or not a session is -/
structure Launch (π : Type) where
  engine : π
  log : List LogEntry
  outcome : Except (Halt ProviderError) Staging

namespace Launch

/-- the session, if there is one -/
def session {π : Type} (l : Launch π) : Except (Halt ProviderError) (Session π) :=
  l.outcome.map fun staging => ⟨l.engine, staging⟩

end Launch

namespace Session

variable {π : Type}

/-! ## Launching and closing -/

/-- the error of an engine that loaded another version than the descriptor's -/
def versionError (model : Descriptor) (loaded : Nat) : ProviderError :=
  { message := s!"predictor loaded {model.name} as version {loaded}, descriptor says {model.version}" }

/-- loads the handle's model on the context's device -/
def launch (e : Engine π) (context : Context) (h : Handle) (engine : π) : Launch π :=
  let engine := e.setAccelerator engine context.accelerator
  match e.load engine h.model.name with
  | (engine, .error error) => ⟨engine, [.loadFailed h.model.name error.message], .error (.refused error)⟩
  | (engine, .ok ()) =>
    let version := e.version engine
    if version ≠ h.model.version then
      ⟨e.unload engine, [], .error (.refused (versionError h.model version))⟩
    else
      { engine
        log := [.loaded h.model.name version context.accelerator h.rows]
        outcome := Halt.ofFault (Staging.ofHandle h) }

/-- unloads the model -/
def close (e : Engine π) (s : Session π) : π := e.unload s.engine

/-! ## Batches -/

/-- puts the tensors of an answer into the staging, in their order; a tensor that is not decoded is told and skipped, and
the first one that does not fit ends it -/
def collect (batch : Nat) : Staging → List NamedTensor → Staging × List LogEntry × Except (Halt ProviderError) Unit
  | staging, [] => (staging, [], .ok ())
  | staging, t :: ts =>
    match Head.ofTensorName? t.name with
    | none =>
      let (staging, log, outcome) := collect batch staging ts
      (staging, .ignored t.name :: log, outcome)
    | some k =>
      match staging.write k batch t.data with
      | .error stop => (staging, [], .error (stop.map .ofStaging))
      | .ok staging => collect batch staging ts

/-- the raw outputs of a batch, once its tensors are in the staging -/
def view (staging : Staging) (batch : Nat) : Except (Halt ProviderError) RawBatch :=
  (staging.view batch).mapError (Halt.map .ofStaging)

/-- the request for a batch of a handle -/
def request (h : Handle) (inputs : Inputs) : Except Fault Request := do
  let area ← Size.mul inputs.x inputs.y
  pure
    { batch := inputs.batch, area
      spatialChannels := h.model.channels.spatial
      globalChannels := h.model.channels.global
      spatial := inputs.spatial
      global := inputs.global }

/-- asks the engine and gives back the four outputs it answered with -/
def runBatch (e : Engine π) (s : Session π) (h : Handle) (inputs : Inputs) : Call (Session π) :=
  match s.staging.start inputs.batch with
  | .error error => { state := s, outcome := .error (.refused (.ofStaging error)) }
  | .ok staging =>
    match request h inputs with
    | .error f => { state := ⟨s.engine, staging⟩, outcome := .error (.fault f) }
    | .ok r =>
      match e.predict s.engine r with
      | (engine, .error error) => { state := ⟨engine, staging⟩, outcome := .error (.refused error) }
      | (engine, .ok tensors) =>
        let (staging, log, outcome) := collect inputs.batch staging tensors
        { state := ⟨engine, staging⟩
          log := .predicted :: log
          outcome := outcome >>= fun _ => view staging inputs.batch }

/-- the sessions of an engine, as a provider -/
def provider (e : Engine π) : Provider (Session π) where
  name := "staged"
  runBatch := runBatch e

end Session

end BatchEval
