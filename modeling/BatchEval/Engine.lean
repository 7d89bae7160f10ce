/-
An engine that loads a model by name and answers requests with named tensors.

- `Engine`: what an engine can be asked; it is a machine with states in `π`.
- `Engine.recording`: the same engine, remembering what it was asked.
-/
import BatchEval.Provider

namespace BatchEval

/-- the flat input tensors of one request: `spatial` is batch by cells by channels, `global` is batch by channels -/
structure Request where
  batch : Nat
  area : Nat
  spatialChannels : Nat
  globalChannels : Nat
  spatial : Array Word
  global : Array Word
deriving DecidableEq

/-- an engine with states in `π` -/
structure Engine (π : Type) where
  setAccelerator : π → Accelerator → π
  load : π → String → π × Except ProviderError Unit
  unload : π → π
  /-- the version of the loaded model -/
  version : π → Nat
  predict : π → Request → π × Except ProviderError (List NamedTensor)

/-- something that an engine was asked to do -/
inductive EngineCall
  | setAccelerator (a : Accelerator)
  | load (name : String)
  | unload
  | predict (r : Request)
deriving DecidableEq

/-- the engine that also keeps what it was asked, the first call first -/
def Engine.recording {π : Type} (e : Engine π) : Engine (π × List EngineCall) where
  setAccelerator s a := (e.setAccelerator s.1 a, s.2 ++ [.setAccelerator a])
  load s name :=
    let (state, outcome) := e.load s.1 name
    ((state, s.2 ++ [.load name]), outcome)
  unload s := (e.unload s.1, s.2 ++ [.unload])
  version s := e.version s.1
  predict s r :=
    let (state, outcome) := e.predict s.1 r
    ((state, s.2 ++ [.predict r]), outcome)

end BatchEval
