/-
The throughput sweep as a program: it reads its arguments, prepares a rig, and times the batch sizes one, two, four and
so on up to the largest. The program is written over a terminal, which tells the time and takes lines, so that it runs on
a real one and on a transcript alike.

- `run`: the program under a verbosity and a noise; its value is the exit code.
- `Transcript.terminal`: a terminal that keeps the lines, under any clock.
-/
import BatchEval.Bench.Rig
import BatchEval.Bench.Throughput

namespace BatchEval.Bench

/-- a clock and the two outputs of a program -/
structure Terminal (m : Type → Type) where
  /-- the time in nanoseconds -/
  now : m Nat
  /-- a line of output -/
  print : String → m Unit
  /-- a line of diagnostics of the program's own; the entries of the log are no such lines -/
  report : String → m Unit

variable {m : Type → Type} [Monad m]

/-- the end of the program -/
def stop (t : Terminal m) (e : Exit) : m Nat := do
  t.report e.message
  pure e.code

/-- the seconds that one call took -/
def perCall (started stopped calls : Nat) : Float := (stopped - started).toFloat / 1000000000.0 / calls.toFloat

/-- times the batch sizes from `batch` on, each twice the one before, up to the largest; the first evaluation of a batch
size is not timed -/
def sweep (t : Terminal m) (largest iterations : Nat) (r : Rig) (batch : Nat) : m Nat :=
  if 0 < batch ∧ batch ≤ largest then
    match r.round batch with
    | .error e => stop t e
    | .ok r => do
      let started ← t.now
      match Rig.rounds batch iterations r with
      | .error e => stop t e
      | .ok r =>
        let stopped ← t.now
        t.print (rowText batch (perCall started stopped iterations))
        match Size.mul batch 2 with
        | .error f => stop t (.ofFault f)
        | .ok _ => sweep t largest iterations r (batch * 2)
  else pure 0
termination_by largest + 1 - batch

/-- the first line of the output -/
def title (args : Args) : String :=
  s!"Adapter throughput: {args.width}x{args.height}, version {args.version}, device={Uniform.provider.name}, " ++
    s!"ownership={args.ownership}"

/-- the program -/
def run (v : Verbosity) (z : Noise) (t : Terminal m) (tokens : List String) : m Nat :=
  match Args.parse tokens with
  | .error e => stop t ⟨101, e.message⟩
  | .ok args =>
    match provide args with
    | .error e => stop t e
    | .ok (handle, provider) => do
      if args.model.isSome then t.report "--model ignored with the uniform device"
      match assemble v z handle provider args.ownership with
      | .error e => stop t e
      | .ok rig =>
        (title args :: tableHead).forM t.print
        sweep t args.maxBatch args.iterations rig 1

/-! ## Transcripts -/

/-- what a program wrote -/
structure Transcript where
  output : List String := []
  diagnostics : List String := []
  /-- how often the time was asked -/
  readings : Nat := 0
deriving DecidableEq

namespace Transcript

/-- a terminal that keeps the lines; `clock` tells the time at each reading -/
def terminal (clock : Nat → Nat) : Terminal (StateM Transcript) where
  now := do
    let s ← get
    set { s with readings := s.readings + 1 }
    pure (clock s.readings)
  print line := modify fun s => { s with output := s.output ++ [line] }
  report line := modify fun s => { s with diagnostics := s.diagnostics ++ [line] }

/-- the exit code of a command line and what it writes, under any verbosity and noise -/
def ofNoise (v : Verbosity) (z : Noise) (clock : Nat → Nat) (tokens : List String) : Nat × Transcript :=
  (run v z (terminal clock) tokens).run {}

/-- the exit code of a command line and what it writes with logging off -/
def of (clock : Nat → Nat) (tokens : List String) : Nat × Transcript := ofNoise none .mixed clock tokens

end Transcript

end BatchEval.Bench
