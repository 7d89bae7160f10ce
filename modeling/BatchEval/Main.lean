/-
The command line: the throughput sweep on the real clock and the standard outputs, at the verbosity of errors alone.
-/
import BatchEval.Bench.Sweep

/-- the console and the monotonic clock -/
def BatchEval.Bench.console : BatchEval.Bench.Terminal IO where
  now := IO.monoNanosNow
  print := IO.println
  report := IO.eprintln

def main (args : List String) : IO UInt32 := do
  let code ← BatchEval.Bench.run (some .error) .mixed BatchEval.Bench.console args
  pure code.toUInt32
