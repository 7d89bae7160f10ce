/-
What the library reports about its own work. An operation lists its entries whatever the verbosity, and `visible` keeps
those that are shown; a value that comes with entries is `Logged`.
-/
import BatchEval.Accelerator
import BatchEval.Options
import BatchEval.ScoreLayout

namespace BatchEval

/-! ## Severity -/

inductive LogLevel
  | error
  | warn
  | info
  | debug
  | trace
deriving DecidableEq

/-- the least severe level that is shown, none when logging is off -/
abbrev Verbosity := Option LogLevel

namespace LogLevel

/-- places the levels from the most severe to the least -/
def rank : LogLevel → Nat
  | error => 1
  | warn => 2
  | info => 3
  | debug => 4
  | trace => 5

def name : LogLevel → String
  | error => "error"
  | warn => "warn"
  | info => "info"
  | debug => "debug"
  | trace => "trace"

/-- whether entries of this level are shown -/
def shownAt (l : LogLevel) : Verbosity → Bool
  | none => false
  | some v => decide (l.rank ≤ v.rank)

end LogLevel

/-! ## Entries -/

inductive LogEntry
  /-- a descriptor passed its checks -/
  | described (name : String) (version spatial global : Nat) (layout : ScoreLayout)
  /-- a context was made -/
  | configured (accelerator : Accelerator)
  /-- a handle is being made -/
  | bound (name : String) (x y rows : Nat) (accelerator : Accelerator) (options : Options)
  /-- an arena is being allocated -/
  | sized (name : String) (rows x y bytes : Nat)
  /-- a provider failed on a batch -/
  | inferenceFailed (name : String) (batch : Nat) (message : String)
  /-- an engine could not load the model -/
  | loadFailed (name message : String)
  /-- an engine loaded the model -/
  | loaded (name : String) (version : Nat) (accelerator : Accelerator) (rows : Nat)
  /-- an engine answered; the measured time is left as a number sign -/
  | predicted
  /-- a tensor of an answer is not decoded -/
  | ignored (name : String)
deriving DecidableEq

namespace LogEntry

def level : LogEntry → LogLevel
  | described .. | bound .. | sized .. | predicted => .debug
  | configured .. | loaded .. => .info
  | inferenceFailed .. | loadFailed .. => .error
  | ignored .. => .trace

def text : LogEntry → String
  | described name version spatial global layout =>
    s!"model {name}: version {version}, {spatial} spatial / {global} global input channels, " ++ layout.name
  | configured accelerator => "backend: " ++ accelerator.name
  | bound name x y rows accelerator options =>
    s!"handle for {name}: {x}x{y}, max batch {rows}, " ++ accelerator.name ++ " " ++ options.text
  | sized name rows x y bytes => s!"allocating batch buffers for {name}: {rows} rows of {x}x{y}, {bytes} bytes"
  | inferenceFailed name batch message => s!"inference failed for {name} (batch of {batch}): {message}"
  | loadFailed name message => s!"failed to load model {name}: {message}"
  | loaded name version accelerator rows =>
    s!"loaded {name} (version {version}) on " ++ accelerator.name ++ s!", max batch {rows}"
  | predicted => "predict time(ms): #"
  | ignored name => s!"ignoring output {name}"

end LogEntry

/-- the entries that are shown -/
def visible (v : Verbosity) (log : List LogEntry) : List LogEntry := log.filter fun e => e.level.shownAt v

/-- a value together with the entries listed while it was made -/
structure Logged (α : Type) where
  log : List LogEntry
  value : α

end BatchEval
