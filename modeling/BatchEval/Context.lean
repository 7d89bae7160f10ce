/-
Process-wide settings shared by the handles made from them.

- `Config.ofLookup`: settings from any source of key and value, which is asked for one key only; it may be asked in any
  monad, so a source that remembers what it was asked is one too.
- `Context.ofConfig`: a context, whose accelerator is logged.
-/
import BatchEval.Log

namespace BatchEval

/-- the settings -/
structure Config where
  accelerator : Accelerator := .cpu
deriving DecidableEq

namespace Config

/-- the key that names the accelerator -/
def acceleratorKey : String := "backend"

/-- the settings that a value of the accelerator key asks for; without a value the default stays -/
def ofValue : Option String → Except UnknownAccelerator Config
  | none => .ok {}
  | some text => (Accelerator.parse text).map fun accelerator => { accelerator }

/-- the settings read from a source -/
def ofLookup {m : Type → Type} [Monad m] (ask : String → m (Option String)) : m (Except UnknownAccelerator Config) :=
  ofValue <$> ask acceleratorKey

end Config

/-- settings in use -/
structure Context where
  config : Config
deriving DecidableEq

namespace Context

def accelerator (c : Context) : Accelerator := c.config.accelerator

def ofConfig (config : Config) : Logged Context := ⟨[.configured config.accelerator], ⟨config⟩⟩

/-- the context of the default settings -/
def default : Logged Context := ofConfig {}

end Context

end BatchEval
