/-
Which class of device a provider should run on.

- `Accelerator.parse`: reads a name. Blanks at the ends and the case of ASCII letters do not count; anything else does.
- `UnknownAccelerator`: a text that names none, kept as it was given.
-/
import BatchEval.Text.Blank
import BatchEval.Text.Quoted

namespace BatchEval

/-- a class of devices -/
inductive Accelerator
  | cpu
  | gpu
  /-- the provider picks one -/
  | auto
deriving DecidableEq

/-- a text that names no accelerator, as it was given -/
structure UnknownAccelerator where
  text : String
deriving DecidableEq

def UnknownAccelerator.message (e : UnknownAccelerator) : String :=
  "unknown accelerator " ++ Text.quoted e.text ++ " (expected cpu, gpu or auto)"

namespace Accelerator

def name : Accelerator → String
  | cpu => "cpu"
  | gpu => "gpu"
  | auto => "auto"

/-- the text that names are compared by: no blanks at the ends, ASCII letters small -/
def normalized (s : String) : String := String.ofList ((Text.trimList s.toList).map Char.toLower)

/-- reads a name; some predictors call their GPU path by the name of the interface they use -/
def parse (s : String) : Except UnknownAccelerator Accelerator :=
  match normalized s with
  | "cpu" => .ok cpu
  | "gpu" | "cuda" | "webgl" => .ok gpu
  | "auto" => .ok auto
  | _ => .error ⟨s⟩

end Accelerator

end BatchEval
