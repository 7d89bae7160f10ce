/-
The command line of the throughput sweep. The tokens are read from the left: `--ownership` stands alone, every other
option takes the next token as its value whatever it looks like, and a later value of an option replaces an earlier one.

- `Args.parse`: the reader; the leftmost offence decides.
- `ArgError.message`: the wording.
-/
import BatchEval.Accelerator
import BatchEval.Descriptor
import BatchEval.Size
import BatchEval.Text.Natural

namespace BatchEval.Bench

/-- what a sweep is asked to do -/
structure Args where
  width : Nat := 19
  height : Nat := 19
  maxBatch : Nat := 256
  iterations : Nat := 200
  version : Nat := defaultVersion
  device : String := "uniform"
  model : Option String := none
  accelerator : Accelerator := .cpu
  ownership : Bool := false
deriving DecidableEq

/-- an option that takes a value -/
inductive Setting
  | width
  | height
  | maxBatch
  | iterations
  | version
  | device
  | model
  | accelerator
deriving DecidableEq

namespace Setting

def all : List Setting := [width, height, maxBatch, iterations, version, device, model, accelerator]

def name : Setting → String
  | width => "width"
  | height => "height"
  | maxBatch => "max-batch"
  | iterations => "iters"
  | version => "version"
  | device => "device"
  | model => "model"
  | accelerator => "accelerator"

/-- the token that sets the option -/
def token (k : Setting) : String := "--" ++ k.name

/-- the option that a token sets -/
def ofToken? (t : String) : Option Setting := all.find? fun k => k.token == t

theorem ofToken?_token (k : Setting) : ofToken? k.token = some k := by cases k <;> decide

end Setting

/-- the token that asks for ownership maps -/
def ownershipToken : String := "--ownership"

/-- why a command line is refused -/
inductive ArgError
  | unknown (token : String)
  | missingValue (token : String)
  | badNumber (setting : Setting) (e : Text.NumberError)
  | badAccelerator (e : UnknownAccelerator)
deriving DecidableEq

def ArgError.message : ArgError → String
  | unknown token => s!"unknown arg: {token}"
  | missingValue token => s!"{token} needs a value"
  | badNumber setting e => s!"invalid {setting.name}: ParseIntError \x7b kind: {e.name} \x7d"
  | badAccelerator e => "invalid accelerator: AcceleratorParseError(" ++ Text.quoted e.text ++ ")"

namespace Args

/-- the first number that the 32 bits of a version do not hold -/
def versionLimit : Nat := 0x100000000

/-- a number of 64 bits -/
def size (k : Setting) (value : String) : Except ArgError Nat :=
  (Text.Natural.read Size.limit value).mapError (.badNumber k)

/-- gives an option its value -/
def set (a : Args) (k : Setting) (value : String) : Except ArgError Args :=
  match k with
  | .width => (size k value).map fun n => { a with width := n }
  | .height => (size k value).map fun n => { a with height := n }
  | .maxBatch => (size k value).map fun n => { a with maxBatch := n }
  | .iterations => (size k value).map fun n => { a with iterations := n }
  | .version => ((Text.Natural.read versionLimit value).mapError (.badNumber k)).map fun n => { a with version := n }
  | .device => .ok { a with device := value }
  | .model => .ok { a with model := some value }
  | .accelerator => ((Accelerator.parse value).mapError .badAccelerator).map fun x => { a with accelerator := x }

/-- reads tokens on top of what was read before them -/
def parseFrom (a : Args) : List String → Except ArgError Args
  | [] => .ok a
  | token :: rest =>
    if token = ownershipToken then parseFrom { a with ownership := true } rest
    else match Setting.ofToken? token with
      | none => .error (.unknown token)
      | some k => match rest with
        | [] => .error (.missingValue token)
        | value :: rest => match a.set k value with
          | .error e => .error e
          | .ok a => parseFrom a rest

/-- reads a command line -/
def parse (tokens : List String) : Except ArgError Args := parseFrom {} tokens

end Args

end BatchEval.Bench
