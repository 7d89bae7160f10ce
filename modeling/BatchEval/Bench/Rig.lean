/-
What a sweep runs: a handle, the provider without a network, an arena of noise and records to decode into.

- `Noise`: the random inputs; nothing that is written depends on them.
- `provide`: the handle and the provider, or the end of the program.
- `assemble`: the rest, or the end of the program.
- `Rig.round`, `Rig.rounds`: evaluations of one batch size.
-/
import BatchEval.Bench.Args
import BatchEval.Uniform

namespace BatchEval.Bench

/-- an early end of the program -/
structure Exit where
  code : Nat
  message : String
deriving DecidableEq

namespace Exit

/-- the end that a fault makes -/
def ofFault (f : Fault) : Exit := ⟨101, f.message⟩

/-- the end after a refusal -/
def refusal (message : String) : Exit := ⟨1, message⟩

end Exit

/-! ## Noise -/

/-- random inputs: a word for each place of the two packed lanes, and flags -/
structure Noise where
  spatial : Nat → Word
  global : Nat → Word
  flags : Symmetries

namespace Noise

/-- a well mixed number for each place -/
private def mix (place : Nat) : UInt64 :=
  let z := (42 + place.toUInt64) * 0x9e3779b97f4a7c15
  let z := (z ^^^ (z >>> 30)) * 0xbf58476d1ce4e5b9
  let z := (z ^^^ (z >>> 27)) * 0x94d049bb133111eb
  z ^^^ (z >>> 31)

/-- three spatial inputs of ten are one, the others zero; a global input is of magnitude below one -/
def mixed : Noise where
  spatial place := if mix place % 10 < 3 then Word.one else Word.zero
  global place := ⟨(mix place).toUInt32 &&& 0x807fffff ||| 0x3f000000⟩
  flags := ⟨mix 0 % 2 == 0, mix 1 % 2 == 0, mix 2 % 2 == 0⟩

/-- one row of each packed lane, ready to be written -/
def borrow (a : Arena) (r : Nat) : Except Fault Unit := do
  let _ ← a.row .spatial r
  let _ ← a.row .global r
  pure ()

/-- the words of a lane with noise in its first places -/
def noisy (noise : Nat → Word) (places : Nat) (old : Array Word) : Array Word :=
  old.mapIdx fun i w => if i < places then noise i else w

/-- the arena with noise in its first rows, which have to be there, and for flags -/
def fill (z : Noise) (a : Arena) (rows : Nat) : Except Fault Arena := do
  (List.range rows).forM (borrow a)
  pure { a with
    cells :=
      { a.cells with
        spatial := noisy z.spatial (rows * a.counts.spatial) a.cells.spatial
        global := noisy z.global (rows * a.counts.global) a.cells.global }
    symmetries := z.flags }

end Noise

/-! ## The rig -/

/-- all that the evaluations of a sweep use -/
structure Rig where
  handle : Handle
  provider : Uniform
  arena : Arena
  records : List Prediction

/-- the devices that a sweep can run on -/
def devices : List String := [Uniform.provider.name]

def missingDevice (device : String) : String :=
  s!"Device '{device}' not available. Compiled with support for: [" ++
    ", ".intercalate (devices.map Text.quoted) ++ "]"

/-- the handle and the provider that the arguments ask for -/
def provide (args : Args) : Except Exit (Handle × Uniform) := do
  let model ← (Descriptor.ofVersion "bench" args.version).value.mapError fun e => Exit.refusal e.message
  let context := (Context.ofConfig { accelerator := args.accelerator }).value
  let options : Options := { inputsChannelsLast := true }
  let handle ← (Handle.create context model args.maxBatch args.width args.height options).value.mapError Exit.ofFault
  if args.device = Uniform.provider.name then
    let provider ← (Uniform.ofHandle handle).mapError Exit.ofFault
    pure (handle, provider)
  else throw (.refusal (missingDevice args.device))

/-- the rig for a handle and its provider; what is shown of the log decides whether the bytes of the arena are counted -/
def assemble (v : Verbosity) (z : Noise) (handle : Handle) (provider : Uniform) (ownership : Bool) : Except Exit Rig := do
  let blank ← (Arena.ofHandle v handle).value.mapError Exit.ofFault
  let arena ← (z.fill blank handle.rows).mapError Exit.ofFault
  let records ← (Prediction.blankBatch handle ownership).mapError Exit.ofFault
  pure { handle, provider, arena, records }

namespace Rig

/-- one evaluation -/
def round (r : Rig) (batch : Nat) : Except Exit Rig :=
  let e := evaluate Uniform.provider r.provider r.handle r.arena batch r.records
  match e.outcome with
  | .ok () => .ok { r with provider := e.state, records := e.records }
  | .error (.refused error) => .error (.refusal s!"batch {batch}: {error.message}")
  | .error (.fault f) => .error (.ofFault f)

/-- evaluations one after the other -/
def rounds (batch : Nat) : Nat → Rig → Except Exit Rig
  | 0, r => .ok r
  | count + 1, r =>
    match r.round batch with
    | .error e => .error e
    | .ok r => rounds batch count r

end Rig

end BatchEval.Bench
