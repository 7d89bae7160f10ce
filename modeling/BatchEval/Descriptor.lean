/-
The static description of a model: its name, its format version and its channel counts, checked against each other.

- `Descriptor.check`, `Descriptor.declare`: the only way to a descriptor; the first count that does not fit is named.
- `Descriptor.ofVersion`, `Descriptor.ofName`: descriptors whose counts come from the version table.
-/
import BatchEval.Channels
import BatchEval.Log

namespace BatchEval

def oldestVersion : Nat := 3

def newestVersion : Nat := 10

/-- the version assumed when only the name of a model is known -/
def defaultVersion : Nat := 5

/-- why a description is refused -/
inductive DescriptorError
  | unsupportedVersion (name : String) (version : Nat)
  | channelMismatch (name : String) (version : Nat) (kind : ChannelKind) (expected actual : Nat)
  | miscTooNarrow (name : String) (misc score : Nat)
deriving DecidableEq

def DescriptorError.message : DescriptorError → String
  | unsupportedVersion name version =>
    s!"model {name}: unsupported format version {version} (supported {oldestVersion}..={newestVersion})"
  | channelMismatch name version kind expected actual =>
    s!"model {name}: version {version} expects {expected} " ++ kind.label ++ s!" channels, found {actual}"
  | miscTooNarrow name misc score => s!"model {name}: {misc} misc value channels cannot hold {score} score channels"

/-- a checked description of a model -/
structure Descriptor where
  name : String
  version : Nat
  layout : ScoreLayout
  channels : Channels
  fits : channels.Fits version layout
deriving DecidableEq

namespace Descriptor

/-- checks declared counts against the version -/
def check (name : String) (version : Nat) (c : Channels) : Except DescriptorError Descriptor :=
  match hl : ScoreLayout.ofVersion version, ht : Channels.ofVersion version with
  | some layout, some table =>
    match hk : Channels.mismatch? table layout c with
    | some k => .error (.channelMismatch name version k (Channels.expected table layout k) (c.count k))
    | none =>
      if hm : c.misc < c.score then .error (.miscTooNarrow name c.misc c.score)
      else .ok ⟨name, version, layout, c, hl, ⟨table, ht, Channels.mismatch?_eq_none.1 hk⟩, Nat.le_of_not_lt hm⟩
  | _, _ => .error (.unsupportedVersion name version)

/-- the entry that tells of a checked description -/
def entry (d : Descriptor) : LogEntry := .described d.name d.version d.channels.spatial d.channels.global d.layout

/-- checks declared counts and tells of the descriptor -/
def declare (name : String) (version : Nat) (c : Channels) : Logged (Except DescriptorError Descriptor) :=
  match check name version c with
  | .error e => ⟨[], .error e⟩
  | .ok d => ⟨[d.entry], .ok d⟩

/-- the descriptor with every count taken from the version table -/
def ofVersion (name : String) (version : Nat) : Logged (Except DescriptorError Descriptor) :=
  match Channels.ofVersion version with
  | none => ⟨[], .error (.unsupportedVersion name version)⟩
  | some c => declare name version c

/-- the descriptor of a model known by its name only -/
def ofName (name : String) : Logged (Except DescriptorError Descriptor) := ofVersion name defaultVersion

end Descriptor

end BatchEval
