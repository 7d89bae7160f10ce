/-
The channel counts of a model's inputs and outputs, and the counts that each format version fixes.

- `Channels.ofVersion`: the table of the supported versions.
- `Channels.Fits`: what a declared list of counts must satisfy; decoding relies on these facts and checks none of them.
- `Channels.mismatch?_eq_none`: the search for the first wrong count finds none exactly when there is none.
-/
import BatchEval.ScoreLayout

namespace BatchEval

/-- win, loss, no result -/
def valueChannels : Nat := 3

def ownershipChannels : Nat := 1

/-- channel counts of every input and output of a model -/
structure Channels where
  spatial : Nat
  global : Nat
  value : Nat
  ownership : Nat
  score : Nat
  misc : Nat
deriving DecidableEq

/-- a count that the version fixes -/
inductive ChannelKind
  | spatial
  | global
  | value
  | ownership
  | score
deriving DecidableEq

namespace ChannelKind

/-- the kinds in the order of the checks -/
def all : List ChannelKind := [spatial, global, value, ownership, score]

def label : ChannelKind → String
  | spatial => "spatial input"
  | global => "global input"
  | value => "value"
  | ownership => "ownership"
  | score => "score value"

end ChannelKind

namespace Channels

/-- the declared count of a kind -/
def count (c : Channels) : ChannelKind → Nat
  | .spatial => c.spatial
  | .global => c.global
  | .value => c.value
  | .ownership => c.ownership
  | .score => c.score

/-- a row of the version table, from its spatial, global, score and misc counts -/
private def row (spatial global score misc : Nat) : Option Channels :=
  some ⟨spatial, global, valueChannels, ownershipChannels, score, misc⟩

/-- the counts of a version, none for an unsupported one -/
def ofVersion : Nat → Option Channels
  | 3 => row 22 14 1 1
  | 4 => row 22 14 2 2
  | 5 => row 22 14 2 6
  | 6 => row 22 16 2 6
  | 7 | 8 | 9 | 10 => row 22 19 2 6
  | _ => none

/-- the count of a kind that a version asks for -/
def expected (table : Channels) (layout : ScoreLayout) : ChannelKind → Nat
  | .spatial => table.spatial
  | .global => table.global
  | .value => valueChannels
  | .ownership => ownershipChannels
  | .score => layout.channels

/-- the first kind whose declared count differs from the expected one -/
def mismatch? (table : Channels) (layout : ScoreLayout) (c : Channels) : Option ChannelKind :=
  ChannelKind.all.find? fun k => expected table layout k != c.count k

theorem mismatch?_eq_none {table : Channels} {layout : ScoreLayout} {c : Channels} :
    mismatch? table layout c = none ↔ ∀ k, c.count k = expected table layout k := by
  simp only [mismatch?, List.find?_eq_none, bne_iff_ne, ne_eq, Decidable.not_not]
  refine ⟨?_, ?_⟩
  · intro h k
    exact (h k (by cases k <;> decide)).symm
  · intro h k _
    exact (h k).symm

/-- declared counts that fit a version -/
structure Fits (version : Nat) (layout : ScoreLayout) (c : Channels) : Prop where
  layout_eq : ScoreLayout.ofVersion version = some layout
  count_eq : ∃ table, ofVersion version = some table ∧ ∀ k, c.count k = expected table layout k
  score_le_misc : c.score ≤ c.misc

end Channels

end BatchEval
