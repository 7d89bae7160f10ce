/-
How the misc head of a model encodes its score statistics, decided by the format version.

- `ScoreLayout.ofVersion`: the layout of a version, none for an unsupported one.
- `ScoreLayout.channels`: the score channels a model with this layout declares.
-/

namespace BatchEval

/-- the score encoding of a misc row -/
inductive ScoreLayout
  /-- the first channel is the mean; its square stands for the mean of squares -/
  | meanOnly
  /-- the first channel is the mean, the second the mean of squares -/
  | meanAndSecondMoment
deriving DecidableEq

namespace ScoreLayout

def ofVersion : Nat → Option ScoreLayout
  | 3 => some meanOnly
  | 4 | 5 | 6 | 7 | 8 | 9 | 10 => some meanAndSecondMoment
  | _ => none

/-- the number of score channels -/
def channels : ScoreLayout → Nat
  | meanOnly => 1
  | meanAndSecondMoment => 2

/-- the name that messages use -/
def name : ScoreLayout → String
  | meanOnly => "MeanOnly"
  | meanAndSecondMoment => "MeanAndSecondMoment"

theorem channels_pos (l : ScoreLayout) : 0 < l.channels := by cases l <;> decide

end ScoreLayout

end BatchEval
