/-
How a sweep writes its measurements: a rate with a suffix for thousands and millions, and columns set to the right.

- `throughput`: the text of a rate.
- `rowText`: one line of the table.
-/
import BatchEval.Decimal.Fixed

namespace BatchEval.Bench

/-- a rate per second; thousands have one place, millions two, smaller rates none -/
def throughput (perSecond : Float) : String :=
  if perSecond ≥ 1000000.0 then Decimal.fixed 2 (perSecond / 1000000.0).toBits ++ "M"
  else if perSecond ≥ 1000.0 then Decimal.fixed 1 (perSecond / 1000.0).toBits ++ "k"
  else Decimal.fixed 0 perSecond.toBits

/-- the text set to the right of a column -/
def alignRight (width : Nat) (s : String) : String :=
  String.ofList (List.replicate (width - s.length) ' ') ++ s

/-- a line of the table from its three columns -/
def columns (batch call rate : String) : String :=
  "  " ++ alignRight 6 batch ++ " " ++ alignRight 12 call ++ " " ++ alignRight 12 rate

/-- the line of a batch size, from the seconds that one call took -/
def rowText (batch : Nat) (perCall : Float) : String :=
  columns (toString batch) (Decimal.fixed 1 (perCall * 1000000.0).toBits) (throughput (batch.toFloat / perCall))

/-- the two lines above the table -/
def tableHead : List String := [columns "batch" "call_µs" "rows/s", "  " ++ String.ofList (List.replicate 34 '-')]

end BatchEval.Bench
