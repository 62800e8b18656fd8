import ResultsBoard.Fetch.Request
import ResultsBoard.Series.Trace

/-!
# Time series

The data document is an object with a time axis and any number of series, each an array of
numbers. Series keep the order of the document. A sample that is no number is kept as "not a
number", so that the samples after it keep their index.
-/

namespace ResultsBoard.Series

open Json Fetch

/-- A time axis and named series (`TimeSeriesDataset`). -/
structure Dataset where
  time : List Float
  series : List (String × List Float)

/-- The key of the time axis. -/
def timeKey : String := "time"

/-- The sample of something that is no number. -/
def noNumber : Float := 0.0 / 0.0

/-- The samples in a value: one per item of an array, none if it is no array. -/
def samples : Value → List Float
  | .array items => items.map fun item => item.toFloat?.getD noNumber
  | _ => []

namespace Dataset

/-- The dataset in a data document (`TimeSeriesDataset::from_json`). -/
def ofJson : Value → Except Failure Dataset
  | .object members =>
    match Members.get? members timeKey with
    | none => .error (.missingKey timeKey)
    | some time =>
      .ok ⟨samples time,
        (members.filter fun member => member.1 ≠ timeKey).map fun member =>
          (member.1, samples member.2)⟩
  | _ => .error (.parse "dataset must be a JSON object")

/-- One trace per series, over the common time axis (`build_series`). -/
def traces (d : Dataset) : List Trace :=
  d.series.map fun series => ⟨series.1, d.time, series.2, .linesMarkers⟩

end Dataset

/-- Fetch the dataset (`fetch_dataset`). -/
def fetchDataset (s : Settings) (answers : Nat → Answer) : Run Dataset :=
  (Fetch.get s .data answers).decode Dataset.ofJson

end ResultsBoard.Series
