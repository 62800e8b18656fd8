/-!
# Traces

A trace is one curve of a chart: two lists of coordinates, a name, and how it is drawn. Only the
pairs that both lists have are points; what one list has more is left out.
-/

namespace ResultsBoard.Series

/-- How a trace is drawn (`SeriesMode`). -/
inductive Mode where
  | lines
  | markers
  | linesMarkers
  deriving DecidableEq, Repr

/-- Whether the points are joined (`SeriesMode::draws_lines`). -/
def Mode.drawsLines : Mode → Bool
  | lines | linesMarkers => true
  | markers => false

/-- Whether the points are marked (`SeriesMode::draws_markers`). -/
def Mode.drawsMarkers : Mode → Bool
  | markers | linesMarkers => true
  | lines => false

/-- One curve (`SeriesDescriptor`). -/
structure Trace where
  name : String
  xs : List Float
  ys : List Float
  mode : Mode
  deriving BEq

namespace Trace

/-- The points, by index (`SeriesDescriptor::points`). -/
def points (t : Trace) : List (Float × Float) := t.xs.zip t.ys

/-- The number of points (`SeriesDescriptor::len`). -/
def size (t : Trace) : Nat := min t.xs.length t.ys.length

/-- Whether there is no point (`SeriesDescriptor::is_empty`). -/
def isEmpty (t : Trace) : Bool := t.size == 0

@[simp] theorem length_points (t : Trace) : t.points.length = t.size := List.length_zip

end Trace

end ResultsBoard.Series
