import ResultsBoard.Series.Trace

/-!
# The extent of a chart

A chart shows all finite points of its traces. `Bounds.ofTraces` is the smallest rectangle around
them, wider by a tenth of its height above and below; a rectangle without height gets one unit
above and below, one without width one unit left and right.
-/

namespace ResultsBoard.Chart

open Series

/-- The data that a chart shows (`ChartBounds`): a rectangle. -/
structure Bounds where
  xMin : Float
  xMax : Float
  yMin : Float
  yMax : Float

/-- Whether both coordinates are finite. -/
def isFinitePoint (p : Float × Float) : Bool := p.1.isFinite && p.2.isFinite

/-- The finite points of all traces, trace by trace. -/
def finitePoints (traces : List Trace) : List (Float × Float) :=
  (traces.flatMap Trace.points).filter isFinitePoint

/-- The lesser of two finite numbers, the second one if neither is less: of two zeros with
different signs, too. -/
def lesser (a b : Float) : Float := if a < b then a else b

/-- The greater of two finite numbers, the second one if neither is greater: of two zeros with
different signs, too. -/
def greater (a b : Float) : Float := if b < a then a else b

example : (lesser 0.0 (-0.0)).toBits = (-0.0 : Float).toBits := by decide
example : (greater 0.0 (-0.0)).toBits = (-0.0 : Float).toBits := by decide

namespace Bounds

/-- The rectangle of a single point. -/
def ofPoint (p : Float × Float) : Bounds := ⟨p.1, p.1, p.2, p.2⟩

/-- The smallest rectangle that also holds a point. -/
def stretch (b : Bounds) (p : Float × Float) : Bounds :=
  ⟨lesser b.xMin p.1, greater b.xMax p.1, lesser b.yMin p.2, greater b.yMax p.2⟩

/-- The smallest rectangle around some points. -/
def ofPoints : List (Float × Float) → Option Bounds
  | [] => none
  | p :: ps => some (ps.foldl stretch (ofPoint p))

/-- Room above and below. -/
def padVertically (b : Bounds) : Bounds :=
  let height := b.yMax - b.yMin
  let room := if 0.0 < height then height * 0.1 else 1.0
  { b with yMin := b.yMin - room, yMax := b.yMax + room }

/-- A rectangle without width becomes two units wide. -/
def widen (b : Bounds) : Bounds :=
  if b.xMin == b.xMax then { b with xMin := b.xMin - 1.0, xMax := b.xMax + 1.0 } else b

/-- The extent of a chart (`ChartBounds::from_series`); nothing if there is no finite point. -/
def ofTraces (traces : List Trace) : Option Bounds :=
  (ofPoints (finitePoints traces)).map fun b => b.padVertically.widen

end Bounds

end ResultsBoard.Chart
