import ResultsBoard.Chart.Area
import ResultsBoard.Chart.Canvas
import ResultsBoard.Chart.Palette
import ResultsBoard.Chart.Tick

/-!
# Drawing a chart

`draw` gives the calls that draw all traces, over whatever was on the canvas: the background, a
grid with the ticks of the vertical axis, the traces in order, and the ticks of the horizontal
axis. Points that are not finite are gaps: they have no marker and interrupt the line. A chart
without a finite point says that it has no data.
-/

namespace ResultsBoard.Chart

open Series

/-- A number as a coordinate. -/
def coordinate (n : UInt32) : Float := n.toFloat

/-- Cover the whole canvas. -/
def backgroundCalls (width height : Float) : List Call :=
  [.fillStyle background, .fillRect 0.0 0.0 width height]

/-- What an empty chart says. -/
def emptyText : String := "No data to plot"

/-- Say that there is nothing to draw. -/
def emptyCalls (width height : Float) : List Call :=
  [.fillStyle emptyColor, .font "16px sans-serif",
    .fillText emptyText (width / 2.0 - 55.0) (height / 2.0)]

/-- The fractions of the area at which ticks stand: none, one to four fifths, all. -/
def tickFractions : List Float := [0.0, 1.0, 2.0, 3.0, 4.0, 5.0].map (· / 5.0)

/-- One line of the grid with its tick. -/
def gridLineCalls (a : Area) (b : Bounds) (fraction : Float) : List Call :=
  let y := a.top + fraction * a.height
  let value := b.yMax - fraction * (b.yMax - b.yMin)
  [.beginPath, .moveTo (a.left, y), .lineTo (a.left + a.width, y), .stroke,
    .fillStyle tickColor, .fillText (tickText value) 5.0 (y + 4.0)]

/-- The grid and the ticks of the vertical axis. -/
def gridCalls (a : Area) (b : Bounds) : List Call :=
  [.strokeStyle gridColor, .lineWidth 1.0, .font "12px sans-serif"] ++
    tickFractions.flatMap (gridLineCalls a b)

/-- The path through the points from a state of the pen on: a finite point is joined to the one
before it if the pen is down, and anything else lifts the pen. -/
def pathCalls (a : Area) (b : Bounds) : Bool → List (Float × Float) → List Call
  | _, [] => []
  | penDown, p :: ps =>
    if isFinitePoint p then
      (if penDown then .lineTo (a.project b p) else .moveTo (a.project b p)) ::
        pathCalls a b true ps
    else pathCalls a b false ps

/-- The line of a trace. -/
def lineCalls (a : Area) (b : Bounds) (color : String) (t : Trace) : List Call :=
  [.strokeStyle color, .lineWidth 2.0, .beginPath] ++ pathCalls a b false t.points ++ [.stroke]

/-- Half a turn, to the nearest binary64 number. -/
def pi : Float := 3.141592653589793

/-- The marker of a point. -/
def markerCalls (a : Area) (b : Bounds) (p : Float × Float) : List Call :=
  [.beginPath, .arc (a.project b p) 3.0 0.0 (pi * 2.0), .fill]

/-- The markers of a trace. -/
def markersCalls (a : Area) (b : Bounds) (color : String) (t : Trace) : List Call :=
  .fillStyle color :: (t.points.filter isFinitePoint).flatMap (markerCalls a b)

/-- One trace. -/
def traceCalls (a : Area) (b : Bounds) (index : Nat) (t : Trace) : List Call :=
  (if t.mode.drawsLines then lineCalls a b (seriesColor index) t else []) ++
    (if t.mode.drawsMarkers then markersCalls a b (seriesColor index) t else [])

/-- The traces in order. -/
def tracesCalls (a : Area) (b : Bounds) (traces : List Trace) : List Call :=
  traces.zipIdx.flatMap fun indexed => traceCalls a b indexed.2 indexed.1

/-- One tick of the horizontal axis. -/
def xTickCall (a : Area) (b : Bounds) (height : Float) (fraction : Float) : Call :=
  .fillText (tickText (b.xMin + fraction * (b.xMax - b.xMin)))
    (a.left + fraction * a.width - 15.0) (height - 10.0)

/-- The ticks of the horizontal axis. -/
def xTickCalls (a : Area) (b : Bounds) (height : Float) : List Call :=
  [.fillStyle tickColor, .font "12px sans-serif"] ++ tickFractions.map (xTickCall a b height)

/-- The calls that draw the traces on a canvas (`draw_series`). -/
def draw (canvas : Canvas) (traces : List Trace) : List Call :=
  let width := coordinate canvas.width
  let height := coordinate canvas.height
  let area := Area.ofCanvas width height
  backgroundCalls width height ++
    match Bounds.ofTraces traces with
    | none => emptyCalls width height
    | some bounds =>
      gridCalls area bounds ++ tracesCalls area bounds traces ++ xTickCalls area bounds height

/-- The calls that draw the traces on a canvas that may have no drawing context. -/
def drawOn (context : Context) (canvas : Canvas) (traces : List Trace) : List Call :=
  if context.isUsable then draw canvas traces else []

end ResultsBoard.Chart
