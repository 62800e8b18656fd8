import ResultsBoard.Chart.Bounds

/-!
# Where the data is drawn

The plot area is the canvas without its margins. Data is mapped to it linearly; on a canvas the
vertical axis points down.
-/

namespace ResultsBoard.Chart

/-- A rectangle of the canvas, in pixels (`PlotArea`). -/
structure Area where
  left : Float
  top : Float
  width : Float
  height : Float

/-- The margins of a chart, in pixels. -/
def marginLeft : Float := 60.0
@[inherit_doc marginLeft]
def marginRight : Float := 20.0
@[inherit_doc marginLeft]
def marginTop : Float := 20.0
@[inherit_doc marginLeft]
def marginBottom : Float := 40.0

/-- A number, but at least one; also for what is not a number. -/
def atLeastOne (x : Float) : Float := if 1.0 < x then x else 1.0

namespace Area

/-- The plot area of a canvas (`PlotArea::for_canvas`). It is at least one pixel wide and high. -/
def ofCanvas (width height : Float) : Area where
  left := marginLeft
  top := marginTop
  width := atLeastOne (width - marginLeft - marginRight)
  height := atLeastOne (height - marginTop - marginBottom)

/-- The pixel of a data point (`PlotArea::project`). -/
def project (a : Area) (b : Bounds) (p : Float × Float) : Float × Float :=
  (a.left + (p.1 - b.xMin) / (b.xMax - b.xMin) * a.width,
    a.top + (b.yMax - p.2) / (b.yMax - b.yMin) * a.height)

end Area

end ResultsBoard.Chart
