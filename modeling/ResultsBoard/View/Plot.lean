import ResultsBoard.Board.Action
import ResultsBoard.Board.Widget
import ResultsBoard.View.Notice
import ResultsBoard.View.Skeleton

/-!
# The view of a plot

A canvas, what covers it as long as there is no chart, and the legend. The canvas is invisible
while there are no traces.
-/

namespace ResultsBoard.View

variable {α : Type}

/-- The entry of a legend: the colour of a trace and its name. -/
def legendEntry (entry : String × Nat) : Node α :=
  styled "div" "flex items-center space-x-2"
    [.element "div" [("class", "w-3 h-3 rounded-full"),
        ("style", "background-color: " ++ Chart.seriesColor entry.2)] [],
      styled "span" "text-sm text-gray-300" (words entry.1)]

/-- The legend of a chart with traces of the given names (`ChartLegend`). -/
def legend (names : List String) : Node α :=
  styled "div" "flex justify-center flex-wrap gap-4 mt-2" (names.zipIdx.map legendEntry)

/-- The button that removes a plot. -/
def closeButton (id : PlotId) : Node Action :=
  .button ("plot-close absolute top-2 right-2 z-10 px-2 py-0.5 bg-red-600 hover:bg-red-700 " ++
    "rounded text-sm font-bold") (.removePlot id) (words "X")

/-- The canvas of a widget. -/
def canvas (w : Widget) : Node Action :=
  let visibility := if w.traces.isEmpty then " invisible" else ""
  .element "canvas" [("id", w.entry.renderTarget),
    ("class", "absolute inset-0 w-full h-full rounded-lg" ++ visibility)] []

/-- What covers the canvas. -/
def cover (w : Widget) : Nodes Action :=
  match w.dataset with
  | .loading => [styled "div" "absolute inset-0" [chartSkeleton]]
  | .failed failure =>
    [styled "div" "absolute inset-0" [failurePanel failure (.retry (.plot w.token))]]
  | .ready dataset =>
    if dataset.series.isEmpty then
      [styled "div" "absolute inset-0 flex items-center justify-center text-gray-500"
        (words "No series to plot")]
    else []

/-- A widget (`PlotWidget`); with a button to remove its plot if it may be removed. -/
def widget (canRemove : Bool) (w : Widget) : Node Action :=
  styled "div" "plot-div relative bg-gray-800 rounded-xl p-4" <|
    (if canRemove then [closeButton w.plot] else []) ++
      [styled "div" "relative w-full h-80" (canvas w :: cover w), legend w.names]

end ResultsBoard.View
