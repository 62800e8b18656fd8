import ResultsBoard.Chart.Draw
import ResultsBoard.Fetch.State
import ResultsBoard.Plots
import ResultsBoard.Series.Dataset

/-!
# Widgets

A widget shows one plot: the state of its dataset, the traces that follow from it, and a canvas.
The canvas is there as soon as the widget has been placed on the page. Every operation gives the
widget after it and the drawings that it makes. The chart is drawn again when the traces change,
when the canvas is placed and when the canvas gets another size; nothing else draws.
-/

namespace ResultsBoard

open Fetch Series

/-- One pass of drawing: the element, the size of its canvas, and what is drawn. -/
structure Drawing where
  target : String
  canvas : Chart.Canvas
  traces : List Trace

/-- The calls of a drawing. -/
def Drawing.calls (d : Drawing) : List Chart.Call := Chart.draw d.canvas d.traces

/-- The traces of a dataset that has arrived; until then there are none. -/
def shownTraces (dataset : State Dataset) : List Trace :=
  (dataset.ready?.map Dataset.traces).getD []

/-- A widget (`PlotWidget`). Its identity is the token of its subscription to the resize hub. -/
structure Widget where
  token : Nat
  entry : PlotEntry
  dataset : State Dataset := .loading
  traces : List Trace := []
  canvas : Option Chart.Canvas := none

namespace Widget

/-- The plot that the widget shows. -/
def plot (w : Widget) : PlotId := w.entry.id

/-- The names of the traces, for the legend. -/
def names (w : Widget) : List String := w.traces.map Trace.name

/-- Fit the canvas to its container and draw the chart. -/
def redraw (w : Widget) (container : Int × Int) : Widget × List Drawing :=
  match w.canvas with
  | none => (w, [])
  | some canvas =>
    let canvas := (canvas.fit (some container)).1
    ({ w with canvas := some canvas }, [⟨w.entry.renderTarget, canvas, w.traces⟩])

/-- The dataset has got another state. Traces that are equal to the ones before are kept, and
nothing is drawn. -/
def setDataset (w : Widget) (container : Int × Int) (dataset : State Dataset) :
    Widget × List Drawing :=
  let w := { w with dataset }
  let traces := shownTraces dataset
  if traces == w.traces then (w, []) else { w with traces }.redraw container

/-- The canvas has been placed into a container. It is placed only once. -/
def place (w : Widget) (container : Int × Int) : Widget × List Drawing :=
  match w.canvas with
  | none => { w with canvas := some .unsized }.redraw container
  | some _ => (w, [])

/-- The container may have got another size: draw the chart again if the canvas had to be
fitted. -/
def refit (w : Widget) (container : Int × Int) : Widget × List Drawing :=
  match w.canvas with
  | none => (w, [])
  | some canvas =>
    let (canvas, changed) := canvas.fit (some container)
    if changed then
      ({ w with canvas := some canvas }, [⟨w.entry.renderTarget, canvas, w.traces⟩])
    else (w, [])

end Widget

end ResultsBoard
