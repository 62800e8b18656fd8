import ResultsBoard.Board.Basic

/-!
# Which widgets are mounted

A widget subscribes to the resize hub when it is mounted and ends its subscription when it is
unmounted. The column of plots keeps one widget per plot, in display order, and requests a frame
after every update, so that the widgets can be fitted to the new layout.
-/

namespace ResultsBoard.Board

/-- Mount a widget for a plot, which starts to fetch its dataset (`PlotWidget`). -/
def mountWidget (b : Board) (entry : PlotEntry) : Board :=
  let token := b.hub.nextToken
  let hub := b.hub.subscribe entry.id ()
  let w : Widget := { token, entry }
  let b := { b with hub, widgets := b.widgets ++ [w], loads := b.loads ++ [Load.plot token] }
  let b := b.log (Resize.Registry.subscribedLine entry.id hub.size)
  let b := b.log (.debug ("plot " ++ entry.id.text ++ " mounted"))
  b.spawn (.dataset token entry.id)

/-- Unmount a widget. -/
def unmountWidget (b : Board) (w : Widget) : Board :=
  let hub := b.hub.remove w.token
  let b := { b with hub, widgets := b.widgets.filter fun v => v.token ≠ w.token }
  let b := b.log (Resize.Registry.unsubscribedLine w.plot hub.size)
  b.log (.debug ("plot " ++ w.plot.text ++ " unmounted"))

/-- Unmount the widgets whose plot is gone and mount one for each new plot. -/
def arrange (b : Board) (entries : List PlotEntry) : Board :=
  let gone := b.widgets.filter fun w => w.plot ∉ entries.map PlotEntry.id
  let fresh := entries.filter fun entry => entry.id ∉ b.widgets.map Widget.plot
  fresh.foldl mountWidget (gone.foldl unmountWidget b)

/-- Show an update of the plots (`PlotCollectionPanel`): request a frame and arrange the widgets. -/
def setPlots (b : Board) (plots : Plots) : Board :=
  { b with plots := some plots, frames := b.frames ++ [Frame.mk plots.size] }.arrange plots.entries

/-- Add a plot (`add_plot`). Says whether there is a column to add it to. -/
def addPlot (b : Board) : Board × Bool :=
  match b.plots with
  | none => (b, false)
  | some plots =>
    let (after, id) := plots.add
    let line := .debug ("added plot " ++ id.text ++ " (" ++ toString after.size ++ " total)")
    ((b.log line).setPlots after, true)

/-- Remove a plot, if the column lets it go (`on_remove`); a widget that stands alone only asks to
be removed. Says whether there is someone to ask. -/
def removePlot (b : Board) (id : PlotId) : Board × Bool :=
  match b.plots with
  | some plots =>
    let (after, changed) := plots.remove id
    let line := .debug ("removed plot " ++ id.text ++ " (" ++ toString after.size ++ " left)")
    ((if changed then b.log line else b).setPlots after, true)
  | none =>
    if b.widgets.any fun w => w.plot = id then (b.emit [.removalAsked id], true) else (b, false)

/-- Fit the widget with a token to its container. -/
def refit (token : Nat) (b : Board) : Board := b.modify token fun w => w.refit b.container

/-- Notify the subscribers of the resize hub (`ResizeHub::broadcast`). Gives how many there were. -/
def broadcast (b : Board) : Board × Nat :=
  Resize.pass (fun b token => b.hub.contains token) refit b.hub.tokens b

/-- Run a frame that has been requested. -/
def runFrame (b : Board) (frame : Frame) : Board :=
  let (b, notified) := b.broadcast
  b.log (.debug (toString frame.plots ++ " plots on screen; " ++ toString notified ++ " refitted"))

/-- Run all frames that have been requested. Gives how many there were. -/
def runFrames (b : Board) : Board × Nat :=
  (b.frames.foldl runFrame { b with frames := [] }, b.frames.length)

/-- The canvases that are not on the page yet are placed there. -/
def place (b : Board) : Board :=
  b.widgets.foldl (fun b w => b.modify w.token fun w => w.place b.container) b

/-- The containers get another size and the subscribers of the resize hub are notified. Gives how
many there were. -/
def resizeContainers (b : Board) (container : Int × Int) : Board × Nat :=
  { b with container }.broadcast

/-- The window gets another size and with it the containers. Gives how many listeners the window
had. -/
def resizeWindow (b : Board) (container : Int × Int) : Board × Nat :=
  if b.listening then
    let (b, notified) := b.resizeContainers container
    (b.log (.debug ("viewport resized; " ++ toString notified ++ " plots notified")), 1)
  else ({ b with container }, 0)

end ResultsBoard.Board
