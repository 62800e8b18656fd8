import ResultsBoard.Board.Loading
import ResultsBoard.Board.Membership
import ResultsBoard.View.Page

/-!
# Parts of the board

The whole page, or a part of it on its own. Mounting a part sets up what it needs of the board;
its view follows from the board. A part that is mounted `promptly` has its fetches run to their
end before the next part is mounted.
-/

namespace ResultsBoard

open Metadata

/-- What can be shown. -/
inductive Part where
  | properties (properties : Properties)
  | failure (failure : Fetch.Failure)
  | chartSkeleton
  | listSkeleton (bars : Nat)
  | legend (names : List String)
  | toast
  /-- The metadata browser. -/
  | browser
  /-- A widget that stands alone, and whether it can be asked to go. -/
  | widget (id : PlotId) (canRemove : Bool)
  /-- The column of plots. -/
  | plots
  | dashboard
  /-- The whole page at a path of the site. -/
  | page (path : String)

/-- The path of the dashboard. -/
def rootPath : String := "/"

namespace Board

/-- Mount the column of plots with its first plot (`PlotCollectionPanel`). -/
def mountPlots (b : Board) : Board := b.setPlots .initial

/-- Listen to the window. -/
def listen (b : Board) : Board := { b with listening := true }

/-- What happens between parts: nothing, or all fetches under way run to their end. -/
def pause (b : Board) (promptly : Bool) : Board := if promptly then b.settleAll else b

/-- Mount the dashboard (`Dashboard`). -/
def mountDashboard (b : Board) (tab : Tab) (promptly : Bool) : Board :=
  ((b.listen.mountBrowser tab).pause promptly).mountPlots.pause promptly

/-- Mount a part; a metadata browser in it starts with the given tab. -/
def mount (b : Board) (part : Part) (tab : Tab) (promptly : Bool) : Board :=
  match part with
  | .browser => (b.mountBrowser tab).pause promptly
  | .widget id _ => (b.mountWidget (.ofId id)).pause promptly
  | .plots => b.mountPlots.pause promptly
  | .dashboard => b.mountDashboard tab promptly
  | .page path =>
    let b := b.log ⟨.info, "dashboard starting against " ++ b.settings.apiBase⟩
    if path = rootPath then b.mountDashboard tab promptly else b
  | .properties _ | .failure _ | .chartSkeleton | .listSkeleton _ | .legend _ | .toast => b

/-- Unmount everything. What has been started goes on, and the toast stays. -/
def unmount (b : Board) : Board :=
  { b.widgets.foldl unmountWidget b with browser := none, plots := none, listening := false }

/-- The view of the metadata browser, if it is mounted. -/
def browserView (b : Board) : View.Nodes Action := b.browser.toList.map View.browser

/-- The view of the column of plots, if it is mounted. -/
def plotsView (b : Board) : View.Nodes Action :=
  b.plots.toList.map fun plots => View.plots plots.canRemove b.widgets

/-- The view of the dashboard. -/
def dashboardView (b : Board) : View.Node Action := View.dashboard b.browserView b.plotsView

/-- The view of a part. -/
def view (b : Board) : Part → View.Nodes Action
  | .properties properties => [View.table properties]
  | .failure failure => [View.failurePanel failure .retryAlone]
  | .chartSkeleton => [View.chartSkeleton]
  | .listSkeleton bars => [View.listSkeleton bars]
  | .legend names => [View.legend names]
  | .toast => [View.toast b.toast.message .dismissToast]
  | .browser => b.browserView
  | .widget _ canRemove => b.widgets.map (View.widget canRemove)
  | .plots => b.plotsView
  | .dashboard => [b.dashboardView]
  | .page path =>
    [View.page (if path = rootPath then b.dashboardView else View.notFound) b.toast.message]

/-- Press a button. Says whether what it belongs to is mounted; if it is not, nothing happens. -/
def press (b : Board) : Action → Board × Bool
  | .retry load => b.retry load
  | .retryAlone => (b.emit [.retryAsked], true)
  | .addPlot => b.addPlot
  | .removePlot id =>
    if b.widgets.any fun w => w.plot = id then b.removePlot id else (b, false)
  | .selectTab tab => b.selectTab tab
  | .foldVariable _ => (b, b.browser.isSome)
  | .dismissToast => ({ b with toast := b.toast.clear }, true)

end Board

end ResultsBoard
