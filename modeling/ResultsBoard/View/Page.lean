import ResultsBoard.View.Browser
import ResultsBoard.View.Plot

/-!
# The view of the page

The page has a heading, the dashboard and the toast. The dashboard is the metadata browser beside
the column of plots. It lives at the root of the site; any other path shows a way back.
-/

namespace ResultsBoard.View

/-- The style of the buttons and links that lead on. -/
def leading : String :=
  "bg-primary-600 hover:bg-primary-700 rounded-lg font-medium transition-colors"

/-- The column of plots, and the button that adds one (`PlotCollectionPanel`). -/
def plots (canRemove : Bool) (widgets : List Widget) : Node Action :=
  styled "div" "space-y-4"
    [styled "div" "plots-div space-y-4" (widgets.map (widget canRemove)),
      .button ("px-4 py-2 " ++ leading) .addPlot (words "Add Plot")]

/-- The dashboard (`Dashboard`): the metadata browser beside the plots. -/
def dashboard (metadata plots : Nodes Action) : Node Action :=
  styled "div" "grid md:grid-cols-12 gap-6"
    [styled "aside" "md:col-span-3" metadata, styled "section" "md:col-span-9" plots]

/-- What a path without a page shows (`NotFound`). -/
def notFound : Node Action :=
  styled "div" "flex flex-col items-center justify-center min-h-[60vh] text-center"
    [styled "h2" "text-2xl font-bold mb-2" (words "Page Not Found"),
      styled "p" "text-gray-400 mb-6" (words "The results dashboard lives at the site root."),
      .element "a" [("href", "/"), ("class", "px-6 py-3 " ++ leading)]
        (words "Go to Dashboard")]

/-- The page around its content (`App`). -/
def page (content : Node Action) (message : Option String) : Node Action :=
  styled "div" "min-h-screen bg-gray-900 text-white"
    [styled "main" "container mx-auto px-4 py-8"
        [styled "h1" "text-3xl font-bold mb-6" (words "GEKKO Optimization Results"), content],
      toast message .dismissToast]

end ResultsBoard.View
