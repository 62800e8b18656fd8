import ResultsBoard.Fetch.Failure
import ResultsBoard.View.Node

/-!
# Notices

What tells of a failure: the panel that stands in for something that could not be fetched, and
the toast.
-/

namespace ResultsBoard.View

variable {α : Type}

/-- A failure, and a button to try again (`ErrorPanel`). -/
def failurePanel (failure : Fetch.Failure) (retry : α) : Node α :=
  .element "div" [("class", "flex flex-col items-center justify-center py-8 space-y-3 text-center"),
      ("role", "alert")]
    [styled "span" "text-red-400 text-sm" (words failure.message),
      .button ("px-4 py-2 bg-gray-700 hover:bg-gray-600 rounded-lg text-sm font-medium " ++
        "transition-colors") retry (words "Retry")]

/-- A message, and a button to dismiss it (`ToastMessage`). -/
def toastMessage (message : String) (dismiss : α) : Node α :=
  styled "div" ("flex items-center space-x-3 bg-red-600 text-white px-4 py-3 rounded-lg " ++
      "shadow-lg animate-slide-in")
    [styled "span" "text-lg" (words "✕"),
      styled "span" "text-sm font-medium" (words message),
      .button "ml-2 text-white/80 hover:text-white" dismiss (words "Dismiss")]

/-- The corner of the screen that shows the toast (`Toast`). -/
def toast (message : Option String) (dismiss : α) : Node α :=
  styled "div" "fixed bottom-4 right-4 z-50 space-y-2"
    (message.toList.map fun m => toastMessage m dismiss)

end ResultsBoard.View
