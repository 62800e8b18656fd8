import ResultsBoard.View.Node

/-!
# Skeletons

Grey shapes that hold the place of something that is being fetched.
-/

namespace ResultsBoard.View

variable {α : Type}

/-- The place of a chart (`ChartSkeleton`). -/
def chartSkeleton : Node α :=
  styled "div" "bg-gray-800 rounded-lg p-6 animate-pulse"
    [styled "div" "h-6 bg-gray-700 rounded w-1/4 mb-4" [],
      styled "div" "h-64 bg-gray-700 rounded" []]

/-- The number of bars in the place of a list, if nothing else is said. -/
def defaultBars : Nat := 3

/-- The place of a list (`ListSkeleton`). -/
def listSkeleton (bars : Nat) : Node α :=
  styled "div" "space-y-3 animate-pulse"
    (List.replicate bars (styled "div" "bg-gray-700 rounded h-8" []))

end ResultsBoard.View
