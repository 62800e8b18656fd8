import ResultsBoard.Board.Action
import ResultsBoard.View.Notice
import ResultsBoard.View.Skeleton
import ResultsBoard.View.Table

/-!
# The view of the metadata browser

A row of tabs, and below it the content of the tab that is shown.
-/

namespace ResultsBoard.View

open Metadata

/-- The button of a tab (`TabLink`). -/
def tabLink (active link : Tab) : Node Action :=
  let colours :=
    if active = link then "bg-gray-700 text-white" else "text-gray-400 hover:text-white"
  styled "li" "mr-1"
    [.button ("px-4 py-2 rounded-t-lg text-sm font-medium transition-colors " ++ colours)
      (.selectTab link) (words link.label)]

/-- A variable (`VariableGroup`): its name, which folds its table, and the table. It starts
unfolded. -/
def variableGroup (entry : String × Properties) : Node Action :=
  styled "div" "tab-table-item mb-4"
    [.button "font-semibold text-primary-400 hover:underline mb-1" (.foldVariable entry.1)
        (words entry.1),
      table entry.2]

/-- The variables, in order (`VariablesList`). -/
def variablesList (vars : Variables) : Nodes Action :=
  if vars.isEmpty then [styled "p" "text-gray-500 text-sm" (words "No variables")]
  else vars.entries.map variableGroup

/-- The number of bars while the content of a tab is being fetched. -/
def bars : Tab → Nat
  | .model => 3
  | .vars => 5

/-- The content of the tab that is shown. -/
def tabContent (b : Browser) : Nodes Action :=
  match b.activeSection with
  | .loading => [listSkeleton (bars b.tab)]
  | .failed failure => [failurePanel failure (.retry .metadata)]
  | .ready (.model properties) => [table properties]
  | .ready (.vars vars) => variablesList vars

/-- The metadata browser (`MetadataBrowser`). -/
def browser (b : Browser) : Node Action :=
  styled "div" "bg-gray-800 rounded-xl p-4"
    [styled "ul" "flex border-b border-gray-700 mb-4" (Tab.all.map (tabLink b.tab)),
      styled "div" "tab-div max-h-[70vh] overflow-y-auto" (tabContent b)]

end ResultsBoard.View
