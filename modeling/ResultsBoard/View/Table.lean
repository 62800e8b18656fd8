import ResultsBoard.Metadata.Document
import ResultsBoard.View.Node

/-!
# Tables of properties

A table of names and values, with a remark under it when it has no row.
-/

namespace ResultsBoard.View

variable {α : Type}

/-- The head of a table. -/
def tableHead : Node α :=
  plain "thead" [styled "tr" "text-left text-gray-400 border-b border-gray-700"
    [styled "th" "py-1 pr-4" (words "Property"), styled "th" "py-1" (words "Value")]]

/-- One row. -/
def tableRow (row : String × String) : Node α :=
  styled "tr" "border-b border-gray-800 odd:bg-gray-800/50"
    [styled "td" "py-1 pr-4 font-mono" (words row.1), styled "td" "py-1 font-mono" (words row.2)]

/-- The table of some properties (`PropertyTable`). -/
def table (properties : Metadata.Properties) : Node α :=
  let rows := properties.rows
  let remark :=
    if rows.isEmpty then [styled "p" "text-gray-500 text-sm py-2" (words "No properties")] else []
  styled "div" "overflow-x-auto" <|
    styled "table" "w-full text-sm" [tableHead, plain "tbody" (rows.map tableRow)] :: remark

end ResultsBoard.View
