/-!
# Views

A view is a list of nodes: texts, and elements with attributes and children. A button carries the
action that pressing it asks for.
-/

namespace ResultsBoard.View

/-- A text or an element of a page. Actions have the type `α`. -/
inductive Node (α : Type) where
  | text (words : String)
  | element (tag : String) (attributes : List (String × String)) (children : List (Node α))
  | button (cssClass : String) (action : α) (children : List (Node α))

/-- A sequence of nodes. -/
abbrev Nodes (α : Type) := List (Node α)

variable {α : Type}

/-- The nodes of a text: an empty text is no node. -/
def words (s : String) : Nodes α := if s = "" then [] else [.text s]

/-- An element without attributes. -/
def plain (tag : String) (children : Nodes α) : Node α := .element tag [] children

/-- An element with a class. -/
def styled (tag cssClass : String) (children : Nodes α) : Node α :=
  .element tag [("class", cssClass)] children

namespace Node

mutual

/-- The actions of the buttons in a node, in document order. -/
def actions : Node α → List α
  | .text _ => []
  | .element _ _ children => actionsOf children
  | .button _ action children => action :: actionsOf children

/-- The actions of the buttons in some nodes, in document order. -/
def actionsOf : List (Node α) → List α
  | [] => []
  | node :: rest => node.actions ++ actionsOf rest

end

end Node

end ResultsBoard.View
