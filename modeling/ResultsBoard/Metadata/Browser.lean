import ResultsBoard.Fetch.State
import ResultsBoard.Metadata.Document

/-!
# The metadata browser

The browser shows one of two tabs over two documents that are fetched on their own and may arrive
in either order. Every load has a generation number; a result with an older number is dropped, so
that a slow request cannot overwrite what a later load brought.
-/

namespace ResultsBoard.Metadata

open Fetch

/-- The tabs. -/
inductive Tab where
  | model
  | vars
  deriving DecidableEq, Repr, Inhabited

namespace Tab

/-- All tabs, in the order of their buttons. -/
def all : List Tab := [model, vars]

/-- The text on the button (`Tab::label`). -/
def label : Tab → String
  | model => "Model"
  | vars => "Variables"

/-- The other tab (`Tab::toggled`). -/
def toggled : Tab → Tab
  | model => vars
  | vars => model

@[simp] theorem toggled_toggled (t : Tab) : t.toggled.toggled = t := by cases t <;> rfl

end Tab

/-- The content of a tab (`MetadataSection`). -/
inductive Section where
  | model (properties : Properties)
  | vars (vars : Variables)
  deriving BEq

/-- The state of the browser (`MetadataBrowserState`). -/
structure Browser where
  options : State Document := .loading
  model : State Properties := .loading
  tab : Tab := .model
  generation : UInt64 := 0
  deriving BEq

namespace Browser

/-- Show a tab (`MetadataBrowserState::select`). -/
def select (b : Browser) (tab : Tab) : Browser := { b with tab }

/-- Show the other tab (`MetadataBrowserState::toggle`). -/
def toggle (b : Browser) : Browser := { b with tab := b.tab.toggled }

/-- Start a load (`MetadataBrowserState::begin_loading`): a new generation, with both documents
under way. -/
def beginLoading (b : Browser) : Browser :=
  { b with generation := b.generation + 1, options := .loading, model := .loading }

/-- Store the options result of a load (`MetadataBrowserState::apply_options`). Says whether the
load is still the latest; if it is not, nothing changes. -/
def applyOptions (b : Browser) (generation : UInt64) (result : Except Failure Document) :
    Browser × Bool :=
  if generation = b.generation then ({ b with options := .ofResult result }, true) else (b, false)

/-- Store the model result of a load (`MetadataBrowserState::apply_model`); as `applyOptions`. -/
def applyModel (b : Browser) (generation : UInt64) (result : Except Failure Properties) :
    Browser × Bool :=
  if generation = b.generation then ({ b with model := .ofResult result }, true) else (b, false)

/-- The content of the model tab (`MetadataBrowserState::model_properties`). The model document
wins. As long as there is none, the model entry of the options document stands in for it. The tab
has failed when both have. -/
def modelProperties (b : Browser) : State Properties :=
  match b.model, b.options with
  | .ready properties, _ => .ready properties
  | _, .ready document => .ready document.model
  | .failed failure, .failed _ => .failed failure
  | _, _ => .loading

/-- The content of the variables tab (`MetadataBrowserState::variables`). -/
def vars (b : Browser) : State Variables := b.options.map Document.vars

/-- The content of the tab that is shown (`MetadataBrowserState::active_section`). -/
def activeSection (b : Browser) : State Section :=
  match b.tab with
  | .model => b.modelProperties.map .model
  | .vars => b.vars.map .vars

end Browser

end ResultsBoard.Metadata
