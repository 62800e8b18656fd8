import ResultsBoard.Fetch.Request
import ResultsBoard.Json.Printer

/-!
# Metadata documents

The options document is split in two: the properties of the model, which stand under one reserved
key, and one set of properties for every key that is not reserved. Both keep the order of the
document.
-/

namespace ResultsBoard.Metadata

open Json Fetch

/-- Named values in document order (`PropertySet`). -/
structure Properties where
  entries : List (String × Value) := []
  deriving BEq

/-- The cell of a table for a value (`display_value`): nothing for null, a text as it is, JSON for
all else. -/
def displayValue : Value → String
  | .null => ""
  | .text s => s
  | other => other.render

namespace Properties

/-- The name of the only row of a value that is no object. -/
def scalarName : String := "value"

/-- One entry per member of an object (`PropertySet::from_value`); any other value is a single
entry. -/
def ofValue : Value → Properties
  | .object members => ⟨members⟩
  | other => ⟨[(scalarName, other)]⟩

/-- The properties in a model document (`PropertySet::from_json`). -/
def ofJson : Value → Except Failure Properties
  | .object members => .ok ⟨members⟩
  | _ => .error (.parse "model document must be a JSON object")

/-- The value of a property. -/
def get? (p : Properties) (name : String) : Option Value := p.entries.lookup name

/-- The number of properties. -/
def size (p : Properties) : Nat := p.entries.length

/-- Whether there is no property. -/
def isEmpty (p : Properties) : Bool := p.entries.isEmpty

/-- The rows of a table (`PropertySet::rows`): names and cells. -/
def rows (p : Properties) : List (String × String) :=
  p.entries.map fun entry => (entry.1, displayValue entry.2)

end Properties

/-- The properties of each variable, in document order (`VariableSet`). -/
structure Variables where
  entries : List (String × Properties) := []
  deriving BEq

namespace Variables

/-- The properties of a variable. -/
def get? (v : Variables) (name : String) : Option Properties := v.entries.lookup name

/-- The names of the variables. -/
def names (v : Variables) : List String := v.entries.map Prod.fst

/-- The number of variables. -/
def size (v : Variables) : Nat := v.entries.length

/-- Whether there is no variable. -/
def isEmpty (v : Variables) : Bool := v.entries.isEmpty

end Variables

/-- The key of the entry about the run of the solver; it is shown nowhere. -/
def infoKey : String := "INFO"

/-- The key of the properties of the model. -/
def modelKey : String := "APM"

/-- The keys that name no variable. -/
def reservedKeys : List String := [infoKey, modelKey]

/-- Whether a key names no variable (`is_reserved`). -/
def isReserved (key : String) : Bool := reservedKeys.contains key

/-- An options document, split (`MetadataDocument`). -/
structure Document where
  model : Properties := {}
  vars : Variables := {}
  deriving BEq

namespace Document

/-- Split the members of an options document (`MetadataDocument::partition`). -/
def ofMembers (members : Members) : Document where
  model := ((Members.get? members modelKey).map Properties.ofValue).getD {}
  vars :=
    ⟨(members.filter fun member => !isReserved member.1).map fun member =>
      (member.1, Properties.ofValue member.2)⟩

/-- The parts of an options document (`MetadataDocument::from_json`). -/
def ofJson : Value → Except Failure Document
  | .object members => .ok (ofMembers members)
  | _ => .error (.parse "options document must be a JSON object")

end Document

/-- Fetch the options document (`fetch_options`). -/
def fetchOptions (s : Settings) (answers : Nat → Answer) : Run Document :=
  (Fetch.get s .options answers).decode Document.ofJson

/-- Fetch the model document (`fetch_model`). -/
def fetchModel (s : Settings) (answers : Nat → Answer) : Run Properties :=
  (Fetch.get s .model answers).decode Properties.ofJson

end ResultsBoard.Metadata
