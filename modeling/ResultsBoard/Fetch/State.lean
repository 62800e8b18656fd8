import ResultsBoard.Fetch.Failure

/-!
# The state of a request

What a widget or a panel shows of a request: that it is under way, what it brought, or why it
failed.
-/

namespace ResultsBoard.Fetch

/-- A request under way, a result, or a failure (`FetchState`). -/
inductive State (α : Type) where
  | loading
  | ready (value : α)
  | failed (failure : Failure)
  deriving BEq, Repr

namespace State

variable {α β : Type}

instance : Inhabited (State α) := ⟨loading⟩

/-- The state after a request has ended. -/
def ofResult : Except Failure α → State α
  | .ok value => ready value
  | .error failure => failed failure

/-- Whether the request is under way (`FetchState::is_loading`). -/
def isLoading : State α → Bool
  | loading => true
  | _ => false

/-- The result, if there is one (`FetchState::ready`). -/
def ready? : State α → Option α
  | ready value => some value
  | _ => none

/-- The failure, if there is one (`FetchState::error`). -/
def failure? : State α → Option Failure
  | failed failure => some failure
  | _ => none

/-- Apply a function to the result (`FetchState::map`). -/
def map (f : α → β) : State α → State β
  | loading => loading
  | ready value => ready (f value)
  | failed failure => failed failure

end State

end ResultsBoard.Fetch
