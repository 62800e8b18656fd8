import ResultsBoard.Fetch.Failure
import ResultsBoard.Json.Reader
import ResultsBoard.Settings.Basic

/-!
# Fetching a resource

A resource is fetched with one request and, as long as the failures may pass by themselves, up to
`Settings.fetchRetries` more. Before further attempt number `n` the fetch waits
`Settings.retryDelay n`. The server is a sequence of answers, of which the fetch uses a beginning.
What happens on the way is recorded in order as events.
-/

namespace ResultsBoard.Fetch

open Json

/-- The resources of the results server. -/
inductive Resource where
  /-- The time series. -/
  | data
  /-- The options document: one entry per variable, and those of the model and of the run. -/
  | options
  /-- The model document. -/
  | model
  deriving DecidableEq, Repr

/-- The path of a resource below the root. -/
def Resource.path : Resource → String
  | data => "get_data"
  | options => "get_options"
  | model => "get_model"

/-- What comes of one request. -/
inductive Answer where
  /-- There was no response. -/
  | unreachable (text : String)
  /-- The server responded. -/
  | response (status : UInt16) (statusText body : String)

/-- What happens in the course of a fetch. -/
inductive Event where
  | logged (line : LogLine)
  | requested (url : String)
  | waited (milliseconds : UInt32)
  deriving DecidableEq, Repr

/-- A fetch that has ended: its result, how many answers it used, and its events. -/
structure Run (α : Type) where
  result : Except Failure α
  used : Nat
  events : List Event

/-- Turn the result of a fetch into something else, or into a failure. -/
def Run.decode {α β : Type} (run : Run α) (f : α → Except Failure β) : Run β :=
  ⟨run.result >>= f, run.used, run.events⟩

/-- The body of an answer as a JSON value (`get_json`). -/
def receive (resource : Resource) : Answer → Except Failure Value
  | .unreachable text => .error (.network text)
  | .response status statusText body =>
    if 200 ≤ status ∧ status ≤ 299 then
      match Value.parse body with
      | .ok value => .ok value
      | .error fault => .error (.parse (resource.path ++ ": " ++ fault.message))
    else .error (.status status statusText)

/-- The events of sending a request. -/
def asking (s : Settings) (resource : Resource) : List Event :=
  let url := s.resourceUrl resource.path
  [.logged (.debug ("GET " ++ url)), .requested url]

/-- The events between failed attempt number `attempt` and the next one. -/
def backingOff (s : Settings) (resource : Resource) (failure : Failure) (attempt : UInt32) :
    List Event :=
  let delay := s.retryDelay attempt
  [.logged (.warn (resource.path ++ " failed (" ++ failure.message ++ "); retry " ++
      toString (attempt + 1).toNat ++ "/" ++ toString s.fetchRetries.toNat ++ " in " ++
      toString delay.toNat ++ "ms")),
    .waited delay]

/-- The attempts from number `attempt` on, counted from zero (`get_with_retry`). -/
def attempts (s : Settings) (resource : Resource) (answers : Nat → Answer) (attempt : UInt32) :
    Run Value :=
  match receive resource (answers attempt.toNat) with
  | .ok value => ⟨.ok value, 1, asking s resource⟩
  | .error failure =>
    if _ : shouldRetry failure attempt s.fetchRetries then
      let rest := attempts s resource answers (attempt + 1)
      ⟨rest.result, rest.used + 1,
        asking s resource ++ backingOff s resource failure attempt ++ rest.events⟩
    else ⟨.error failure, 1, asking s resource⟩
termination_by s.fetchRetries.toNat - attempt.toNat
decreasing_by
  rename_i h
  simp only [shouldRetry, Bool.and_eq_true, decide_eq_true_eq] at h
  have hlt := UInt32.lt_iff_toNat_lt.mp h.2
  have hbound := s.fetchRetries.toNat_lt
  have hsucc : (attempt + 1).toNat = attempt.toNat + 1 := by
    rw [UInt32.toNat_add, UInt32.toNat_one]
    exact Nat.mod_eq_of_lt (by omega)
  omega

/-- Fetch a resource as a JSON value. -/
def get (s : Settings) (resource : Resource) (answers : Nat → Answer) : Run Value :=
  attempts s resource answers 0

end ResultsBoard.Fetch
