import ResultsBoard.Log
import ResultsBoard.Plots

/-!
# The registry of a resize hub

A registry holds the callbacks that want to hear of a resize, each for a plot and under a token
of its own. Tokens come from a counter and are never used twice, so the subscribers stand in the
order in which they subscribed. `pass` is one round of notifications: it goes through the tokens
of a snapshot and invokes those that are still registered when their turn comes.
-/

namespace ResultsBoard.Resize

/-- A registered callback of type `α`. -/
structure Subscriber (α : Type) where
  token : Nat
  plot : PlotId
  callback : α

/-- The registered callbacks in the order of their tokens, and the next token (`HubInner`). The
counter is the number of subscriptions so far: fewer than `2 ^ 64` of them are meant, as the program
counts them in a word. -/
structure Registry (α : Type) where
  nextToken : Nat := 0
  subscribers : List (Subscriber α) := []

namespace Registry

variable {α : Type}

/-- The number of subscribers. -/
def size (r : Registry α) : Nat := r.subscribers.length

/-- The tokens in use, in ascending order. -/
def tokens (r : Registry α) : List Nat := r.subscribers.map Subscriber.token

/-- The subscriber with a token. -/
def find? (r : Registry α) (token : Nat) : Option (Subscriber α) :=
  r.subscribers.find? fun s => s.token = token

/-- Whether a token is in use. -/
def contains (r : Registry α) (token : Nat) : Bool := (r.find? token).isSome

/-- Register a callback under the next token. -/
def subscribe (r : Registry α) (plot : PlotId) (callback : α) : Registry α :=
  ⟨r.nextToken + 1, r.subscribers ++ [⟨r.nextToken, plot, callback⟩]⟩

/-- Strike out the subscriber with a token. -/
def remove (r : Registry α) (token : Nat) : Registry α :=
  ⟨r.nextToken, r.subscribers.filter fun s => s.token ≠ token⟩

/-- Change the callback under a token. -/
def modify (r : Registry α) (token : Nat) (f : α → α) : Registry α :=
  ⟨r.nextToken, r.subscribers.map fun s =>
    if s.token = token then ⟨s.token, s.plot, f s.callback⟩ else s⟩

/-- The log line of a subscription, after which `live` subscribers are registered. -/
def subscribedLine (plot : PlotId) (live : Nat) : LogLine :=
  .debug ("plot " ++ plot.text ++ " subscribed to resize (" ++ toString live ++ " live)")

/-- The log line of the end of a subscription, after which `live` subscribers are registered. -/
def unsubscribedLine (plot : PlotId) (live : Nat) : LogLine :=
  .debug ("plot " ++ plot.text ++ " unsubscribed from resize (" ++ toString live ++ " live)")

@[simp] theorem tokens_subscribe (r : Registry α) (plot : PlotId) (callback : α) :
    (r.subscribe plot callback).tokens = r.tokens ++ [r.nextToken] := by
  simp [subscribe, tokens]

@[simp] theorem tokens_remove (r : Registry α) (token : Nat) :
    (r.remove token).tokens = r.tokens.filter (· ≠ token) := by
  simp only [remove, tokens, List.filter_map]
  rfl

theorem contains_iff (r : Registry α) (token : Nat) :
    r.contains token = true ↔ token ∈ r.tokens := by
  simp [contains, find?, tokens, List.find?_isSome]

theorem mem_subscribers_of_find? {r : Registry α} {token : Nat} {s : Subscriber α}
    (h : r.find? token = some s) : s ∈ r.subscribers ∧ s.token = token :=
  ⟨List.mem_of_find?_eq_some h, by simpa using List.find?_some h⟩

/-- Striking out a registered token makes the registry smaller. -/
theorem size_remove_lt {r : Registry α} {token : Nat} {s : Subscriber α}
    (h : r.find? token = some s) : (r.remove token).size < r.size := by
  obtain ⟨hmem, rfl⟩ := mem_subscribers_of_find? h
  exact List.length_filter_lt_length_iff_exists.mpr ⟨s, hmem, by simp⟩

end Registry

/-- One round of notifications over a snapshot of tokens, in order: the loop of
`ResizeHub::broadcast`. A token that is no longer `registered` when its turn comes is left out.
Gives the final state and how many callbacks this round invoked; rounds that a callback starts
itself do not count. -/
def pass {σ : Type} (registered : σ → Nat → Bool) (invoke : Nat → σ → σ) : List Nat → σ → σ × Nat
  | [], s => (s, 0)
  | token :: rest, s =>
    if registered s token then
      let (s, count) := pass registered invoke rest (invoke token s)
      (s, count + 1)
    else pass registered invoke rest s

end ResultsBoard.Resize
