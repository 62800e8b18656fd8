/-!
# Replies

What an operation of a script gives back.
-/

namespace ResultsBoard

/-- Nothing, a yes or no, or a count. -/
inductive Reply where
  | nothing
  | flag (b : Bool)
  | count (n : Nat)
  deriving DecidableEq, Repr

namespace Reply

variable {σ : Type}

/-- A state with a yes or no. -/
def ofFlag (p : σ × Bool) : σ × Reply := (p.1, .flag p.2)

/-- A state with a count. -/
def ofCount (p : σ × Nat) : σ × Reply := (p.1, .count p.2)

end Reply

end ResultsBoard
