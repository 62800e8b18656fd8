/-!
# The toast

The toast is one message that clears itself after a time. Showing a message starts a timer and
drops the timer of the message before, so that every message stays its full time. A timer that
has been dropped does not run, and one that has run is gone, although the toast still refers to
it.
-/

namespace ResultsBoard

/-- A timer that is going to run: its number and when it is due. -/
structure Timer where
  number : Nat
  due : Nat
  deriving DecidableEq, Repr

/-- The message on the screen and the timers, on a clock in milliseconds: what `GlobalState` keeps
of the toast. -/
structure Toast where
  /-- How long a message stays. -/
  timeout : UInt32
  /-- The message on the screen. -/
  message : Option String := none
  /-- What the clock shows. -/
  now : Nat := 0
  /-- The number of the next timer. -/
  nextTimer : Nat := 0
  /-- The timer that the toast holds, whether it has run or not. -/
  held : Option Nat := none
  /-- The timers that have neither run nor been dropped. -/
  pending : List Timer := []
  deriving DecidableEq, Repr

namespace Toast

/-- Drop the timer that the toast holds. If it has not run yet, it never will. -/
def dropHeld (t : Toast) : Toast :=
  { t with held := none, pending := t.pending.filter fun timer => some timer.number ≠ t.held }

/-- Show a message for the full time (`GlobalState::show_error`). -/
def display (t : Toast) (message : String) : Toast :=
  let timer : Timer := ⟨t.nextTimer, t.now + t.timeout.toNat⟩
  let dropped := t.dropHeld
  { dropped with
    message := some message
    nextTimer := t.nextTimer + 1
    held := some timer.number
    pending := dropped.pending ++ [timer] }

/-- Take the message off the screen (`GlobalState::clear_error`). -/
def clear (t : Toast) : Toast := { t.dropHeld with message := none }

/-- Let time pass. Every timer that is due by then runs, which takes the message off the screen. -/
def advance (t : Toast) (milliseconds : Nat) : Toast :=
  let now := t.now + milliseconds
  let isDue (timer : Timer) : Bool := timer.due ≤ now
  { t with
    now
    message := if t.pending.any isDue then none else t.message
    pending := t.pending.filter fun timer => !isDue timer }

end Toast

end ResultsBoard
