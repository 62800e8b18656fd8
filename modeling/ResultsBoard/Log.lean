/-!
# Log lines

A log line is a message with a level. A log is opened at a level and shows the lines that are at
least as severe.
-/

namespace ResultsBoard

/-- Severities, the gravest first. -/
inductive Level where
  | error
  | warn
  | info
  | debug
  | trace
  deriving DecidableEq, Repr

namespace Level

/-- All levels, the gravest first. -/
def all : List Level := [error, warn, info, debug, trace]

/-- How a log line shows its level. -/
def name : Level → String
  | error => "ERROR"
  | warn => "WARN"
  | info => "INFO"
  | debug => "DEBUG"
  | trace => "TRACE"

/-- The position in `all`. -/
def rank : Level → Nat
  | error => 0
  | warn => 1
  | info => 2
  | debug => 3
  | trace => 4

/-- Letters of the ASCII alphabet in upper case; every other character as it is. -/
def upper (s : String) : List Char := s.toList.map Char.toUpper

/-- The level with the given name, in any mixture of cases. -/
def ofName? (s : String) : Option Level := all.find? fun level => upper level.name = upper s

/-- Whether a log opened at `limit` shows lines of this level. -/
def passes (level limit : Level) : Bool := level.rank ≤ limit.rank

end Level

/-- A line of the log. -/
structure LogLine where
  level : Level
  message : String
  deriving DecidableEq, Repr

/-- A line for following the program. -/
def LogLine.debug (message : String) : LogLine := ⟨.debug, message⟩

/-- A line about something that went wrong. -/
def LogLine.warn (message : String) : LogLine := ⟨.warn, message⟩

end ResultsBoard
