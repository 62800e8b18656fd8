import ResultsBoard.Board.Part
import ResultsBoard.Settings.Page

/-!
# The start of the program

The program reads its settings off the page, opens the log, says why it ignores the settings
document of the page if it does, and mounts the board. If the log cannot be opened, because
somebody else has opened one, it says so once and goes on without.
-/

namespace ResultsBoard

/-- What the console shows of the start. -/
inductive Console where
  /-- The log was to be opened at a level. -/
  | opening (level : Level)
  /-- An error outside the log. -/
  | error (text : String)
  | line (line : LogLine)
  /-- The page has been mounted. -/
  | mounted (view : View.Nodes Action)

/-- What is said when the log cannot be opened. -/
def logRefused : String :=
  "Failed to initialize logging: attempted to set a logger after the logging system was already " ++
    "initialized"

/-- The line about a settings document that is ignored. -/
def ignoredLine (fault : SettingsFault) : LogLine :=
  .warn ("ignoring inline config: " ++ fault.message)

/-- The level that the log is opened at: the one of the settings, or else `info`. -/
def Settings.startLevel (s : Settings) : Level :=
  match s.level with
  | .ok level => level
  | .error _ => .info

/-- The log lines among some effects. -/
def Effect.lines (effects : List Effect) : List LogLine :=
  effects.filterMap fun
    | .logged line => some line
    | _ => none

/-- What the console shows of the start on a page, with the answers that the server is going to give
(`main`). Nobody waits for them. -/
def start (p : Page) (server : Server) (logTaken : Bool) : List Console :=
  let (settings, fault) := Settings.atStart p
  let level := settings.startLevel
  let part := Part.page rootPath
  let board := (Board.empty settings server).mount part .model false
  let lines := (fault.map ignoredLine).toList ++ Effect.lines board.effects
  let shown := if logTaken then [.error logRefused]
    else (lines.filter fun line => line.level.passes level).map .line
  [.opening level] ++ shown ++ [.mounted (board.view part)]

end ResultsBoard
