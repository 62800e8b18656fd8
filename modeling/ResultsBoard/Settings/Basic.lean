import ResultsBoard.Json.Fault
import ResultsBoard.Log

/-!
# Settings

What the board runs with: where the results server is, how a failed request is tried again, how
long a toast stays and how much is logged. `validate` checks the ranges, and `retryDelay` is the
capped exponential back-off, computed in 32 bits.
-/

namespace ResultsBoard

/-- The settings of a running board (`DashboardConfig`). Times are in milliseconds. -/
structure Settings where
  /-- The root that every resource is fetched from. -/
  apiBase : String
  /-- How often a request is tried again after its first failure. -/
  fetchRetries : UInt32
  /-- The wait before the first further attempt. -/
  retryBaseDelay : UInt32
  /-- No wait is longer. -/
  retryMaxDelay : UInt32
  /-- How long a toast stays on the screen. -/
  toastTimeout : UInt32
  /-- The name of the log level. -/
  logLevel : String
  deriving DecidableEq, Repr

/-- Why settings are refused (`ConfigError`). -/
inductive SettingsFault where
  /-- The text is no settings document. -/
  | unreadable (fault : Json.Fault)
  /-- The base delay is zero. -/
  | baseDelayZero
  /-- The greatest delay is below the base delay. -/
  | maxDelayBelowBase (max base : UInt32)
  /-- There is no log level of that name. -/
  | unknownLevel (name : String)

/-- The wording of a refusal. -/
def SettingsFault.message : SettingsFault → String
  | unreadable fault => "Parse error: " ++ fault.message
  | baseDelayZero => "Validation error: retry_base_delay_ms must be greater than zero"
  | maxDelayBelowBase max base =>
    "Validation error: retry_max_delay_ms (" ++ toString max.toNat ++
      ") is below retry_base_delay_ms (" ++ toString base.toNat ++ ")"
  | unknownLevel name => "Validation error: unknown log level: " ++ name

namespace Settings

/-- The root used when the page does not tell its own. -/
def defaultApiBase : String := "http://localhost:8050"

/-- The settings used where nothing else is said. -/
def default : Settings where
  apiBase := defaultApiBase
  fetchRetries := 2
  retryBaseDelay := 500
  retryMaxDelay := 8000
  toastTimeout := 5000
  logLevel := "info"

instance : Inhabited Settings := ⟨default⟩

/-- The log level, if its name is known (`DashboardConfig::level`). -/
def level (s : Settings) : Except SettingsFault Level :=
  match Level.ofName? s.logLevel with
  | some level => .ok level
  | none => .error (.unknownLevel s.logLevel)

/-- Check the ranges (`DashboardConfig::validate`): a base delay above zero, a greatest delay not
below it, and a known log level, in this order. -/
def validate (s : Settings) : Except SettingsFault Unit :=
  if s.retryBaseDelay = 0 then .error .baseDelayZero
  else if s.retryMaxDelay < s.retryBaseDelay then
    .error (.maxDelayBelowBase s.retryMaxDelay s.retryBaseDelay)
  else s.level.map fun _ => ()

/-- A text without the slashes at its end. -/
def withoutTrailingSlashes (s : String) : String :=
  String.ofList (s.toList.reverse.dropWhile (· = '/')).reverse

/-- The address of a resource below the root (`DashboardConfig::resource_url`). -/
def resourceUrl (s : Settings) (resource : String) : String :=
  withoutTrailingSlashes s.apiBase ++ "/" ++ resource

/-- The greatest number of 32 bits. -/
def maxWord : UInt32 := 0xFFFFFFFF

/-- Two to the `n` in 32 bits, or the greatest number if that does not fit. -/
def twoTo (n : UInt32) : UInt32 := if n < 32 then 1 <<< n else maxWord

/-- The product in 32 bits, or the greatest number if it does not fit. -/
def saturatingMul (a b : UInt32) : UInt32 :=
  if a.toNat * b.toNat < UInt32.size then a * b else maxWord

/-- The wait before further attempt number `attempt`, counted from zero
(`DashboardConfig::retry_delay_ms`): the base delay, doubled for each attempt before it, and never
more than the greatest delay. -/
def retryDelay (s : Settings) (attempt : UInt32) : UInt32 :=
  min (saturatingMul s.retryBaseDelay (twoTo attempt)) s.retryMaxDelay

/-- The default settings are valid. -/
theorem validate_default : default.validate = .ok () := by rfl

end Settings

end ResultsBoard
