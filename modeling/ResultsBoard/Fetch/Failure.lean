/-!
# Failed requests

Why a resource could not be fetched. Only failures that may pass by themselves are worth another
attempt: a connection that failed, and a server that says that it has a problem (status 500 and
above).
-/

namespace ResultsBoard.Fetch

/-- Why a resource could not be fetched (`FetchError`). -/
inductive Failure where
  /-- The request could not be sent or the connection broke. -/
  | network (text : String)
  /-- The server answered with a status outside 200 to 299. -/
  | status (code : UInt16) (text : String)
  /-- The body is no JSON document of the expected shape. -/
  | parse (text : String)
  /-- The document lacks a key. -/
  | missingKey (key : String)
  deriving DecidableEq, Repr

namespace Failure

/-- The wording of a failure. -/
def message : Failure → String
  | network text => "Network error: " ++ text
  | status code text => "HTTP " ++ toString code.toNat ++ ": " ++ text
  | parse text => "Parse error: " ++ text
  | missingKey key => "Missing key: " ++ key

/-- Whether the failure may pass by itself (`FetchError::is_retryable`). -/
def isRetryable : Failure → Bool
  | network _ => true
  | status code _ => 500 ≤ code
  | parse _ | missingKey _ => false

end Failure

/-- Whether to go on after failed attempt number `attempt`, counted from zero (`should_retry`). -/
def shouldRetry (failure : Failure) (attempt maxRetries : UInt32) : Bool :=
  failure.isRetryable && attempt < maxRetries

end ResultsBoard.Fetch
