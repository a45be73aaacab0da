import EngineClient.Helper.Fault
import EngineClient.Http.Status
import EngineClient.Settings.Fault
/-!
# Client errors

What a request to the daemon, or a search for credentials, can end in.
-/

namespace EngineClient

/-- An error of the client. -/
inductive ClientError where
  | transport (cause : TransportError)
  | config (cause : ConfigError)
  | credentials (cause : CredentialError)
  /-- The daemon answered with a status outside 200..299. -/
  | api (status : Http.Status) (words : String)
  /-- The body is not the expected document. -/
  | json (fault : Json.Fault)
  /-- The address of the daemon is no socket. -/
  | unsupportedTransport (address : String)
deriving Repr, DecidableEq

namespace ClientError

/-- The text shown for an error; the wrapped errors speak for themselves. -/
def message : ClientError → String
  | .transport cause => cause.message
  | .config cause => cause.message
  | .credentials cause => cause.message
  | .api status words => "daemon returned " ++ status.text ++ ": " ++ words
  | .json _ => "unexpected response body: " ++ Json.faultDetail
  | .unsupportedTransport address =>
    "unsupported daemon address " ++ address ++ ": only unix sockets are supported"

/-- Whether the daemon could not be reached at all. -/
def isConnectionError : ClientError → Bool
  | .transport cause => cause.isConnectionError
  | _ => false

/-- Whether the program cannot go on after the error: the end of a wait lies past the last instant the clock can
show. -/
def isFatal : ClientError → Bool
  | .transport .deadlineOverflow => true
  | _ => false

/-- The status the daemon answered with. -/
def status : ClientError → Option Http.Status
  | .api status _ => some status
  | _ => none

/-- The texts of the causes below an error, nearest first. -/
def causes : ClientError → List String
  | .transport cause => cause.causes
  | .config cause => cause.causes
  | .credentials cause => cause.causes
  | .api .. => []
  | .json _ => [Json.faultDetail]
  | .unsupportedTransport _ => []

end ClientError

end EngineClient
