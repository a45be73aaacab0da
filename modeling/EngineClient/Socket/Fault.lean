import EngineClient.Http.Fault
import EngineClient.Socket.Url
import EngineClient.System.Failure
import EngineClient.Text.Duration
/-!
# Transport errors

What dialing a socket, waiting for a connection and exchanging messages over it can fail with.
-/

namespace EngineClient

/-- An error of the transport. -/
inductive TransportError where
  /-- The socket could not be dialed. -/
  | connect (path : String) (cause : Failure)
  /-- The dial was not answered in time. -/
  | connectTimeout (path : String) (timeout : Duration)
  /-- Every connection of the pool stayed lent for the whole wait. -/
  | poolExhausted (path : String) (maxSize : Nat) (waited : Duration)
  /-- The pool lends no more connections. -/
  | poolClosed (path : String)
  /-- The URL names no socket path. -/
  | invalidUrl (url : String) (reason : SocketUrlFault)
  /-- An established connection failed. -/
  | io (cause : Failure)
  /-- The peer sent something that is no response. -/
  | protocol (fault : Http.ResponseFault)
  /-- A message could not be built. -/
  | http (fault : Http.BuildFault)
  /-- The end of the wait lies past the last instant the clock can show. -/
  | deadlineOverflow
deriving Repr, DecidableEq

namespace TransportError

/-- The text shown for an error. -/
def message : TransportError → String
  | .connect path cause => "failed to connect to " ++ path ++ ": " ++ cause.message
  | .connectTimeout path timeout => "timed out after " ++ timeout.shown ++ " connecting to " ++ path
  | .poolExhausted path maxSize waited =>
    "connection pool for " ++ path ++ " exhausted: " ++ toString maxSize ++
      " connections in use after waiting " ++ waited.shown
  | .poolClosed path => "connection pool for " ++ path ++ " is closed"
  | .invalidUrl url reason => "invalid socket url '" ++ url ++ "': " ++ reason.message
  | .io cause => "socket I/O error: " ++ cause.message
  | .protocol fault => "malformed HTTP response: " ++ fault.message
  | .http fault => "HTTP error: " ++ fault.message
  | .deadlineOverflow => "overflow when adding duration to instant"

/-- Whether the error came from dialing the socket. -/
def isConnectionError : TransportError → Bool
  | .connect .. => true
  | .connectTimeout .. => true
  | _ => false

/-- Whether the error came from waiting for a full pool. -/
def isPoolExhausted : TransportError → Bool
  | .poolExhausted .. => true
  | _ => false

/-- The texts of the causes below an error, nearest first. -/
def causes : TransportError → List String
  | .connect _ cause => [cause.message]
  | .io cause => [cause.message]
  | .http fault => [fault.message]
  | _ => []

end TransportError

end EngineClient
