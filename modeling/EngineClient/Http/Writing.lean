import EngineClient.Http.Request
import EngineClient.Socket.Fault
import EngineClient.System.Sink
/-!
# Writing requests

The bytes a request is sent as.
-/

namespace EngineClient.Http

/-- One header line. -/
def headerLine (name : String) (value : Bytes) : Bytes :=
  Text.encode name ++ Text.encode ": " ++ value ++ Text.encode "\r\n"

/-- The `Host` line of a request that has no such header. -/
def hostLine (request : Request) : Bytes :=
  if request.headers.contains "host" then []
  else Text.encode ("Host: " ++ request.uri.host.getD "localhost" ++ "\r\n")

/-- The `Content-Length` line of a request that has no such header and has, or usually has, a body. -/
def lengthLine (request : Request) : Bytes :=
  if (!request.body.isEmpty || request.method.sendsBody) && !request.headers.contains "content-length"
  then Text.encode ("Content-Length: " ++ toString request.body.length ++ "\r\n")
  else []

/-- Everything before the body. -/
def requestHead (request : Request) (target : String) : Bytes :=
  Text.encode (request.method.name ++ " " ++ target ++ " HTTP/1.1\r\n") ++ hostLine request ++
    (request.headers.lines.flatMap fun (name, value) => headerLine name value) ++
    lengthLine request ++ Text.encode "\r\n"

/-- The whole request. -/
def requestBytes (request : Request) (target : String) : Bytes :=
  requestHead request target ++ request.body

/-- Writing a request to a sink: the head, the body, one flush. -/
def writeRequest (sink : Sink) (request : Request) (target : String) :
    Except TransportError Unit × Sink :=
  match sink.writeAll (requestHead request target) with
  | (.error cause, sink) => (.error (.io cause), sink)
  | (.ok (), sink) =>
    match sink.writeAll request.body with
    | (.error cause, sink) => (.error (.io cause), sink)
    | (.ok (), sink) => (.ok (), sink.flush)

end EngineClient.Http
