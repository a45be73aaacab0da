import EngineClient.Text.Quoted
/-!
# Faults of messages

Why a request cannot be built, and why the bytes of a peer are no response.
-/

namespace EngineClient.Http

/-- Why a text is no URI. -/
inductive UriFault where
  | tooLong
  | empty
  | character
  | authority
  | format
  | scheme
  | schemeTooLong
deriving Repr, DecidableEq

/-- The wording of a URI fault. -/
def UriFault.message : UriFault → String
  | .tooLong => "uri too long"
  | .empty => "empty string"
  | .character => "invalid uri character"
  | .authority => "invalid authority"
  | .format => "invalid format"
  | .scheme => "invalid scheme"
  | .schemeTooLong => "scheme too long"

/-- Why a request or a response cannot be built. -/
inductive BuildFault where
  | method
  | uri (fault : UriFault)
  | headerName
  | headerValue
  | status
deriving Repr, DecidableEq

/-- The wording of a building fault. -/
def BuildFault.message : BuildFault → String
  | .method => "invalid HTTP method"
  | .uri fault => fault.message
  | .headerName => "invalid HTTP header name"
  | .headerValue => "failed to parse header value"
  | .status => "invalid status code"

/-- The largest head of a response that is searched for its end. -/
def headLimit : Nat := 65536

/-- The largest number of header lines in a response. -/
def headerLimit : Nat := 96

/-- Why the bytes of a peer are no response. -/
inductive ResponseFault where
  /-- The stream ended before the head did. -/
  | headClosed
  /-- The head did not end within its limit. -/
  | headTooLong
  /-- The blank line came before the status line and headers were complete. -/
  | headIncomplete
  | newLine
  | version
  | statusLine
  | headerName
  | headerValue
  | tooManyHeaders
  /-- The name has more bytes than a header name can have. -/
  | headerNameTooLong
  /-- The three digits are below 100. -/
  | statusCode
  /-- The length is not an unsigned 64-bit number. -/
  | contentLength (value : Bytes)
  /-- The stream ended before the announced length. -/
  | bodyShort (arrived announced : Nat)
  /-- The stream ended inside a chunk or before its size. -/
  | chunkedShort
  | chunkSize (field : String)
  /-- The body would be longer than memory can be. -/
  | chunkOverflow
  /-- Something other than a line end follows the data of a chunk. -/
  | chunkEnd
  /-- A fault given in words. -/
  | described (words : String)
deriving Repr, DecidableEq

/-- The wording of a response fault. -/
def ResponseFault.message : ResponseFault → String
  | .headClosed => "connection closed before response head"
  | .headTooLong => s!"response head exceeds {headLimit} bytes"
  | .headIncomplete => "incomplete response head"
  | .newLine => "invalid new line"
  | .version => "invalid HTTP version"
  | .statusLine => "invalid response status"
  | .headerName => "invalid header name"
  | .headerValue => "invalid header value"
  | .tooManyHeaders => "too many headers"
  | .headerNameTooLong => BuildFault.headerName.message
  | .statusCode => "invalid status code"
  | .contentLength value => "invalid Content-Length " ++ Text.quoteBytes value
  | .bodyShort arrived announced => s!"body ended after {arrived} of {announced} bytes"
  | .chunkedShort => "chunked body ended early"
  | .chunkSize field => "invalid chunk size " ++ Text.quote field
  | .chunkOverflow => "chunk size overflow"
  | .chunkEnd => "chunk not terminated by CRLF"
  | .described words => words

end EngineClient.Http
