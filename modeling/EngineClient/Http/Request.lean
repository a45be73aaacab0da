import EngineClient.Http.Uri
/-!
# Requests

Methods, header lists and requests, built from texts that are checked first.
-/

namespace EngineClient.Http

/-- Characters of methods and header names. -/
def isTokenChar (c : Char) : Bool := Uri.isAlphanumeric c || "!#$%&'*+-.^_`|~".toList.contains c

/-- A request method. -/
structure Method where
  name : String
deriving Repr, DecidableEq, Inhabited

namespace Method

/-- The method of that name. -/
def ofText (name : String) : Option Method :=
  if !name.isEmpty && name.toList.all isTokenChar then some ⟨name⟩ else none

/-- The method that reads. -/
def get : Method := ⟨"GET"⟩

/-- Whether responses to the method never have a body. -/
def isHead (m : Method) : Bool := m.name == "HEAD"

/-- Whether the method usually sends a body, so that even an empty one is announced. -/
def sendsBody (m : Method) : Bool := m.name == "POST" || m.name == "PUT" || m.name == "PATCH"

end Method

/-- A list of headers: the names in lower case in the order in which each first appeared, every name with
all its values. -/
structure Headers where
  groups : List (String × List Bytes)
deriving Repr, DecidableEq

namespace Headers

/-- No headers. -/
def empty : Headers := ⟨[]⟩

/-- Groups with one more value for a name. -/
def appendTo (name : String) (value : Bytes) :
    List (String × List Bytes) → List (String × List Bytes)
  | [] => [(name, [value])]
  | (other, values) :: rest =>
    if other = name then (other, values ++ [value]) :: rest
    else (other, values) :: appendTo name value rest

/-- The headers with one more. -/
def append (headers : Headers) (name : String) (value : Bytes) : Headers :=
  ⟨appendTo name value headers.groups⟩

/-- All values of a name. -/
def values (headers : Headers) (name : String) : List Bytes := (headers.groups.lookup name).getD []

/-- Whether there is a value for a name. -/
def contains (headers : Headers) (name : String) : Bool := !(headers.values name).isEmpty

/-- The headers one by one. -/
def lines (headers : Headers) : List (String × Bytes) :=
  headers.groups.flatMap fun (name, values) => values.map fun value => (name, value)

/-- The longest header name. -/
def maxNameLength : Nat := 65535

/-- The form in which a header name is kept. -/
def normalName (name : String) : Option String :=
  if !name.isEmpty && name.toList.all isTokenChar && name.length ≤ maxNameLength
  then some (Text.lower name) else none

/-- Bytes of header values: everything but controls, of which only the tab may stand. -/
def isValueByte (b : UInt8) : Bool := (0x20 ≤ b && b != 0x7F) || b == 9

/-- Whether a value is plain printable ASCII. -/
def isVisible (value : Bytes) : Bool := value.all fun b => (0x20 ≤ b && b < 0x7F) || b == 9

/-- A value as text, when it is plain printable ASCII. -/
def visibleText (value : Bytes) : Option String :=
  if isVisible value then some (String.ofList (value.map fun b => Char.ofNat b.toNat)) else none

/-- The headers with all of `more` after them, or the first fault among those. -/
def extend (headers : Headers) : List (String × Bytes) → Except BuildFault Headers
  | [] => .ok headers
  | (name, value) :: more =>
    match normalName name with
    | none => .error .headerName
    | some normal =>
      if value.all isValueByte then extend (headers.append normal value) more
      else .error .headerValue

/-- The comma-separated elements of all values of a name that are plain ASCII, trimmed and in lower
case. -/
def elements (headers : Headers) (name : String) : List String :=
  (headers.values name).filterMap visibleText |>.flatMap fun value =>
    (Text.splitAt ',' value.toList).map fun element =>
      Text.lower (String.ofList (Text.strip element))

end Headers

/-- A request. -/
structure Request where
  method : Method
  uri : Uri
  headers : Headers
  body : Bytes
deriving Repr, DecidableEq

namespace Request

/-- The request with these parts, or the first fault among method, URI and headers. -/
def build (method uri : String) (headers : List (String × Bytes)) (body : Bytes) :
    Except BuildFault Request :=
  match Method.ofText method with
  | none => .error .method
  | some method =>
    match Uri.parse uri with
    | .error fault => .error (.uri fault)
    | .ok uri =>
      match Headers.empty.extend headers with
      | .error fault => .error fault
      | .ok headers => .ok ⟨method, uri, headers, body⟩

/-- What the request line names: path and query, whatever scheme and authority the URI has. -/
def target (request : Request) : String := request.uri.pathAndQuery.getD "/"

end Request

end EngineClient.Http
