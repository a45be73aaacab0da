import EngineClient.Http.Request
import EngineClient.Http.Status
import EngineClient.Text.Numeral
/-!
# Heads of responses

Status line and headers, read from the bytes before the blank line.
-/

namespace EngineClient.Http

/-- The two versions of the protocol that are spoken. -/
inductive Version where
  | http10
  | http11
deriving Repr, DecidableEq

/-- The name of a version. -/
def Version.text : Version → String
  | .http10 => "HTTP/1.0"
  | .http11 => "HTTP/1.1"

/-- The head of a response. -/
structure Head where
  version : Version
  status : Status
  headers : Headers
deriving Repr, DecidableEq

namespace Head

/-- What a step of reading answers: a result and the bytes after it, or the fault. -/
abbrev Step (α : Type) := Except ResponseFault (α × Bytes)

/-- Line feed. -/
def lf : UInt8 := 0x0A
/-- Carriage return. -/
def cr : UInt8 := 0x0D

/-- Bytes of reason phrases and header values: text, the tab and everything above ASCII. -/
def isTextByte (b : UInt8) : Bool := b == 9 || (0x20 ≤ b && b ≤ 0x7E) || 0x80 ≤ b

/-- Bytes of header names. -/
def isNameByte (b : UInt8) : Bool := isTokenChar (Char.ofNat b.toNat)

/-- The bytes after a line feed, which must come here. -/
def expectLf (fault : ResponseFault) : Bytes → Except ResponseFault Bytes
  | [] => .error .headIncomplete
  | b :: rest => if b = lf then .ok rest else .error fault

/-- The bytes after the empty lines in front. -/
def skipEmptyLines : Bytes → Except ResponseFault Bytes
  | [] => .error .headIncomplete
  | 0x0A :: rest => skipEmptyLines rest
  | 0x0D :: 0x0A :: rest => skipEmptyLines rest
  | [0x0D] => .error .headIncomplete
  | 0x0D :: _ :: _ => .error .newLine
  | rest => .ok rest

/-- The version at the start of the status line. -/
def readVersion (bytes : Bytes) : Step Version :=
  let name := bytes.take 8
  if name = Text.encode "HTTP/1.1" then .ok (.http11, bytes.drop 8)
  else if name = Text.encode "HTTP/1.0" then .ok (.http10, bytes.drop 8)
  else if name.isPrefixOf (Text.encode "HTTP/1.") then .error .headIncomplete
  else .error .version

/-- The value of a byte that is a decimal digit. -/
def digitByte (b : UInt8) : Option Nat :=
  if 0x30 ≤ b ∧ b ≤ 0x39 then some (b.toNat - 0x30) else none

/-- The number written by the next `count` digits, after `value`. -/
def readDigits (value : Nat) : (count : Nat) → Bytes → Step Nat
  | 0, bytes => .ok (value, bytes)
  | _ + 1, [] => .error .headIncomplete
  | count + 1, b :: rest =>
    match digitByte b with
    | some d => readDigits (value * 10 + d) count rest
    | none => .error .statusLine

/-- The bytes after the reason phrase and its line end. -/
def skipReason : Bytes → Except ResponseFault Bytes
  | [] => .error .headIncomplete
  | b :: rest =>
    if b = cr then expectLf .statusLine rest
    else if b = lf then .ok rest
    else if isTextByte b then skipReason rest
    else .error .statusLine

/-- The bytes after the status line, of which version and code have been read. -/
def endStatusLine : Bytes → Except ResponseFault Bytes
  | [] => .error .headIncomplete
  | b :: rest =>
    if b = 0x20 then skipReason rest
    else if b = cr then expectLf .statusLine rest
    else if b = lf then .ok rest
    else .error .statusLine

/-- The name up to the colon; `taken` has its bytes so far, in reverse. -/
def readName (taken : Bytes) : Bytes → Step String
  | [] => .error .headIncomplete
  | b :: rest =>
    if b = 0x3A then
      if taken.isEmpty then .error .headerName
      else .ok (String.ofList (taken.reverse.map fun b => Char.ofNat b.toNat), rest)
    else if isNameByte b then readName (b :: taken) rest
    else .error .headerName

/-- Space and tab. -/
def isPad (b : UInt8) : Bool := b == 0x20 || b == 9

/-- The value up to the line end, without the padding at its end; `taken` has its bytes so far, in
reverse. -/
def readValue (taken : Bytes) : Bytes → Step Bytes
  | [] => .error .headIncomplete
  | b :: rest =>
    if b = cr then (expectLf .headerValue rest).map fun rest => ((taken.dropWhile isPad).reverse, rest)
    else if b = lf then .ok ((taken.dropWhile isPad).reverse, rest)
    else if isTextByte b then readValue (b :: taken) rest
    else .error .headerValue

/-- A header line. -/
def readHeader (bytes : Bytes) : Step (String × Bytes) :=
  match readName [] bytes with
  | .error fault => .error fault
  | .ok (name, rest) =>
    match readValue [] (rest.dropWhile isPad) with
    | .error fault => .error fault
    | .ok (value, rest) => .ok ((name, value), rest)

/-- The header lines up to an empty line, at most `room` of them; `before` has those so far, in
reverse. -/
def readHeaders (before : List (String × Bytes)) :
    (room : Nat) → Bytes → Step (List (String × Bytes))
  | _, [] => .error .headIncomplete
  | room, b :: rest =>
    if b = cr then (expectLf .newLine rest).map fun rest => (before.reverse, rest)
    else if b = lf then .ok (before.reverse, rest)
    else
      match readHeader (b :: rest) with
      | .error fault => .error fault
      | .ok (line, rest) =>
        match room with
        | 0 => .error .tooManyHeaders
        | room + 1 => readHeaders (line :: before) room rest

/-- The headers a list of lines makes. -/
def collect (headers : Headers) : List (String × Bytes) → Except ResponseFault Headers
  | [] => .ok headers
  | (name, value) :: more =>
    match Headers.normalName name with
    | some normal => collect (headers.append normal value) more
    | none => .error .headerNameTooLong

/-- The head that the bytes write, and the bytes after the empty line that ends it. -/
def parse (bytes : Bytes) : Except ResponseFault (Head × Bytes) := do
  let rest ← skipEmptyLines bytes
  let (version, rest) ← readVersion rest
  let rest ← match rest with
    | [] => .error .headIncomplete
    | b :: rest => if b = 0x20 then .ok rest else .error .version
  let (code, rest) ← readDigits 0 3 rest
  let rest ← endStatusLine rest
  let (lines, rest) ← readHeaders [] headerLimit rest
  let status ← match Status.ofNat code with
    | some status => .ok status
    | none => .error .statusCode
  let headers ← collect .empty lines
  return (⟨version, status, headers⟩, rest)

/-! ## What headers say of the message -/

/-- Whether the peer keeps the connection open after the response. -/
def keepsAlive (head : Head) : Bool :=
  let elements := head.headers.elements "connection"
  !elements.contains "close" && (head.version == .http11 || elements.contains "keep-alive")

/-- Whether the body comes in chunks. -/
def isChunked (head : Head) : Bool := (head.headers.elements "transfer-encoding").contains "chunked"

/-- The announced length of the body: the first value of the header counts. -/
def contentLength (head : Head) : Except ResponseFault (Option Nat) :=
  match head.headers.values "content-length" with
  | [] => .ok none
  | value :: _ =>
    match (Headers.visibleText value).bind fun text => Text.decimal Text.limit64 (Text.trim text) with
    | some length => .ok (some length)
    | none => .error (.contentLength value)

end Head

end EngineClient.Http
