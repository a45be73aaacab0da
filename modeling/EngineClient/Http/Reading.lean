import EngineClient.Http.Chunked
import EngineClient.Http.Head
/-!
# Reading responses

One response from a source, and whether the connection may carry another request after it.
-/

namespace EngineClient.Http

/-- A response. -/
structure Response where
  head : Head
  body : Bytes
deriving Repr, DecidableEq

/-- A response, and whether another request may follow it on the same connection. -/
structure Exchange where
  response : Response
  reusable : Bool
deriving Repr, DecidableEq

/-- The most bytes one read of a head takes. -/
def headReadSize : Nat := 4096

/-- The number of bytes through the first blank line, `position` bytes having gone before. -/
def headEndFrom (position : Nat) : Bytes → Option Nat
  | 0x0D :: 0x0A :: 0x0D :: 0x0A :: _ => some (position + 4)
  | [] => none
  | _ :: rest => headEndFrom (position + 1) rest

/-- The number of bytes through the first blank line. -/
def headEnd (bytes : Bytes) : Option Nat := headEndFrom 0 bytes

/-- Reading until the head is complete: the head and the bytes that came along with it. Every read adds a
byte, and reading stops past the limit, so that `reads` can bound the reads. -/
def readHeadFor (source : Source) (buffer : Bytes) :
    (reads : Nat) → Except TransportError (Bytes × Bytes) × Source
  | 0 => (.error (.protocol .headTooLong), source)
  | reads + 1 =>
    match headEnd buffer with
    | some length => (.ok (buffer.take length, buffer.drop length), source)
    | none =>
      if headLimit < buffer.length then (.error (.protocol .headTooLong), source)
      else
        match source.read headReadSize with
        | (.closed, rest) => (.error (.protocol .headClosed), rest)
        | (.failed cause, rest) => (.error (.io cause), rest)
        | (.got bytes, rest) => readHeadFor rest (buffer ++ bytes) reads

/-- Reading until the head is complete: the head and the bytes that came along with it. -/
def readHead (source : Source) : Except TransportError (Bytes × Bytes) × Source :=
  readHeadFor source [] (headLimit + 2)

/-- How the end of a body is told. -/
inductive Framing where
  /-- There is no body. -/
  | none
  | chunked
  | length (bytes : Nat)
  /-- The body goes to the end of the stream. -/
  | toEnd
deriving Repr, DecidableEq

/-- The framing of the response to a request of this method. -/
def framing (method : Method) (head : Head) : Except ResponseFault Framing :=
  if method.isHead || head.status.isBodiless then .ok .none
  else if head.isChunked then .ok .chunked
  else head.contentLength.map fun length =>
    match length with
    | some bytes => .length bytes
    | Option.none => .toEnd

/-- Reading a body whose first bytes may have come along with the head; chunks are read with this appetite. The
answer tells besides whether exactly the body was taken from the source. -/
def readBody (framing : Framing) (leftover : Bytes) (source : Source) (appetite : Appetite := .standard) :
    Except TransportError (Bytes × Bool) × Source :=
  match framing with
  | .none => (.ok ([], leftover.isEmpty), source)
  | .chunked =>
    match Chunked.read { buffer := leftover, source, appetite } with
    | (.ok body, intake) => (.ok (body, intake.buffer.isEmpty), intake.source)
    | (.error error, intake) => (.error error, intake.source)
  | .length bytes =>
    if bytes < leftover.length then (.ok (leftover.take bytes, false), source)
    else
      match source.gather leftover bytes with
      | (.error cause, rest) => (.error (.io cause), rest)
      | (.ok body, rest) =>
        if body.length < bytes then (.error (.protocol (.bodyShort body.length bytes)), rest)
        else (.ok (body, true), rest)
  | .toEnd =>
    match source.drain leftover with
    | (.error cause, rest) => (.error (.io cause), rest)
    | (.ok body, rest) => (.ok (body, false), rest)

/-- Reading the response to a request of this method, its chunks with this appetite, and the source after it. -/
def readResponse (method : Method) (source : Source) (appetite : Appetite := .standard) :
    Except TransportError Exchange × Source :=
  match readHead source with
  | (.error error, rest) => (.error error, rest)
  | (.ok (bytes, leftover), rest) =>
    match Head.parse bytes with
    | .error fault => (.error (.protocol fault), rest)
    | .ok (head, _) =>
      match framing method head with
      | .error fault => (.error (.protocol fault), rest)
      | .ok framing =>
        match readBody framing leftover rest appetite with
        | (.error error, rest) => (.error error, rest)
        | (.ok (body, exact), rest) => (.ok ⟨⟨head, body⟩, exact && head.keepsAlive⟩, rest)

end EngineClient.Http
