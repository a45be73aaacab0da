import EngineClient.Http.Intake
import EngineClient.Socket.Fault
/-!
# Chunked bodies

Bodies sent as chunks that each announce their size, ended by a chunk of size zero and a trailer.
-/

namespace EngineClient.Http.Chunked

/-- The part of a size line that has the size: up to a semicolon, trimmed. -/
def sizeField (line : String) : String :=
  String.ofList (Text.strip (Text.cutAt ';' (Text.dropBlankEnd line.toList)).1)

/-- The size a line announces. -/
def readSize (line : String) : Except ResponseFault Nat :=
  match Text.hexadecimal Text.limit64 (sizeField line) with
  | some size => .ok size
  | none => .error (.chunkSize (sizeField line))

/-- Skipping the trailer through an empty line or the end of the stream; `lines` bounds the number of
lines. -/
def skipTrailer : (lines : Nat) → Intake → Except TransportError Unit × Intake
  | 0, intake => (.ok (), intake)
  | lines + 1, intake =>
    match intake.readLine with
    | (.error cause, rest) => (.error (.io cause), rest)
    | (.ok line, rest) => if Text.isBlankText line then (.ok (), rest) else skipTrailer lines rest

/-- The data of a chunk and the line end after it. -/
def readData (intake : Intake) (size : Nat) : Except TransportError Bytes × Intake :=
  match intake.readBlock size with
  | (.error cause, rest) => (.error (.io cause), rest)
  | (.ok data, rest) =>
    if data.length < size then (.error (.protocol .chunkedShort), rest)
    else
      match rest.readExact 2 with
      | (.error cause, rest) => (.error (.io cause), rest)
      | (.ok crlf, rest) =>
        if crlf.length < 2 then (.error (.io .shortRead), rest)
        else if crlf = [0x0D, 0x0A] then (.ok data, rest)
        else (.error (.protocol .chunkEnd), rest)

/-- The data of all chunks to come, when `start` bytes came before them; `chunks` bounds their number. -/
def readChunks : (chunks start : Nat) → Intake → Except TransportError Bytes × Intake
  | 0, _, intake => (.error (.protocol .chunkedShort), intake)
  | chunks + 1, start, intake =>
    match intake.readLine with
    | (.error cause, rest) => (.error (.io cause), rest)
    | (.ok line, rest) =>
      if line.isEmpty then (.error (.protocol .chunkedShort), rest)
      else
        match readSize line with
        | .error fault => (.error (.protocol fault), rest)
        | .ok 0 =>
          match skipTrailer (rest.size + 1) rest with
          | (.ok (), rest) => (.ok [], rest)
          | (.error error, rest) => (.error error, rest)
        | .ok size =>
          if Text.limit64 ≤ start + size then (.error (.protocol .chunkOverflow), rest)
          else
            match readData rest size with
            | (.error error, rest) => (.error error, rest)
            | (.ok data, rest) =>
              match readChunks chunks (start + size) rest with
              | (.error error, rest) => (.error error, rest)
              | (.ok more, rest) => (.ok (data ++ more), rest)

/-- The body in the chunks of an intake. Every chunk has a byte at least, so there are no more chunks than
bytes. -/
def read (intake : Intake) : Except TransportError Bytes × Intake :=
  readChunks (intake.size + 1) 0 intake

end EngineClient.Http.Chunked
