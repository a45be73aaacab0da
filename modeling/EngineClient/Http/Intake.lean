import EngineClient.Http.Appetite
import EngineClient.System.Source
/-!
# Buffered intake

Reading lines and blocks of known length through a buffer that is filled by one read at a time. A read that asks for
as much as the buffer holds, or more, goes past the buffer when it is empty.
-/

namespace EngineClient.Http

/-- A source with a buffer, and the room where blocks are collected with the appetite for them. -/
structure Intake where
  buffer : Bytes
  source : Source
  room : Room := .empty
  appetite : Appetite := .standard

namespace Intake

/-- The number of bytes still to come. -/
def size (intake : Intake) : Nat := intake.buffer.length + intake.source.allBytes.length

/-! ## Lines -/

/-- The bytes through the first line feed and those after it. -/
def splitLine : Bytes → Option (Bytes × Bytes)
  | [] => none
  | b :: rest =>
    if b = 0x0A then some ([b], rest)
    else (splitLine rest).map fun (line, rest) => (b :: line, rest)

/-- Reading through the next line feed, or to the end of the stream. Every read adds a byte, so that `reads` can
bound the reads. -/
def lineFor : (reads : Nat) → Intake → Except Failure Bytes × Intake
  | 0, intake => (.ok [], intake)
  | reads + 1, intake =>
    match splitLine intake.buffer with
    | some (line, rest) => (.ok line, { intake with buffer := rest })
    | none =>
      match intake.source.fetch bufferSize with
      | (.closed, rest) => (.ok intake.buffer, { intake with buffer := [], source := rest })
      | (.failed cause, rest) => (.error cause, { intake with buffer := [], source := rest })
      | (.got bytes, rest) =>
        match lineFor reads { intake with buffer := bytes, source := rest } with
        | (.ok more, last) => (.ok (intake.buffer ++ more), last)
        | (.error cause, last) => (.error cause, last)

/-- The next line with its line end, or what the end of the stream leaves of one. The bytes to come are counted only
where the buffer has no whole line. -/
def line (intake : Intake) : Except Failure Bytes × Intake :=
  match splitLine intake.buffer with
  | some (line, rest) => (.ok line, { intake with buffer := rest })
  | none => lineFor (intake.source.allBytes.length + 1) intake

/-- The next line as text, with its line end; the empty text at the end of the stream. -/
def readLine (intake : Intake) : Except Failure String × Intake :=
  match intake.line with
  | (.error cause, rest) => (.error cause, rest)
  | (.ok bytes, rest) =>
    match Text.decode bytes with
    | .ok line => (.ok line, rest)
    | .error _ => (.error .notText, rest)

/-! ## Blocks -/

/-- One read of at most `most` bytes: from the buffer, and when that is empty past it or from what fills it. -/
def readSome (intake : Intake) (most : Nat) : Source.Answer × Intake :=
  match intake.buffer with
  | b :: more => (.got ((b :: more).take most), { intake with buffer := (b :: more).drop most })
  | [] =>
    if bufferSize ≤ most then
      let (answer, rest) := intake.source.fetch most
      (answer, { intake with source := rest })
    else
      match intake.source.fetch bufferSize with
      | (.got bytes, rest) => (.got (bytes.take most), { intake with buffer := bytes.drop most, source := rest })
      | (answer, rest) => (answer, { intake with source := rest })

/-- Whether a read of at most `most` bytes goes past the buffer. -/
def bypasses (intake : Intake) (most : Nat) : Bool := intake.buffer.isEmpty && decide (bufferSize ≤ most)

/-- One read of the bytes of a block of which `want` are left: as many as the appetite asks for. -/
def readPart (intake : Intake) (want : Nat) : Source.Answer × Intake :=
  let granted := min (intake.appetite.ask intake.room) want
  match intake.readSome granted with
  | (.got bytes, rest) =>
    (.got bytes, { rest with room := rest.room.took granted bytes.length (intake.bypasses granted) })
  | (answer, rest) => (answer, rest)

/-- Reading with `read` until `want` bytes are there or the stream ends. Every read adds a byte, so that `reads`
can bound the reads. -/
def collect (read : Intake → Nat → Source.Answer × Intake) :
    (reads want : Nat) → Intake → Except Failure Bytes × Intake
  | 0, _, intake => (.ok [], intake)
  | _ + 1, 0, intake => (.ok [], intake)
  | reads + 1, want + 1, intake =>
    match read intake (want + 1) with
    | (.closed, rest) => (.ok [], rest)
    | (.failed cause, rest) => (.error cause, rest)
    | (.got bytes, rest) =>
      match collect read reads (want + 1 - bytes.length) rest with
      | (.ok more, last) => (.ok (bytes ++ more), last)
      | (.error cause, last) => (.error cause, last)

/-- The next `want` bytes, or fewer at the end of the stream, collected in the room. -/
def readBlock (intake : Intake) (want : Nat) : Except Failure Bytes × Intake :=
  collect readPart want want { intake with room := intake.room.begin }

/-- The next `want` bytes, or fewer at the end of the stream, asked for at once. -/
def readExact (intake : Intake) (want : Nat) : Except Failure Bytes × Intake :=
  collect readSome want want intake

end Intake

end EngineClient.Http
