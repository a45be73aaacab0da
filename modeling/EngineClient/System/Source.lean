import EngineClient.System.Failure
import EngineClient.Text.Utf8
/-!
# Sources

Senders of bytes that arrive in pieces, with failures between them.
-/

namespace EngineClient

/-- What the reads of a source meet, one after the other. -/
inductive Event where
  /-- Bytes that arrived together: one read takes from them only. -/
  | bytes (piece : Bytes)
  /-- One read fails. -/
  | failure (cause : Failure)
deriving Repr, DecidableEq

/-- What every read meets after the last event. -/
inductive Ending where
  /-- The stream has ended. -/
  | closed
  /-- Every read fails. -/
  | failing (cause : Failure)
deriving Repr, DecidableEq

/-- A sender of bytes. -/
structure Source where
  events : List Event
  ending : Ending
deriving Repr, DecidableEq

namespace Source

/-- A source that sends these bytes at once and then comes to its ending. -/
def ofBytes (bytes : Bytes) (ending : Ending) : Source := ⟨[.bytes bytes], ending⟩

/-- All bytes a source has to send. -/
def allBytes (source : Source) : Bytes :=
  source.events.flatMap fun event => match event with
    | .bytes piece => piece
    | .failure _ => []

/-! ## Single reads -/

/-- What one read of a source answers. -/
inductive Answer where
  /-- These bytes, at least one. -/
  | got (bytes : Bytes)
  | failed (cause : Failure)
  | closed
deriving Repr, DecidableEq

/-- One read of at most `most` bytes, and the source after it. Empty pieces are passed over. -/
def readEvents (most : Nat) (ending : Ending) : List Event → Answer × Source
  | [] =>
    match ending with
    | .closed => (.closed, ⟨[], ending⟩)
    | .failing cause => (.failed cause, ⟨[], ending⟩)
  | .failure cause :: rest => (.failed cause, ⟨rest, ending⟩)
  | .bytes [] :: rest => readEvents most ending rest
  | .bytes (b :: piece) :: rest =>
    match (b :: piece).drop most with
    | [] => (.got (b :: piece), ⟨rest, ending⟩)
    | left => (.got ((b :: piece).take most), ⟨.bytes left :: rest, ending⟩)

/-- One read of at most `most` bytes, and the source after it. -/
def read (source : Source) (most : Nat) : Answer × Source := readEvents most source.ending source.events

/-- One read of at most `most` bytes that is made again as long as it is interrupted. -/
def fetchEvents (most : Nat) (ending : Ending) : List Event → Answer × Source
  | [] => readEvents most ending []
  | .failure cause :: rest =>
    if cause.isInterrupted then fetchEvents most ending rest else (.failed cause, ⟨rest, ending⟩)
  | .bytes [] :: rest => fetchEvents most ending rest
  | .bytes (b :: piece) :: rest => readEvents most ending (.bytes (b :: piece) :: rest)

/-- One read of at most `most` bytes that is made again as long as it is interrupted, and the source after it. -/
def fetch (source : Source) (most : Nat) : Answer × Source := fetchEvents most source.ending source.events

/-! ## Reading on -/

/-- Reading until `want` more bytes are there or the stream ends; an interrupted read is made again. The
bytes are added to `before`. -/
def gatherEvents (ending : Ending) (want : Nat) (before : Bytes) :
    List Event → Except Failure Bytes × Source
  | [] =>
    if want = 0 then (.ok before, ⟨[], ending⟩)
    else
      match ending with
      | .closed => (.ok before, ⟨[], ending⟩)
      | .failing cause => (.error cause, ⟨[], ending⟩)
  | .failure cause :: rest =>
    if want = 0 then (.ok before, ⟨.failure cause :: rest, ending⟩)
    else if cause.isInterrupted then gatherEvents ending want before rest
    else (.error cause, ⟨rest, ending⟩)
  | .bytes piece :: rest =>
    match piece.drop want with
    | [] => gatherEvents ending (want - piece.length) (before ++ piece) rest
    | left => (.ok (before ++ piece.take want), ⟨.bytes left :: rest, ending⟩)

/-- Reading until the body that starts with `before` has `length` bytes or the stream ends. -/
def gather (source : Source) (before : Bytes) (length : Nat) : Except Failure Bytes × Source :=
  gatherEvents source.ending (length - before.length) before source.events

/-- Reading to the end of the stream; an interrupted read is made again. The bytes are added to
`before`. -/
def drainEvents (ending : Ending) (before : Bytes) : List Event → Except Failure Bytes × Source
  | [] =>
    match ending with
    | .closed => (.ok before, ⟨[], ending⟩)
    | .failing cause => (.error cause, ⟨[], ending⟩)
  | .failure cause :: rest =>
    if cause.isInterrupted then drainEvents ending before rest else (.error cause, ⟨rest, ending⟩)
  | .bytes piece :: rest => drainEvents ending (before ++ piece) rest

/-- Reading everything up to the end of the stream, after `before`. -/
def drain (source : Source) (before : Bytes) : Except Failure Bytes × Source :=
  drainEvents source.ending before source.events

end Source

end EngineClient
