import EngineClient.System.Failure
import EngineClient.Text.Utf8
/-!
# Sinks

Receivers of bytes that may take only a part of what they are offered, may be interrupted, and may fail.
-/

namespace EngineClient

/-- What happens when a sink is offered bytes at the place of its trouble. -/
inductive Trouble where
  /-- Every call fails. -/
  | failing (cause : Failure)
  /-- The first call is interrupted, later ones are not. -/
  | interruptedOnce
  /-- No byte is taken. -/
  | takesNothing
deriving Repr, DecidableEq

/-- A receiver of bytes. -/
structure Sink where
  /-- The bytes taken so far. -/
  taken : Array UInt8
  /-- The most bytes one call takes, by the number already taken. -/
  appetite : Nat → Nat
  /-- After how many bytes a call is interrupted, for each interruption, in their order. -/
  interrupts : List Nat
  /-- After how many bytes there is trouble, and what. -/
  trouble : Option (Nat × Trouble)
  /-- How often the sink was flushed. -/
  flushes : Nat

namespace Sink

/-- A sink that has taken nothing yet, with no interruptions beside the one its trouble may be. -/
def fresh (appetite : Nat → Nat) (trouble : Option (Nat × Trouble)) : Sink := ⟨#[], appetite, [], trouble, 0⟩

/-- What one call of a sink answers. -/
inductive Answer where
  | took (count : Nat)
  | failed (cause : Failure)
deriving Repr, DecidableEq

/-- The sink after taking these bytes. -/
def take (sink : Sink) (piece : Bytes) : Sink := { sink with taken := sink.taken ++ piece }

/-- A call that offers `data` and is not interrupted: the sink takes what it has appetite for, but nothing past the
place of trouble. -/
def serve (sink : Sink) (data : Bytes) : Answer × Sink :=
  let appetite := sink.appetite sink.taken.size
  match sink.trouble with
  | none =>
    let piece := data.take appetite
    (.took piece.length, sink.take piece)
  | some (place, trouble) =>
    if sink.taken.size < place then
      let piece := data.take (min appetite (place - sink.taken.size))
      (.took piece.length, sink.take piece)
    else
      match trouble with
      | .failing cause => (.failed cause, sink)
      | .interruptedOnce => (.failed (.ofKind .interrupted), { sink with trouble := none })
      | .takesNothing => (.took 0, sink)

/-- One call that offers `data`. -/
def write (sink : Sink) (data : Bytes) : Answer × Sink :=
  match sink.interrupts with
  | [] => sink.serve data
  | place :: later =>
    if sink.taken.size < place then sink.serve data
    else (.failed (.ofKind .interrupted), { sink with interrupts := later })

/-- Offering `data` until all is taken; an interrupted call is made again. `calls` bounds the number of
calls. -/
def writeFor (sink : Sink) (data : Bytes) : (calls : Nat) → Except Failure Unit × Sink
  | 0 => (.error .shortWrite, sink)
  | calls + 1 =>
    if data.isEmpty then (.ok (), sink)
    else
      match sink.write data with
      | (.took 0, next) => (.error .shortWrite, next)
      | (.took count, next) => writeFor next (data.drop count) calls
      | (.failed cause, next) =>
        if cause.isInterrupted then writeFor next data calls else (.error cause, next)

/-- Offering `data` until all is taken. Every call takes a byte, ends the matter, or is interrupted, so that two calls
more than there are bytes and interruptions are enough. -/
def writeAll (sink : Sink) (data : Bytes) : Except Failure Unit × Sink :=
  writeFor sink data (data.length + sink.interrupts.length + 2)

/-- The sink after a flush. -/
def flush (sink : Sink) : Sink := { sink with flushes := sink.flushes + 1 }

end Sink

end EngineClient
