import EngineClient.System.Files
import EngineClient.Text.Duration
/-!
# The world around the program

Files, the connections to whoever listens on a socket, the programs that were started, and the clock.
-/

namespace EngineClient

/-- A connection between the program and a peer: what is on its way in each direction, and which ends are
open. -/
structure Channel where
  /-- Bytes the peer has sent and the program has not read. -/
  toProgram : Bytes
  /-- Bytes the program has sent and the peer has not read. -/
  toPeer : Bytes
  /-- The program still holds its end. -/
  held : Bool
  /-- The program has shut its end down. -/
  shut : Bool
  /-- The peer has not closed its end. -/
  peerOpen : Bool
deriving Repr, DecidableEq, Inhabited

namespace Channel

/-- A connection nobody has sent anything on. -/
def fresh : Channel := ⟨[], [], true, false, true⟩

/-- Whether both ends are open. -/
def isOpen (c : Channel) : Bool := c.held && !c.shut && c.peerOpen

/-- What a read at one end answers. -/
inductive Answer where
  | data (bytes : Bytes)
  /-- The stream has ended. -/
  | ended
  /-- Nothing has arrived, and more may come. -/
  | nothing
deriving Repr, DecidableEq

/-- The program sends. -/
def write (c : Channel) (data : Bytes) : Except Failure Channel :=
  if data.isEmpty then .ok c
  else if c.isOpen then .ok { c with toPeer := c.toPeer ++ data }
  else .error .brokenPipe

/-- The program reads at most `most` bytes. -/
def read (c : Channel) (most : Nat) : Answer × Channel :=
  if most = 0 then (.ended, c)
  else if !c.toProgram.isEmpty then
    (.data (c.toProgram.take most), { c with toProgram := c.toProgram.drop most })
  else if c.isOpen then (.nothing, c)
  else (.ended, c)

/-- The peer sends. -/
def peerWrite (c : Channel) (data : Bytes) : Except Failure Channel :=
  if data.isEmpty then .ok c
  else if c.isOpen then .ok { c with toProgram := c.toProgram ++ data }
  else .error .brokenPipe

/-- The peer reads at most `most` bytes. -/
def peerRead (c : Channel) (most : Nat) : Answer × Channel :=
  if most = 0 then (.ended, c)
  else if !c.toPeer.isEmpty then
    (.data (c.toPeer.take most), { c with toPeer := c.toPeer.drop most })
  else if c.isOpen then (.nothing, c)
  else (.ended, c)

/-- The peer closes its end in both directions. -/
def peerClose (c : Channel) : Channel := { c with peerOpen := false }

/-- The program shuts its end down; the descriptor stays. -/
def shutdown (c : Channel) : Channel := { c with shut := true }

/-- The program gives its end up. -/
def drop (c : Channel) : Channel := { c with held := false }

/-- Whether a connection nobody uses cannot be used again: the peer has hung up, or has sent bytes nobody
asked for. -/
def isDropped (c : Channel) : Bool := !c.isOpen || !c.toProgram.isEmpty

end Channel

/-- What a started program was given. -/
structure Started where
  /-- The number of the program. -/
  program : Nat
  arguments : List String
  /-- What it read, when it read its input. -/
  input : Option Bytes
  /-- The variables it was to tell of. -/
  environment : Option (List (String × Option String))
deriving Repr, DecidableEq

/-- Everything outside the program. -/
structure World where
  files : Files
  /-- All connections ever made, numbered in the order of their making. -/
  channels : List Channel
  /-- The programs started, in order. -/
  started : List Started
  /-- The time shown by the clock, since its start. -/
  now : Duration
deriving Repr, DecidableEq

namespace World

/-- A world with these files in which nothing has happened; the system has been up for an hour. -/
def fresh (files : Files) : World := ⟨files, [], [], .ofSeconds 3600⟩

/-- The connection of that number. -/
def channel (w : World) (i : Nat) : Channel := w.channels.getD i default

/-- The world with one connection changed. -/
def change (w : World) (i : Nat) (f : Channel → Channel) : World :=
  { w with channels := w.channels.modify i f }

/-- One more than the seconds the clock can show. -/
def clockLimit : Nat := 9223372036854775808

/-- The instant that is `span` after now, when the clock can show it. -/
def deadline (w : World) (span : Duration) : Option Duration :=
  let sum : Duration := ⟨w.now.nanoseconds + span.nanoseconds⟩
  if sum.seconds < clockLimit then some sum else none

end World

end EngineClient
