import EngineClient.Socket.Dial
/-!
# Connection pools

A bounded set of connections to one socket: those that lie idle belong to the pool, the others are lent.
Idle and lent connections and those being dialed together never exceed the size of the pool. When it is full,
whoever asks for a connection waits, or gets a transient one that is closed and not parked when it comes back.
-/

namespace EngineClient

/-- What the pool knows of a connection it has lent. -/
structure Loan where
  ticket : Nat
  /-- The number of the connection. -/
  channel : Nat
  /-- Dialed beyond the size of the pool; never parked. -/
  transient : Bool
  /-- The pool holds a handle by which it can shut the connection down. -/
  interruptible : Bool
deriving Repr, DecidableEq

/-- A pool of connections. -/
structure Pool where
  /-- The address the pool serves; for diagnosis only. -/
  baseUrl : String
  socketPath : String
  timeout : Option Duration
  /-- At least one. -/
  maxSize : Nat
  /-- Whether to wait when the pool is full. -/
  block : Bool
  /-- The parked connections, the one parked last first. -/
  idle : List Nat
  lent : List Loan
  /-- The connections being dialed, for which room is kept. -/
  dialing : Nat
  nextTicket : Nat
  closed : Bool
deriving Repr, DecidableEq

/-- What a borrower holds. -/
structure Guard where
  ticket : Nat
  channel : Nat
  /-- The connection cannot be used again. -/
  broken : Bool
deriving Repr, DecidableEq

/-- The counts a pool tells. -/
structure PoolStats where
  idle : Nat
  lent : Nat
  maxSize : Nat
  closed : Bool
deriving Repr, DecidableEq

/-- What one try to borrow comes to. -/
inductive Attempt where
  | lent (guard : Guard)
  | failed (error : TransportError)
  /-- The pool is full: there is nothing to do but wait. -/
  | full
deriving Repr, DecidableEq

namespace Pool

/-- A pool without connections. -/
def create (baseUrl socketPath : String) (timeout : Option Duration) (maxSize : Nat) (block : Bool) :
    Pool :=
  ⟨baseUrl, socketPath, effectiveTimeout timeout, max maxSize 1, block, [], [], 0, 1, false⟩

/-- The counts of a pool. -/
def stats (pool : Pool) : PoolStats := ⟨pool.idle.length, pool.lent.length, pool.maxSize, pool.closed⟩

/-- The connections that count for the size of the pool. -/
def live (pool : Pool) : Nat := pool.idle.length + pool.dialing + (pool.lent.filter (!·.transient)).length

/-- Recording a loan. -/
def lend (pool : Pool) (channel : Nat) (transient : Bool) : Guard × Pool :=
  (⟨pool.nextTicket, channel, false⟩,
    { pool with
      lent := pool.lent ++ [⟨pool.nextTicket, channel, transient, true⟩]
      nextTicket := pool.nextTicket + 1 })

/-- Taking the parked connection that was parked last among those that can still be used; the ones above it
are closed. -/
def takeIdle (w : World) : List Nat → Option Nat × List Nat × World
  | [] => (none, [], w)
  | channel :: rest =>
    if (w.channel channel).isDropped then takeIdle (w.change channel .drop) rest
    else (some channel, rest, w)

/-- Keeping room for a connection while it is dialed; a transient one needs none. -/
def reserve (pool : Pool) (transient : Bool) : Pool :=
  if transient then pool else { pool with dialing := pool.dialing + 1 }

/-- Giving the room back that was kept for a dial. -/
def settle (pool : Pool) (transient : Bool) : Pool :=
  if transient then pool else { pool with dialing := pool.dialing - 1 }

/-- Dialing a connection and lending it, unless the pool was closed meanwhile. -/
def dialAndLend (pool : Pool) (transient : Bool) (w : World) : Attempt × Pool × World :=
  let reserved := pool.reserve transient
  match w.dial pool.socketPath with
  | (.error error, w) => (.failed error, reserved.settle transient, w)
  | (.ok channel, w) =>
    let settled := reserved.settle transient
    if settled.closed then (.failed (.poolClosed pool.socketPath), settled, w.change channel .drop)
    else
      let (guard, pool) := settled.lend channel transient
      (.lent guard, pool, w)

/-- One try to borrow a connection. -/
def attempt (pool : Pool) (w : World) : Attempt × Pool × World :=
  if pool.closed then (.failed (.poolClosed pool.socketPath), pool, w)
  else
    match takeIdle w pool.idle with
    | (some channel, rest, w) =>
      let (guard, pool) := { pool with idle := rest }.lend channel false
      (.lent guard, pool, w)
    | (none, _, w) =>
      let emptied := { pool with idle := [] }
      if emptied.live < emptied.maxSize then emptied.dialAndLend false w
      else if !emptied.block then emptied.dialAndLend true w
      else (.full, emptied, w)

/-- Whether the end of a wait that starts now can be told. -/
def canWait (pool : Pool) (w : World) : Bool :=
  match pool.timeout with
  | some span => (w.deadline span).isSome
  | none => true

/-- The error after the wait for a full pool. A pool without a timeout waits for good; its error tells of
no wait. -/
def exhausted (pool : Pool) : TransportError :=
  .poolExhausted pool.socketPath pool.maxSize (pool.timeout.getD ⟨0⟩)

/-- Borrowing a connection when nobody gives one back meanwhile. -/
def acquire (pool : Pool) (w : World) : Except TransportError Guard × Pool × World :=
  if !pool.canWait w then (.error .deadlineOverflow, pool, w)
  else
    match pool.attempt w with
    | (.lent guard, pool, w) => (.ok guard, pool, w)
    | (.failed error, pool, w) => (.error error, pool, w)
    | (.full, pool, w) => (.error pool.exhausted, pool, w)

/-- Taking a connection back. A ticket the pool does not know only closes the connection; one that is
broken, transient or comes after the pool was closed is closed too. -/
def release (pool : Pool) (guard : Guard) (w : World) : Pool × World :=
  match pool.lent.find? (·.ticket == guard.ticket) with
  | none => (pool, w.change guard.channel .drop)
  | some loan =>
    let returned := { pool with lent := pool.lent.filter (·.ticket != guard.ticket) }
    if pool.closed || guard.broken || loan.transient then
      (returned, w.change guard.channel .drop)
    else ({ returned with idle := guard.channel :: pool.idle }, w)

/-- Closing the parked connections and lending no more; lent ones go on until they come back. -/
def retire (pool : Pool) (w : World) : Pool × World :=
  if pool.closed then (pool, w)
  else ({ pool with closed := true, idle := [] }, pool.idle.foldl (fun w i => w.change i .drop) w)

/-- Closing the parked connections, shutting the lent ones down and lending no more. -/
def close (pool : Pool) (w : World) : Pool × World :=
  let shut := (pool.lent.filter (·.interruptible)).foldl (fun w loan => w.change loan.channel .shutdown) w
  let dropped := pool.idle.foldl (fun w i => w.change i .drop) shut
  ({ pool with
      closed := true
      idle := []
      lent := pool.lent.map fun loan => { loan with interruptible := false } }, dropped)

end Pool

end EngineClient
