import EngineClient.Pooling.Dispatcher
import EngineClient.Pooling.PoolSession
/-!
# Working with a dispatcher

A dispatcher, the names given to its pools and to what is borrowed from them, and everything that can be done
with them by either side.
-/

namespace EngineClient

/-- A dispatcher in use: the names given to its pools, and the connections held with the numbers of their
pools. -/
structure DispatchSession where
  dispatcher : Dispatcher
  names : Holdings Nat
  guards : Holdings (Nat × Guard)
  world : World
deriving Repr, DecidableEq

/-- What can be done with a dispatcher and the daemon. -/
inductive DispatchStep where
  | send (request : Http.Request) (reply : Reply)
  /-- Looking up the pool for an address, and giving it a name. -/
  | pool (url name : String)
  /-- Borrowing from a named pool. -/
  | acquire (pool name : String)
  /-- Giving a connection back, or losing hold of it. -/
  | release (name : String)
  | markBroken (name : String)
  | closePool (name : String)
  | retirePool (name : String)
  | connect
  | peerClose (channel : Nat)
  | peerSend (channel : Nat) (data : Bytes)
  /-- What is at the path of the daemon's socket from now on. -/
  | daemon (entry : Option Entry)
  | close
  | look
deriving Repr, DecidableEq

/-- What a step answers. -/
inductive DispatchAnswer where
  | sent (delivery : Delivery)
  /-- The address a pool serves, and the other names of the same pool. -/
  | pool (baseUrl : String) (sameAs : List String)
  | done
  | failed (error : TransportError)
  | wasHeld (held : Bool)
  | connected (timeout : Option Duration)
  | noPool

namespace DispatchSession

/-- A dispatcher nothing has been done with. -/
def start (dispatcher : Dispatcher) (files : Files) : DispatchSession := ⟨dispatcher, [], [], .fresh files⟩

/-- The place at which the daemon listens. -/
def daemonPlace : Place := .inside ["d.sock"]

/-- Giving back what is held under a name. -/
def giveBack (s : DispatchSession) (name : String) : DispatchSession :=
  match s.guards.lookup name with
  | none => s
  | some (i, guard) =>
    let (pool, world) := (s.dispatcher.pool i).release guard s.world
    { s with dispatcher := s.dispatcher.setPool i pool, guards := Holdings.remove s.guards name, world }

/-- Doing something with a named pool. -/
def withPool (s : DispatchSession) (name : String)
    (f : Dispatcher → World → Nat → Dispatcher × World) : DispatchAnswer × DispatchSession :=
  match s.names.lookup name with
  | none => (.noPool, s)
  | some i =>
    let (dispatcher, world) := f s.dispatcher s.world i
    (.done, { s with dispatcher, world })

/-- One step. -/
def step (s : DispatchSession) : DispatchStep → DispatchAnswer × DispatchSession
  | .send request reply =>
    let (delivery, dispatcher, world) := s.dispatcher.send request reply s.world
    (.sent delivery, { s with dispatcher, world })
  | .pool url name =>
    let (i, dispatcher, world) := s.dispatcher.lookup url s.world
    let same := ((s.names.filter (·.2 == i)).map (·.1)).mergeSort (· ≤ ·)
    (.pool (dispatcher.pool i).baseUrl same, { s with dispatcher, world, names := Holdings.put s.names name i })
  | .acquire pool name =>
    match s.names.lookup pool with
    | none => (.noPool, s)
    | some i =>
      match (s.dispatcher.pool i).acquire s.world with
      | (.ok guard, pool, world) =>
        let s := giveBack { s with dispatcher := s.dispatcher.setPool i pool, world } name
        (.done, { s with guards := Holdings.put s.guards name (i, guard) })
      | (.error error, pool, world) =>
        (.failed error, { s with dispatcher := s.dispatcher.setPool i pool, world })
  | .release name => (.wasHeld (s.guards.lookup name).isSome, s.giveBack name)
  | .markBroken name =>
    match s.guards.lookup name with
    | none => (.wasHeld false, s)
    | some (i, guard) =>
      (.wasHeld true, { s with guards := Holdings.put s.guards name (i, { guard with broken := true }) })
  | .closePool name => s.withPool name Dispatcher.closePool
  | .retirePool name => s.withPool name Dispatcher.retirePool
  | .connect =>
    match s.dispatcher.connect s.world with
    | (.ok timeout, world) => (.connected timeout, { s with world })
    | (.error error, world) => (.failed error, { s with world })
  | .peerClose channel => (.done, { s with world := s.world.change channel .peerClose })
  | .peerSend channel data =>
    let sent := match (s.world.channel channel).peerWrite data with
      | .ok after => s.world.change channel fun _ => after
      | .error _ => s.world
    (.done, { s with world := sent })
  | .daemon entry =>
    (.done, { s with world := { s.world with files := s.world.files.set daemonPlace entry } })
  | .close =>
    let (dispatcher, world) := s.dispatcher.close s.world
    (.done, { s with dispatcher, world })
  | .look => (.done, s)

/-- Steps one after the other. -/
def run (s : DispatchSession) (steps : List DispatchStep) : DispatchSession :=
  steps.foldl (fun s step => (s.step step).2) s

end DispatchSession

end EngineClient
