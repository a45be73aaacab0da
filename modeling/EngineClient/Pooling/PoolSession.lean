import EngineClient.Pooling.Shown
/-!
# Working with one pool

A pool, the names under which its connections are held, and everything that can be done with them by
either side.
-/

namespace EngineClient

/-- One connection at most is held under each name. -/
abbrev Holdings (α : Type) := List (String × α)

/-- The holdings with a name bound anew. -/
def Holdings.put (holdings : Holdings α) (name : String) (value : α) : Holdings α :=
  (name, value) :: holdings.filter (·.1 != name)

/-- The holdings without a name. -/
def Holdings.remove (holdings : Holdings α) (name : String) : Holdings α := holdings.filter (·.1 != name)

namespace Holdings
variable {α : Type} {holdings : Holdings α} {name : String}

/-- Taking away what is held under a name leaves all else, in its order. -/
theorem remove_eq {value : α} {before after : Holdings α} (named : (holdings.map (·.1)).Nodup)
    (held : holdings = before ++ (name, value) :: after) : remove holdings name = before ++ after := by
  subst held
  rw [List.map_append, List.map_cons, List.nodup_append] at named
  obtain ⟨-, later, apart⟩ := named
  have keptBefore : before.filter (·.1 != name) = before := by
    refine List.filter_eq_self.mpr fun entry listed => ?_
    simpa using fun same => apart entry.1 (List.mem_map_of_mem listed) name List.mem_cons_self same
  have keptAfter : after.filter (·.1 != name) = after := by
    refine List.filter_eq_self.mpr fun entry listed => ?_
    have absent := (List.nodup_cons.mp later).1
    simpa using fun same : entry.1 = name => absent (List.mem_map.mpr ⟨entry, listed, same⟩)
  rw [remove, List.filter_append, keptBefore, List.filter_cons_of_neg (by simp), keptAfter]

theorem mem_of_lookup {value : α} (held : holdings.lookup name = some value) : (name, value) ∈ holdings := by
  obtain ⟨before, after, rfl, -⟩ := List.lookup_eq_some_iff.mp held
  exact List.mem_append_right before List.mem_cons_self

theorem perm_remove {value : α} (named : (holdings.map (·.1)).Nodup) (held : holdings.lookup name = some value) :
    holdings.Perm ((name, value) :: remove holdings name) := by
  obtain ⟨before, after, split, -⟩ := List.lookup_eq_some_iff.mp held
  rw [remove_eq named split, split]
  exact List.perm_middle

theorem remove_of_absent (absent : holdings.lookup name = none) : remove holdings name = holdings := by
  refine List.filter_eq_self.mpr fun entry listed => ?_
  have differs := List.lookup_eq_none_iff.mp absent entry listed
  simpa [bne_iff_ne, ne_comm] using differs

@[simp] theorem remove_remove : remove (remove holdings name) name = remove holdings name := by
  simp [remove]

@[simp] theorem put_remove {value : α} : put (remove holdings name) name value = (name, value) :: remove holdings name := by
  rw [put, ← remove, remove_remove]

theorem names_remove (named : (holdings.map (·.1)).Nodup) : ((remove holdings name).map (·.1)).Nodup :=
  (List.filter_sublist.map _).nodup named

theorem names_put {value : α} (named : (holdings.map (·.1)).Nodup) : ((put holdings name value).map (·.1)).Nodup := by
  refine List.nodup_cons.mpr ⟨?_, names_remove named⟩
  intro listed
  obtain ⟨entry, kept, same⟩ := List.mem_map.mp listed
  simpa [same] using (List.mem_filter.mp kept).2

end Holdings

/-- A pool in use. -/
structure PoolSession where
  pool : Pool
  guards : Holdings Guard
  world : World
deriving Repr, DecidableEq

/-- What happens to a pool while somebody waits for it. -/
inductive Meanwhile where
  | nothing
  | close
  | retire
deriving Repr, DecidableEq

/-- What can be done with a pool and its connections. -/
inductive PoolStep where
  | acquire (name : String)
  /-- Somebody waits for a connection, to hold it as `name`, until the one held as `awaited` is given
  back. -/
  | acquireWaitingFor (awaited name : String) (meanwhile : Meanwhile)
  | release (name : String)
  | drop (name : String)
  | markBroken (name : String)
  | write (name : String) (data : Bytes)
  | read (name : String) (most : Nat)
  | peerWrite (peer : Nat) (data : Bytes)
  | peerRead (peer most : Nat)
  | peerClose (peer : Nat)
  /-- What is at the path of the socket from now on. -/
  | listener (entry : Option Entry)
  | close
  | retire
  | info (name : String)
  | debug (name : String)
deriving Repr, DecidableEq

/-- What a step answers. -/
inductive PoolAnswer where
  /-- A connection was lent; `dialed` tells whether it is new. -/
  | lent (channel : Nat) (dialed : Bool)
  | failed (error : TransportError)
  /-- The same, after a wait. -/
  | lentLate (channel : Nat) (dialed : Bool)
  | failedLate (error : TransportError)
  | done
  | failedWrite (cause : Failure)
  /-- Whether something was held under the name. -/
  | wasHeld (held : Bool)
  | notHeld
  | noPeer
  | marked (before after : Bool)
  | bytes (answer : Channel.Answer)
  | isClosed (closed : Bool)
  | ofConnection (timeout : Option Duration) (isDropped : Bool)
  | ofPool
  | texts (pool : String) (connection : Option String)
deriving Repr, DecidableEq

namespace PoolSession

/-- A pool nothing has been done with. -/
def start (pool : Pool) (files : Files) : PoolSession := ⟨pool, [], .fresh files⟩

/-- The place at which somebody may listen. -/
def listenerPlace : Place := .inside ["d.sock"]

/-- Giving back what is held under a name. -/
def giveBack (s : PoolSession) (name : String) : PoolSession :=
  match s.guards.lookup name with
  | none => s
  | some guard =>
    let (pool, world) := s.pool.release guard s.world
    ⟨pool, Holdings.remove s.guards name, world⟩

/-- Holding a connection under a name; what was held under it is given back. -/
def hold (s : PoolSession) (name : String) (guard : Guard) : PoolSession :=
  let s := s.giveBack name
  { s with guards := Holdings.put s.guards name guard }

/-- Whether a connection is new since `s`. -/
def isNew (s : PoolSession) (channel : Nat) : Bool := s.world.channels.length ≤ channel

/-- Borrowing a connection to hold it under a name. -/
def acquire (s : PoolSession) (name : String) : PoolAnswer × PoolSession :=
  match s.pool.acquire s.world with
  | (.ok guard, pool, world) =>
    (.lent guard.channel (s.isNew guard.channel), hold { s with pool, world } name guard)
  | (.error error, pool, world) => (.failed error, { s with pool, world })

/-- What happens to the pool meanwhile. -/
def meanwhile (s : PoolSession) : Meanwhile → PoolSession
  | .nothing => s
  | .close =>
    let (pool, world) := s.pool.close s.world
    { s with pool, world }
  | .retire =>
    let (pool, world) := s.pool.retire s.world
    { s with pool, world }

/-- A try to borrow, unless an earlier one has settled the matter; a new connection is one made since the
wait began with `before` connections. -/
def attemptAgain (settled : Option (Except TransportError Guard)) (s : PoolSession) :
    Option (Except TransportError Guard) × PoolSession :=
  match settled with
  | some result => (some result, s)
  | none =>
    match s.pool.attempt s.world with
    | (.lent guard, pool, world) => (some (.ok guard), { s with pool, world })
    | (.failed error, pool, world) => (some (.error error), { s with pool, world })
    | (.full, pool, world) => (none, { s with pool, world })

/-- Borrowing by somebody who waits: a try at once, one after what happens meanwhile, and one after the
awaited connection was given back. -/
def acquireWaitingFor (s : PoolSession) (awaited name : String) (happening : Meanwhile) :
    PoolAnswer × PoolSession :=
  let (first, afterFirst) := attemptAgain none s
  let (second, afterSecond) := attemptAgain first (afterFirst.meanwhile happening)
  let (third, afterThird) := attemptAgain second (afterSecond.giveBack awaited)
  match third with
  | some (.ok guard) => (.lentLate guard.channel (s.isNew guard.channel), afterThird.hold name guard)
  | some (.error error) => (.failedLate error, afterThird)
  | none => (.failedLate afterThird.pool.exhausted, afterThird)

/-- Doing something with the connection of a peer. -/
def withPeer (s : PoolSession) (peer : Nat) (f : Channel → PoolAnswer × Channel) :
    PoolAnswer × PoolSession :=
  if peer < s.world.channels.length then
    let (answer, channel) := f (s.world.channel peer)
    (answer, { s with world := s.world.change peer fun _ => channel })
  else (.noPeer, s)

/-- Doing something with a connection held. -/
def withHeld (s : PoolSession) (name : String) (f : Channel → PoolAnswer × Channel) :
    PoolAnswer × PoolSession :=
  match s.guards.lookup name with
  | none => (.notHeld, s)
  | some guard =>
    let (answer, channel) := f (s.world.channel guard.channel)
    (answer, { s with world := s.world.change guard.channel fun _ => channel })

/-- What a write answers. -/
def written (before : Channel) : Except Failure Channel → PoolAnswer × Channel
  | .ok after => (.done, after)
  | .error cause => (.failedWrite cause, before)

/-- What a read answers. -/
def wasRead : Channel.Answer × Channel → PoolAnswer × Channel
  | (answer, after) => (.bytes answer, after)

/-- One step. -/
def step (s : PoolSession) : PoolStep → PoolAnswer × PoolSession
  | .acquire name => s.acquire name
  | .acquireWaitingFor awaited name happening => s.acquireWaitingFor awaited name happening
  | .release name =>
    if (s.guards.lookup name).isSome then (.done, s.giveBack name) else (.notHeld, s)
  | .drop name => (.wasHeld (s.guards.lookup name).isSome, s.giveBack name)
  | .markBroken name =>
    match s.guards.lookup name with
    | none => (.notHeld, s)
    | some guard =>
      (.marked guard.broken true, { s with guards := Holdings.put s.guards name { guard with broken := true } })
  | .write name data => s.withHeld name fun c => written c (c.write data)
  | .read name most => s.withHeld name fun c => wasRead (c.read most)
  | .peerWrite peer data => s.withPeer peer fun c => written c (c.peerWrite data)
  | .peerRead peer most => s.withPeer peer fun c => wasRead (c.peerRead most)
  | .peerClose peer => s.withPeer peer fun c => (.done, c.peerClose)
  | .listener entry =>
    (.done, { s with world := { s.world with files := s.world.files.set listenerPlace entry } })
  | .close => let s := s.meanwhile .close; (.isClosed s.pool.closed, s)
  | .retire => let s := s.meanwhile .retire; (.isClosed s.pool.closed, s)
  | .info name =>
    match s.guards.lookup name with
    | some guard => (.ofConnection s.pool.timeout (s.world.channel guard.channel).isDropped, s)
    | none => (.ofPool, s)
  | .debug name => (.texts s.pool.debug ((s.guards.lookup name).map (·.debug s.pool)), s)

/-- Steps one after the other. -/
def run (s : PoolSession) (steps : List PoolStep) : PoolSession :=
  steps.foldl (fun s step => (s.step step).2) s

end PoolSession

end EngineClient
