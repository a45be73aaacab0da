import EngineClient.Http.Reading
import EngineClient.Http.Writing
import EngineClient.Pooling.Shown
/-!
# The dispatcher

Requests over pooled connections: one pool for each address, of which the least recently used one goes when
there are too many.
-/

namespace EngineClient

/-- How a dispatcher keeps its pools. -/
structure DispatchSettings where
  timeout : Option Duration
  /-- How many pools are kept; none counts as one. -/
  poolConnections : Nat
  /-- How many connections a pool has. -/
  maxPoolSize : Nat
  /-- Whether to wait for a connection of a full pool. -/
  poolBlock : Bool
deriving Repr, DecidableEq

/-- The settings used when none are given. -/
def DispatchSettings.standard : DispatchSettings := ⟨some (.ofSeconds 60), 25, 10, true⟩

/-- The address of the pool for requests that name none. -/
def defaultPoolKey : String := "http+docker://localhost"

/-- A dispatcher: all pools it ever made, by number, and the addresses of those it keeps, the most recently
used one first. -/
structure Dispatcher where
  socketPath : String
  settings : DispatchSettings
  pools : List Pool
  cache : List (String × Nat)
deriving Repr, DecidableEq

/-- What the daemon does when a request has come: it sends these bytes, and closes its end or not. -/
structure Reply where
  data : Bytes
  close : Bool
deriving Repr, DecidableEq

/-- What becomes of a request. -/
structure Delivery where
  outcome : Except TransportError Http.Response
  /-- The connection that brought the request to the daemon, and the bytes it brought. -/
  received : Option (Nat × Bytes)

namespace Dispatcher

/-- A dispatcher without pools for the socket at a path. -/
def create (socketPath : String) (settings : DispatchSettings) : Dispatcher := ⟨socketPath, settings, [], []⟩

/-- A dispatcher for the socket a URL names. -/
def ofUrl (url : String) (settings : DispatchSettings) : Except TransportError Dispatcher :=
  match SocketUrl.path url with
  | .ok path => .ok (create path settings)
  | .error reason => .error (.invalidUrl url reason)

/-- How many pools are kept at most. -/
def capacity (d : Dispatcher) : Nat := max d.settings.poolConnections 1

/-- The pool of that number. -/
def pool (d : Dispatcher) (i : Nat) : Pool := d.pools.getD i (.create "" "" none 1 true)

/-- The dispatcher with one pool changed. -/
def setPool (d : Dispatcher) (i : Nat) (pool : Pool) : Dispatcher := { d with pools := d.pools.set i pool }

/-- Retiring a pool. -/
def retirePool (d : Dispatcher) (w : World) (i : Nat) : Dispatcher × World :=
  let (retired, w) := (d.pool i).retire w
  (d.setPool i retired, w)

/-- Closing a pool. -/
def closePool (d : Dispatcher) (w : World) (i : Nat) : Dispatcher × World :=
  let (closed, w) := (d.pool i).close w
  (d.setPool i closed, w)

/-- The pool for an address: the one that is kept, which becomes the most recently used, or a new one. When
there is one too many then, the least recently used one is retired. -/
def lookup (d : Dispatcher) (url : String) (w : World) : Nat × Dispatcher × World :=
  match d.cache.lookup url with
  | some i => (i, { d with cache := (url, i) :: d.cache.filter (·.1 != url) }, w)
  | none =>
    let i := d.pools.length
    let made := Pool.create url d.socketPath d.settings.timeout d.settings.maxPoolSize d.settings.poolBlock
    let cache := (url, i) :: d.cache
    let grown := { d with pools := d.pools ++ [made], cache := cache.take d.capacity }
    let (d, w) := (cache.drop d.capacity).foldl (fun (d, w) (_, old) => retirePool d w old) (grown, w)
    (i, d, w)

/-- The address of the pool for a request: scheme and authority of its URI when it has both. -/
def poolKey (uri : Http.Uri) : String :=
  match uri.scheme, uri.authority with
  | some scheme, some authority => scheme ++ "://" ++ authority
  | _, _ => defaultPoolKey

/-- The source a connection is to its reader: what has arrived, and then the end of the stream or, when the
peer keeps it open, reads that run into the timeout. -/
def sourceOf (c : Channel) : Source :=
  .ofBytes c.toProgram (if c.isOpen then .failing .tryAgain else .closed)

/-- The connection after the peer took what was sent and did as its reply says. -/
def answered (c : Channel) (reply : Reply) : Channel :=
  { c with toPeer := [], toProgram := c.toProgram ++ reply.data, peerOpen := c.peerOpen && !reply.close }

/-- One request and its response over a connection, when the peer replies like this. The flag tells whether
the connection can be used again. -/
def exchange (request : Http.Request) (reply : Reply) (channel : Nat) (w : World) :
    Except TransportError Http.Exchange × Option (Nat × Bytes) × World :=
  match (w.channel channel).write (Http.requestBytes request request.target) with
  | .error cause => (.error (.io cause), none, w)
  | .ok sent =>
    let replied := answered sent reply
    let (result, rest) := Http.readResponse request.method (sourceOf replied)
    (result, some (channel, sent.toPeer),
      w.change channel fun _ => { replied with toProgram := rest.allBytes })

/-- Sending a request over a pooled connection. The connection goes back to its pool, and is marked broken
unless the response leaves it reusable. -/
def send (d : Dispatcher) (request : Http.Request) (reply : Reply) (w : World) :
    Delivery × Dispatcher × World :=
  let (i, d, w) := d.lookup (poolKey request.uri) w
  match (d.pool i).acquire w with
  | (.error error, pool, w) => (⟨.error error, none⟩, d.setPool i pool, w)
  | (.ok guard, pool, w) =>
    let (result, received, w) := exchange request reply guard.channel w
    let reusable := match result with
      | .ok done => done.reusable
      | .error _ => false
    let (pool, w) := pool.release { guard with broken := !reusable } w
    (⟨result.map (·.response), received⟩, d.setPool i pool, w)

/-- Dialing a connection outside of any pool, and giving it up. -/
def connect (d : Dispatcher) (w : World) : Except TransportError (Option Duration) × World :=
  match w.dial d.socketPath with
  | (.ok channel, w) => (.ok (effectiveTimeout d.settings.timeout), w.change channel .drop)
  | (.error error, w) => (.error error, w)

/-- Closing all pools that are kept, the least recently used one first. -/
def close (d : Dispatcher) (w : World) : Dispatcher × World :=
  let (closed, w) := d.cache.reverse.foldl (fun (d, w) (_, i) => closePool d w i) (d, w)
  ({ closed with cache := [] }, w)

/-- The text shown for a dispatcher. -/
def debug (d : Dispatcher) : String :=
  "UnixHttpAdapter \x7b socket_path: " ++ Text.quotePath d.socketPath ++
    ", config: AdapterConfig \x7b timeout: " ++ timeoutText d.settings.timeout ++
    ", pool_connections: " ++ toString d.settings.poolConnections ++ ", max_pool_size: " ++
    toString d.settings.maxPoolSize ++ ", pool_block: " ++ boolText d.settings.poolBlock ++
    " \x7d, pools: " ++ toString d.cache.length ++ " \x7d"

end Dispatcher

end EngineClient
