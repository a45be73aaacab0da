import EngineClient.Proofs.Http.Message
import EngineClient.Proofs.Http.Tokens
import EngineClient.Proofs.Pooling.Channels
/-!
# Every request gets its own reply

A request that gets a connection is answered with what its own reply says, whatever was done with the
dispatcher before (`send_answers_ownReply`). Two things last that this rests on: no byte waits for the daemon
between requests (`unsent_lasting`), and a connection that cannot be used never can be again
(`dropped_lasting`).
-/

namespace EngineClient

/-- Nothing that the program sent waits for the peer. -/
def Channel.Unsent (c : Channel) : Prop := c.toPeer = []

private theorem peerWrite_cases {c after : Channel} {data : Bytes} (wrote : c.peerWrite data = .ok after) :
    after = c ∨ (c.isOpen = true ∧ data ≠ [] ∧ after = { c with toProgram := c.toProgram ++ data }) := by
  rw [Channel.peerWrite] at wrote
  split at wrote
  · cases wrote
    exact .inl rfl
  · rename_i some
    split at wrote
    · rename_i isOpen
      cases wrote
      exact .inr ⟨isOpen, by simpa using some, rfl⟩
    · contradiction

theorem unsent_lasting : Lasting Channel.Unsent where
  drop := id
  shutdown := id
  peerClose := id
  peerWrite unsent wrote := by
    rcases peerWrite_cases wrote with rfl | ⟨-, -, rfl⟩
    · exact unsent
    · exact unsent
  exchange _ _ _ := rfl

theorem dropped_lasting : Lasting fun c => c.isDropped = true where
  drop _ := by simp [Channel.isDropped, Channel.isOpen, Channel.drop]
  shutdown _ := by simp [Channel.isDropped, Channel.isOpen, Channel.shutdown]
  peerClose _ := by simp [Channel.isDropped, Channel.isOpen, Channel.peerClose]
  peerWrite dropped wrote := by
    rcases peerWrite_cases wrote with rfl | ⟨-, some, rfl⟩
    · exact dropped
    · simp [Channel.isDropped, some]
  exchange dropped usable := by simp [dropped] at usable

/-- The stream on which the daemon sends a reply and nothing else. -/
def Reply.source (reply : Reply) : Source :=
  .ofBytes reply.data (if reply.close then .closed else .failing .tryAgain)

/-- A reply that is one response and nothing more, after which neither side closes the connection. -/
def Reply.KeepsOpen (method : Http.Method) (reply : Reply) : Prop :=
  reply.close = false ∧ ∃ form response, form ≠ .toEnd ∧ Http.Message method form false reply.data response ∧
    Http.Persistent response.head

theorem Reply.source_stream (reply : Reply) :
    reply.source.stream = ⟨reply.data, if reply.close then .closed else .failing .tryAgain, []⟩ := by
  have pieces := Source.inPieces_stream [reply.data] (if reply.close then .closed else .failing .tryAgain)
  rwa [List.flatten_singleton] at pieces

namespace Dispatcher

private theorem write_unsent {c : Channel} (unsent : c.Unsent) (usable : c.isDropped = false) (data : Bytes) :
    c.write data = .ok { c with toPeer := data } := by
  obtain ⟨toProgram, toPeer, held, shut, peerOpen⟩ := c
  simp only [Channel.Unsent] at unsent
  subst unsent
  simp only [Channel.isDropped, Bool.or_eq_false_iff, Bool.not_eq_false'] at usable
  cases data with
  | nil => rfl
  | cons b rest => simp [Channel.write, usable.1]

/-- A reply that comes over a connection that can be used is read like the reply alone. -/
private theorem sourceOf_answered {c : Channel} (usable : c.isDropped = false) (data : Bytes) (reply : Reply) :
    sourceOf (answered { c with toPeer := data } reply) = reply.source := by
  obtain ⟨toProgram, toPeer, held, shut, peerOpen⟩ := c
  simp only [Channel.isDropped, Channel.isOpen, Bool.or_eq_false_iff, Bool.not_eq_false', Bool.and_eq_true,
    Bool.not_eq_true', List.isEmpty_iff] at usable
  obtain ⟨⟨⟨rfl, rfl⟩, rfl⟩, rfl⟩ := usable
  cases closes : reply.close <;> simp [sourceOf, answered, Reply.source, Channel.isOpen, closes]

/-- An exchange over a connection that can be used: the daemon gets the request, the program gets what the
reader makes of the reply, and what the reader left stays on the way. -/
theorem exchange_eq {w : World} {channel : Nat} (unsent : (w.channel channel).Unsent)
    (usable : (w.channel channel).isDropped = false) (request : Http.Request) (reply : Reply) :
    exchange request reply channel w =
      ((Http.readResponse request.method reply.source).1,
        some (channel, Http.requestBytes request request.target),
        w.change channel fun _ =>
          { answered { w.channel channel with toPeer := Http.requestBytes request request.target } reply with
            toProgram := (Http.readResponse request.method reply.source).2.allBytes }) := by
  rw [exchange, write_unsent unsent usable]
  simp only [sourceOf_answered usable]

/-- What the pool for a request answers to the wish for a connection. -/
def lendFor (d : Dispatcher) (request : Http.Request) (w : World) : Except TransportError Guard :=
  let (i, d, w) := d.lookup (poolKey request.uri) w
  ((d.pool i).acquire w).1

/-- What becomes of a request by itself: no connection, or the answer to its own reply. -/
def ownDelivery (request : Http.Request) (reply : Reply) : Except TransportError Guard → Delivery
  | .error error => ⟨.error error, none⟩
  | .ok guard =>
    ⟨Http.answer request.method reply.source, some (guard.channel, Http.requestBytes request request.target)⟩

/-- A connection that can still be used after an exchange brought one whole reply. -/
theorem keepsOpen_of_usable {method : Http.Method} {reply : Reply} {c : Channel} {exchange : Http.Exchange}
    {rest : Source} (read : Http.readResponse method reply.source = (.ok exchange, rest))
    (reusable : exchange.reusable = true)
    (usable : ({ answered c reply with toProgram := rest.allBytes } : Channel).isDropped = false) :
    reply.KeepsOpen method := by
  simp only [Channel.isDropped, Channel.isOpen, answered, Bool.or_eq_false_iff, Bool.not_eq_false',
    Bool.and_eq_true, Bool.not_eq_true', List.isEmpty_iff] at usable
  obtain ⟨⟨-, -, stays⟩, none⟩ := usable
  obtain ⟨form, cut, wire, surplus, message, takes, verdict⟩ := Http.readResponse_sound read
  obtain ⟨alive, selfEnding, rfl⟩ := verdict.mp reusable
  have bytes : reply.data = wire := by
    simpa [none, reply.source.allBytes_eq, reply.source_stream] using Source.allBytes_of_takes takes
  have ending : rest.stream.ending = .failing .tryAgain := by
    simpa [reply.source_stream, stays] using (congrArg Stream.ending takes.begins).symm
  subst bytes
  cases cut with
  | true =>
    obtain ⟨-, closed⟩ := takes.ends rfl
    simp [ending] at closed
  | false => exact ⟨stays, form, exchange.response, selfEnding, message, Http.keepsAlive_iff.mp alive⟩

/-- Whether the result of an exchange leaves its connection reusable. -/
def leavesReusable : Except TransportError Http.Exchange → Bool
  | .ok done => done.reusable
  | .error _ => false

/-- A request that gets a connection: its delivery, and the connections after it. -/
theorem send_of_lent {d : Dispatcher} {request : Http.Request} {w : World} {guard : Guard}
    (unsent : ∀ i, (w.connection i).Unsent) (lent : d.lendFor request w = .ok guard) (reply : Reply) :
    let read := Http.readResponse request.method reply.source
    (d.send request reply w).1 =
      ⟨read.1.map (·.response), some (guard.channel, Http.requestBytes request request.target)⟩ ∧
    ∃ (pool : Pool) (w' : World) (c : Channel), guard.channel < w'.channels.length ∧ (d.send request reply w).2.2 =
      (pool.release { guard with broken := !leavesReusable read.1 }
        (w'.change guard.channel fun _ => { answered c reply with toProgram := read.2.allBytes })).2 := by
  have found := fun i => lookup_lasting unsent_lasting (unsent i) d (poolKey request.uri)
  rw [lendFor] at lent
  rw [send]
  generalize d.lookup (poolKey request.uri) w = looked at found lent ⊢
  obtain ⟨j, d, w⟩ := looked
  have still := fun i => Pool.acquire_lasting unsent_lasting (found i) (d.pool j)
  simp only at lent ⊢
  rcases acquired : (d.pool j).acquire w with ⟨result, pool, w'⟩
  rw [acquired] at still lent
  cases lent
  have usable := Pool.acquire_lends acquired
  have made := World.made_of_usable usable
  have unsentNow : (w'.channel guard.channel).Unsent := World.channel_eq_connection made ▸ still guard.channel
  simp only [exchange_eq unsentNow usable, true_and]
  exact ⟨pool, w', _, made, rfl⟩

theorem send_of_none {d : Dispatcher} {request : Http.Request} {w : World} {error : TransportError}
    (none : d.lendFor request w = .error error) (reply : Reply) : (d.send request reply w).1 = ⟨.error error, .none⟩ := by
  rw [lendFor] at none
  rw [send]
  generalize d.lookup (poolKey request.uri) w = looked at none ⊢
  obtain ⟨j, d, w⟩ := looked
  simp only at none ⊢
  generalize (d.pool j).acquire w = acquired at none ⊢
  obtain ⟨result, pool, w'⟩ := acquired
  cases none
  rfl

/-- A connection is lent for a request only when it could be used before. -/
theorem usable_of_lent {d : Dispatcher} {request : Http.Request} {w : World} {guard : Guard}
    (lent : d.lendFor request w = .ok guard) : (w.connection guard.channel).isDropped = false := by
  cases dropped : (w.connection guard.channel).isDropped with
  | false => rfl
  | true =>
    have still := lookup_lasting dropped_lasting dropped d (poolKey request.uri)
    rw [lendFor] at lent
    generalize d.lookup (poolKey request.uri) w = looked at still lent
    obtain ⟨j, d, w⟩ := looked
    have after := Pool.acquire_lasting dropped_lasting still (d.pool j)
    simp only at lent
    rcases acquired : (d.pool j).acquire w with ⟨result, pool, w'⟩
    rw [acquired] at after lent
    cases lent
    have usable := Pool.acquire_lends acquired
    rw [World.channel_eq_connection (World.made_of_usable usable)] at usable
    simp [usable] at after

theorem send_eq {w : World} (unsent : ∀ i, (w.connection i).Unsent) (d : Dispatcher) (request : Http.Request)
    (reply : Reply) : (d.send request reply w).1 = ownDelivery request reply (d.lendFor request w) := by
  cases lent : d.lendFor request w with
  | error error => exact send_of_none lent reply
  | ok guard => exact (send_of_lent unsent lent reply).1

/-- After a request its connection cannot be used, or the reply keeps it open. -/
theorem send_leaves {d : Dispatcher} {request : Http.Request} {w : World} {guard : Guard}
    (unsent : ∀ i, (w.connection i).Unsent) (lent : d.lendFor request w = .ok guard) (reply : Reply) :
    ((d.send request reply w).2.2.connection guard.channel).isDropped = true ∨ reply.KeepsOpen request.method := by
  obtain ⟨-, pool, w', c, made, after⟩ := send_of_lent unsent lent reply
  rcases read : Http.readResponse request.method reply.source with ⟨result, rest⟩
  simp only [read] at after
  rw [after]
  rcases pool.release_cases { guard with broken := !leavesReusable result } (w'.change guard.channel fun _ =>
    { answered c reply with toProgram := rest.allBytes }) with dropped | ⟨whole, kept⟩
  · -- Closed, because it is broken, transient or the pool was closed.
    left
    rw [dropped, World.connection_change, if_pos ⟨rfl, by simpa [World.change] using made⟩]
    simp [Channel.isDropped, Channel.isOpen, Channel.drop]
  · -- Parked, and what the reader left of the reply is still on its way.
    rw [kept, World.connection_change, if_pos ⟨rfl, made⟩]
    cases result with
    | error error => simp [leavesReusable] at whole
    | ok exchange =>
      cases usable : ({ answered c reply with toProgram := rest.allBytes } : Channel).isDropped with
      | true => exact .inl rfl
      | false => exact .inr (keepsOpen_of_usable read (by simpa [leavesReusable] using whole) usable)

end Dispatcher

namespace DispatchSession

/-- What the pool for a request answers to the wish for a connection. -/
def lendFor (s : DispatchSession) (request : Http.Request) : Except TransportError Guard :=
  s.dispatcher.lendFor request s.world

private theorem send_spent {s : DispatchSession} (unsent : ∀ i, (s.world.connection i).Unsent)
    {request : Http.Request} {guard : Guard} (lent : s.lendFor request = .ok guard) (reply : Reply)
    {more : List DispatchStep} {next : Http.Request} {guard' : Guard}
    (again : ((s.step (.send request reply)).2.run more).lendFor next = .ok guard')
    (same : guard'.channel = guard.channel) : reply.KeepsOpen request.method := by
  rcases Dispatcher.send_leaves unsent lent reply with dropped | keeps
  · have sent : ((s.step (.send request reply)).2.world.connection guard.channel).isDropped = true := dropped
    have still := run_lasting dropped_lasting sent more
    have usable := Dispatcher.usable_of_lent again
    rw [same, still] at usable
    contradiction
  · exact keeps

/-- No request gets the reply to another. Whatever was done with a dispatcher and the daemon before, a request
that gets a connection brings the daemon its own bytes and no others, and it is answered with what the reader
makes of the reply to it on a stream that has nothing else. Its connection carries another request only when
that reply is one whole response and no more, and keeps the connection open. -/
theorem send_answers_ownReply (socketPath : String) (settings : DispatchSettings) (files : Files)
    (steps : List DispatchStep) (request : Http.Request) (reply : Reply) :
    let s := (start (.create socketPath settings) files).run steps
    (s.step (.send request reply)).1 = .sent (Dispatcher.ownDelivery request reply (s.lendFor request)) ∧
    ∀ guard, s.lendFor request = .ok guard → ∀ (more : List DispatchStep) (next : Http.Request) (guard' : Guard),
      ((s.step (.send request reply)).2.run more).lendFor next = .ok guard' → guard'.channel = guard.channel →
        reply.KeepsOpen request.method := by
  intro s
  have fresh : ∀ i, ((start (.create socketPath settings) files).world.connection i).Unsent := fun _ => rfl
  have unsent : ∀ i, (s.world.connection i).Unsent := fun i => run_lasting unsent_lasting (fresh i) steps
  refine ⟨congrArg DispatchAnswer.sent (Dispatcher.send_eq unsent s.dispatcher request reply), ?_⟩
  intro guard lent more next guard' again same
  exact send_spent unsent lent reply again same

private def plainRequest : Http.Request := ⟨.get, ⟨none, none, some "/"⟩, .empty, []⟩

private def noContent : Reply := ⟨Text.encode "HTTP/1.1 204 No Content\r\n\r\n", false⟩

/-- The first connection carries a second request. -/
theorem send_answers_ownReply_again :
    let s := start (.create "d.sock" .standard) (.listening daemonPlace)
    s.lendFor plainRequest = .ok ⟨1, 0, false⟩ ∧
    ((s.step (.send plainRequest noContent)).2.run []).lendFor plainRequest = .ok ⟨2, 0, false⟩ ∧
    noContent.KeepsOpen .get := by
  intro s
  have first : s.lendFor plainRequest = .ok ⟨1, 0, false⟩ := by decide +kernel
  have again : ((s.step (.send plainRequest noContent)).2.run []).lendFor plainRequest = .ok ⟨2, 0, false⟩ := by
    decide +kernel
  have answered := send_answers_ownReply "d.sock" .standard (.listening daemonPlace) [] plainRequest noContent
  exact ⟨first, again, answered.2 _ first [] plainRequest _ again rfl⟩

end DispatchSession

end EngineClient
