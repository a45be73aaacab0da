import EngineClient.Proofs.Pooling.Accounts
import Mathlib.Logic.Relation
/-!
# The history of a pool

Every step of a session with one pool is made of what can happen to a pool, its guards and the world
(`Reaches.step`), and so is every run (`Reaches.run`).
-/

namespace EngineClient

open Relation (ReflTransGen)

namespace World

theorem ends_replace {w : World} {i : Nat} {after : Channel} (held : after.held = (w.channel i).held)
    (shut : after.shut = (w.channel i).shut) (j : Nat) :
    ((w.change i fun _ => after).channel j).held = (w.channel j).held ∧
      ((w.change i fun _ => after).channel j).shut = (w.channel j).shut := by
  rw [channel_change]
  split
  · rename_i here
    rw [← here.1]
    exact ⟨held, shut⟩
  · exact ⟨rfl, rfl⟩

end World

/-- The program's end of a connection is as it was. -/
def Channel.SameEnd (before after : Channel) : Prop := after.held = before.held ∧ after.shut = before.shut

namespace Pool

theorem balanced_create (baseUrl socketPath : String) (timeout : Option Duration) (maxSize : Nat) (block : Bool)
    (files : Files) :
    Books.Balanced (fun _ => true) ⟨create baseUrl socketPath timeout maxSize block, [], .fresh files⟩ :=
  .of_empty rfl rfl rfl fun i => by
    rw [World.channel_of_le (Nat.zero_le i)]
    rfl

/-- Books that balance when all connections are the pool's own go on balancing. -/
theorem balanced_of_moves {retiring closing : Prop} {before after : Books}
    (moves : ReflTransGen (Move retiring closing) before after) (balanced : before.Balanced fun _ => true) :
    after.Balanced fun _ => true := by
  induction moves with
  | refl => exact balanced
  | tail _ move ih => exact move.balanced ih

end Pool

namespace PoolSession

theorem sameEnd_written {before : Channel} {result : Except Failure Channel}
    (same : ∀ after, result = .ok after → before.SameEnd after) : before.SameEnd (written before result).2 := by
  cases result with
  | ok after => exact same after rfl
  | error cause => exact ⟨rfl, rfl⟩

theorem sameEnd_write (c : Channel) (data : Bytes) (after : Channel) (sent : c.write data = .ok after) :
    c.SameEnd after := by
  rw [Channel.write] at sent
  split at sent
  · cases sent
    exact ⟨rfl, rfl⟩
  · split at sent
    · cases sent
      exact ⟨rfl, rfl⟩
    · contradiction

theorem sameEnd_peerWrite (c : Channel) (data : Bytes) (after : Channel) (sent : c.peerWrite data = .ok after) :
    c.SameEnd after := by
  rw [Channel.peerWrite] at sent
  split at sent
  · cases sent
    exact ⟨rfl, rfl⟩
  · split at sent
    · cases sent
      exact ⟨rfl, rfl⟩
    · contradiction

theorem sameEnd_read (c : Channel) (most : Nat) : c.SameEnd (wasRead (c.read most)).2 := by
  rw [Channel.read]
  split
  · exact ⟨rfl, rfl⟩
  · split
    · exact ⟨rfl, rfl⟩
    · split <;> exact ⟨rfl, rfl⟩

theorem sameEnd_peerRead (c : Channel) (most : Nat) : c.SameEnd (wasRead (c.peerRead most)).2 := by
  rw [Channel.peerRead]
  split
  · exact ⟨rfl, rfl⟩
  · split
    · exact ⟨rfl, rfl⟩
    · split <;> exact ⟨rfl, rfl⟩

/-- The guard that a settled wait has on the way. -/
def underway : Option (Except TransportError Guard) → List Guard
  | some (.ok guard) => [guard]
  | _ => []

/-- What happened since some books led to a session, some guards of it being on the way to their names. -/
structure Reaches (b : Pool.Books) (waiting : List Guard) (s : PoolSession) : Prop where
  moves : ReflTransGen (Pool.Move True True) b ⟨s.pool, waiting ++ s.guards.map (·.2), s.world⟩
  named : (s.guards.map (·.1)).Nodup

namespace Reaches
variable {b : Pool.Books} {waiting : List Guard} {s : PoolSession}

theorem move (reaches : Reaches b waiting s) {pool : Pool} {others : List Guard} {w : World}
    (move : Pool.Move True True ⟨s.pool, waiting ++ s.guards.map (·.2), s.world⟩
      ⟨pool, others ++ s.guards.map (·.2), w⟩) : Reaches b others { s with pool, world := w } :=
  ⟨reaches.moves.tail move, reaches.named⟩

theorem giveBack (reaches : Reaches b waiting s) (name : String) : Reaches b waiting (s.giveBack name) := by
  rw [PoolSession.giveBack]
  split
  · exact reaches
  · rename_i guard held
    have front := (Holdings.perm_remove reaches.named held).map (·.2)
    have order : (waiting ++ s.guards.map (·.2)).Perm
        (guard :: (waiting ++ (Holdings.remove s.guards name).map (·.2))) :=
      (front.append_left waiting).trans List.perm_middle
    exact ⟨(reaches.moves.tail (.regard (order.map Guard.key))).tail
      (.giveBack (s.pool.release_returns guard s.world)), Holdings.names_remove reaches.named⟩

theorem guards_giveBack (s : PoolSession) (name : String) :
    (s.giveBack name).guards = Holdings.remove s.guards name := by
  rw [PoolSession.giveBack]
  split
  · rename_i absent
    exact (Holdings.remove_of_absent absent).symm
  · rfl

theorem hold {guard : Guard} (reaches : Reaches b [guard] s) (name : String) : Reaches b [] (s.hold name guard) := by
  have back := reaches.giveBack name
  have bound : Holdings.put (s.giveBack name).guards name guard = (name, guard) :: (s.giveBack name).guards := by
    rw [guards_giveBack, Holdings.put_remove]
  refine ⟨?_, Holdings.names_put back.named⟩
  simpa only [PoolSession.hold, bound, List.map_cons, List.nil_append, List.cons_append] using back.moves

theorem acquire (reaches : Reaches b [] s) (name : String) : Reaches b [] (s.acquire name).2 := by
  obtain ⟨attempt, pool', w', tries, acquired⟩ := s.pool.acquire_tries s.world
  have borrowed := reaches.move (.borrow tries)
  rw [PoolSession.acquire, acquired]
  cases attempt with
  | lent guard => exact borrowed.hold name
  | failed error => exact borrowed
  | full => exact borrowed

theorem attemptAgain {settled : Option (Except TransportError Guard)} (reaches : Reaches b (underway settled) s) :
    Reaches b (underway (attemptAgain settled s).1) (attemptAgain settled s).2 := by
  cases settled with
  | some result => exact reaches
  | none =>
    have tries := s.pool.attempt_tries s.world
    rcases tried : s.pool.attempt s.world with ⟨attempt, pool', w'⟩
    rw [tried] at tries
    have borrowed := reaches.move (.borrow tries)
    simp only [PoolSession.attemptAgain, tried]
    cases attempt with
    | lent guard => exact borrowed
    | failed error => exact borrowed
    | full => exact borrowed

theorem meanwhile (reaches : Reaches b waiting s) (happening : Meanwhile) :
    Reaches b waiting (s.meanwhile happening) := by
  cases happening with
  | nothing => exact reaches
  | close => exact reaches.move (.close trivial)
  | retire => exact reaches.move (.retire trivial)

theorem acquireWaitingFor (reaches : Reaches b [] s) (awaited name : String) (happening : Meanwhile) :
    Reaches b [] (s.acquireWaitingFor awaited name happening).2 := by
  have first : Reaches b (underway none) s := reaches
  have last := ((first.attemptAgain.meanwhile happening).attemptAgain.giveBack awaited).attemptAgain
  simp only [PoolSession.acquireWaitingFor]
  split
  · rename_i settled
    rw [settled] at last
    exact last.hold name
  · rename_i settled
    rw [settled] at last
    exact last
  · rename_i settled
    rw [settled] at last
    exact last

theorem withPeer (reaches : Reaches b [] s) (peer : Nat) {f : Channel → PoolAnswer × Channel}
    (same : ∀ c : Channel, c.SameEnd (f c).2) : Reaches b [] (s.withPeer peer f).2 := by
  rw [PoolSession.withPeer]
  split
  · have ends := same (s.world.channel peer)
    exact reaches.move (.elsewhere (World.length_change ..) (World.ends_replace ends.1 ends.2))
  · exact reaches

theorem withHeld (reaches : Reaches b [] s) (name : String) {f : Channel → PoolAnswer × Channel}
    (same : ∀ c : Channel, c.SameEnd (f c).2) : Reaches b [] (s.withHeld name f).2 := by
  rw [PoolSession.withHeld]
  split
  · exact reaches
  · rename_i guard held
    have ends := same (s.world.channel guard.channel)
    exact reaches.move (.elsewhere (World.length_change ..) (World.ends_replace ends.1 ends.2))

theorem markBroken (reaches : Reaches b [] s) {name : String} {guard : Guard}
    (held : s.guards.lookup name = some guard) :
    Reaches b [] { s with guards := Holdings.put s.guards name { guard with broken := true } } := by
  have front := (Holdings.perm_remove reaches.named held).map (fun entry => entry.2.key)
  have marked : (s.guards.map (·.2)).map Guard.key |>.Perm
      (((Holdings.put s.guards name { guard with broken := true }).map (·.2)).map Guard.key) := by
    rw [List.map_map, List.map_map]
    exact front
  exact ⟨reaches.moves.tail (.regard marked), Holdings.names_put reaches.named⟩

/-- Every step is made of what can happen to a pool. -/
theorem step (reaches : Reaches b [] s) (step : PoolStep) : Reaches b [] (s.step step).2 := by
  cases step with
  | acquire name => exact reaches.acquire name
  | acquireWaitingFor awaited name happening => exact reaches.acquireWaitingFor awaited name happening
  | release name =>
    rw [PoolSession.step]
    split
    · exact reaches.giveBack name
    · exact reaches
  | drop name => exact reaches.giveBack name
  | markBroken name =>
    rw [PoolSession.step]
    split
    · exact reaches
    · rename_i guard held
      exact reaches.markBroken held
  | write name data => exact reaches.withHeld name fun c => sameEnd_written (sameEnd_write c data)
  | read name most => exact reaches.withHeld name fun c => sameEnd_read c most
  | peerWrite peer data => exact reaches.withPeer peer fun c => sameEnd_written (sameEnd_peerWrite c data)
  | peerRead peer most => exact reaches.withPeer peer fun c => sameEnd_peerRead c most
  | peerClose peer => exact reaches.withPeer peer fun c => ⟨rfl, rfl⟩
  | listener entry => exact reaches.move (.elsewhere rfl fun i => ⟨rfl, rfl⟩)
  | close => exact reaches.meanwhile .close
  | retire => exact reaches.meanwhile .retire
  | info name =>
    rw [PoolSession.step]
    split <;> exact reaches
  | debug name => exact reaches

theorem run (reaches : Reaches b [] s) (steps : List PoolStep) : Reaches b [] (s.run steps) := by
  induction steps generalizing s with
  | nil => exact reaches
  | cons step rest ih => exact ih (reaches.step step)

theorem start (pool : Pool) (files : Files) :
    Reaches ⟨pool, [], .fresh files⟩ [] (PoolSession.start pool files) :=
  ⟨.refl, List.nodup_nil⟩

end Reaches

end PoolSession

end EngineClient
