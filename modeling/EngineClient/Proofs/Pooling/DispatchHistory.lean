import EngineClient.Proofs.Pooling.Ledger
import EngineClient.Proofs.Pooling.PoolHistory
/-!
# The history of a dispatcher

Every step of a session with a dispatcher is made of what can happen to its pools, their guards and the world
(`step_moves`). A step retires only the pools that it lets go of and those that the caller names, and closes only
those that it shuts down.
-/

namespace EngineClient

open Relation (ReflTransGen)

namespace DispatchSession

/-! ## What a step does to which pools -/

/-- The pools that the caller closes or retires by a step. -/
def callerShuts (s : DispatchSession) : DispatchStep → List Nat
  | .closePool name | .retirePool name => (s.names.lookup name).toList
  | _ => []

/-- The pools whose lent connections a step shuts down. -/
def shutsDown (s : DispatchSession) : DispatchStep → List Nat
  | .closePool name => (s.names.lookup name).toList
  | .close => s.dispatcher.cache.map (·.2)
  | _ => []

/-- The pools that are kept before a step and not after it. -/
def letsGo (s : DispatchSession) (step : DispatchStep) : List Nat :=
  (s.dispatcher.cache.map (·.2)).filter fun i => decide (i ∉ (s.step step).2.dispatcher.cache.map (·.2))

/-- The pool that a step asks for a connection. -/
def borrowsFrom (s : DispatchSession) : DispatchStep → Option Nat
  | .send request _ => some (s.dispatcher.lookup (Dispatcher.poolKey request.uri) s.world).1
  | .acquire pool _ => s.names.lookup pool
  | _ => none

/-- Who dials each connection that a step makes: a pool, or the program by itself. -/
def dials (s : DispatchSession) (step : DispatchStep) : List (Option Nat) :=
  List.replicate ((s.step step).2.world.channels.length - s.world.channels.length) (s.borrowsFrom step)

/-- What the steps of a run tell, one after the other. -/
def along {α : Type} (f : DispatchSession → DispatchStep → List α) (s : DispatchSession) : List DispatchStep → List α
  | [] => []
  | step :: rest => f s step ++ along f (s.step step).2 rest

theorem run_append (s : DispatchSession) (steps more : List DispatchStep) :
    s.run (steps ++ more) = (s.run steps).run more := List.foldl_append

/-- The books of the pools of a session. -/
def books (s : DispatchSession) (dialers : List (Option Nat)) : Dispatcher.Books :=
  ⟨s.dispatcher, s.guards.map (·.2), s.world, dialers⟩

end DispatchSession

namespace Dispatcher

@[simp] theorem setPool_setPool (d : Dispatcher) (i : Nat) (first second : Pool) :
    (d.setPool i first).setPool i second = d.setPool i second := by
  simp [setPool]

/-- What a guard is about, with the number of its pool. -/
def tagged (entry : Nat × Guard) : Nat × Nat × Nat := (entry.1, entry.2.key)

theorem keys_guardsOf_perm {guards guards' : List (Nat × Guard)} (same : (guards.map tagged).Perm (guards'.map tagged))
    (i : Nat) : ((guardsOf guards i).map Guard.key).Perm ((guardsOf guards' i).map Guard.key) := by
  have keys : ∀ guards : List (Nat × Guard),
      (guardsOf guards i).map Guard.key = ((guards.map tagged).filter (·.1 == i)).map (·.2) := by
    intro guards
    rw [guardsOf, List.map_map, List.filter_map, List.map_map]
    rfl
  rw [keys, keys]
  exact (same.filter _).map _

theorem length_lookup {d : Dispatcher} (tidy : d.Tidy) (url : String) (w : World) :
    (d.lookup url w).2.2.channels.length = w.channels.length := by
  have finds := lookup_finds tidy url w
  generalize d.lookup url w = looked at finds ⊢
  obtain ⟨i, d', w'⟩ := looked
  simp only at finds ⊢
  cases finds with
  | kept cached => rfl
  | made absent room => rfl
  | replaced absent full last => exact Pool.length_retire ..

theorem length_exchange (request : Http.Request) (reply : Reply) (channel : Nat) (w : World) :
    (exchange request reply channel w).2.2.channels.length = w.channels.length := by
  rw [exchange]
  split
  · rfl
  · exact World.length_change ..

theorem length_close (d : Dispatcher) (w : World) : (d.close w).2.channels.length = w.channels.length := by
  obtain ⟨closed, -, same⟩ := close_keeps (P := fun _ w' => w'.channels.length = w.channels.length) (d := d) rfl
    fun entry _ d' w' same => (Pool.length_close (d'.pool entry.2) w').trans same
  exact same

/-- An exchange over a connection leaves the program's ends of all connections as they are. -/
theorem ends_exchange (request : Http.Request) (reply : Reply) (channel : Nat) (w : World) (i : Nat) :
    ((exchange request reply channel w).2.2.channel i).held = (w.channel i).held ∧
      ((exchange request reply channel w).2.2.channel i).shut = (w.channel i).shut := by
  rw [exchange]
  split
  · exact ⟨rfl, rfl⟩
  · rename_i sent wrote
    have same := PoolSession.sameEnd_write _ _ sent wrote
    refine World.ends_replace ?_ ?_ i
    · exact same.1
    · exact same.2

section
variable {retiring closing : Nat → Prop} {d : Dispatcher} {guards : List (Nat × Guard)} {w : World}
  {dialers : List (Option Nat)}

/-- Something that happens to one pool and makes no connection. -/
theorem Move.within {guards' : List (Nat × Guard)} {w' : World} {i : Nat} {pool' : Pool} (made : i < d.pools.length)
    (move : Pool.Move (retiring i) (closing i) ⟨d.pool i, guardsOf guards i, w⟩ ⟨pool', guardsOf guards' i, w'⟩)
    (others : ∀ j, i ≠ j → guardsOf guards' j = guardsOf guards j)
    (count : w'.channels.length = w.channels.length) :
    Move retiring closing ⟨d, guards, w, dialers⟩ ⟨d.setPool i pool', guards', w', dialers⟩ := by
  have moved : Move retiring closing ⟨d, guards, w, dialers⟩ ⟨d.setPool i pool', guards', w',
      dialers ++ List.replicate (w'.channels.length - w.channels.length) (some i)⟩ := .inPool made move others
  rw [count, Nat.sub_self, List.replicate_zero, List.append_nil] at moved
  exact moved

theorem Move.retires {i : Nat} (made : i < d.pools.length) (may : retiring i) :
    Move retiring closing ⟨d, guards, w, dialers⟩ ⟨(d.retirePool w i).1, guards, (d.retirePool w i).2, dialers⟩ :=
  .within made (.retire may) (fun _ _ => rfl) (Pool.length_retire ..)

theorem Move.closes {i : Nat} (made : i < d.pools.length) (may : closing i) :
    Move retiring closing ⟨d, guards, w, dialers⟩ ⟨(d.closePool w i).1, guards, (d.closePool w i).2, dialers⟩ :=
  .within made (.close may) (fun _ _ => rfl) (Pool.length_close ..)

theorem Move.gives {i : Nat} {guard : Guard} (made : i < d.pools.length) :
    Move retiring closing ⟨d, (i, guard) :: guards, w, dialers⟩
      ⟨d.setPool i ((d.pool i).release guard w).1, guards, ((d.pool i).release guard w).2, dialers⟩ := by
  have returns := (d.pool i).release_returns guard w
  refine .within made ?_ (fun j differs => (guardsOf_cons_of_ne differs guard guards).symm) returns.length_eq
  rw [guardsOf_cons_self]
  exact .giveBack returns

theorem Move.borrows {i : Nat} {attempt : Attempt} {pool' : Pool} {w' : World} (made : i < d.pools.length)
    (tries : (d.pool i).Tries w attempt pool' w') :
    Move retiring closing ⟨d, guards, w, dialers⟩
      ⟨d.setPool i pool', (Pool.Attempt.guards attempt).map (i, ·) ++ guards, w',
        dialers ++ List.replicate (w'.channels.length - w.channels.length) (some i)⟩ := by
  refine .inPool made ?_ fun j differs => ?_
  · have mine : guardsOf ((Pool.Attempt.guards attempt).map (i, ·) ++ guards) i =
        Pool.Attempt.guards attempt ++ guardsOf guards i := by
      cases attempt <;> simp [Pool.Attempt.guards, guardsOf]
    rw [mine]
    exact .borrow tries
  · cases attempt <;> simp [Pool.Attempt.guards, guardsOf, differs]

/-- A pool that lent a connection takes it back, whatever was found out about it. -/
theorem moves_return {i : Nat} {guard : Guard} {pool : Pool} (made : i < d.pools.length) (broken : Bool) :
    ReflTransGen (Move retiring closing) ⟨d.setPool i pool, (i, guard) :: guards, w, dialers⟩
      ⟨d.setPool i (pool.release { guard with broken } w).1, guards, (pool.release { guard with broken } w).2,
        dialers⟩ := by
  have inside : i < (d.setPool i pool).pools.length := by simpa [setPool] using made
  have marked : Move retiring closing ⟨d.setPool i pool, (i, guard) :: guards, w, dialers⟩
      ⟨d.setPool i pool, (i, { guard with broken }) :: guards, w, dialers⟩ :=
    .regard (keys_guardsOf_perm (List.Perm.refl _))
  have given : Move retiring closing ⟨d.setPool i pool, (i, { guard with broken }) :: guards, w, dialers⟩ _ :=
    .gives inside
  rw [pool_setPool_self made, setPool_setPool] at given
  exact (ReflTransGen.single marked).tail given

theorem moves_lookup (tidy : d.Tidy) (url : String)
    (may : ∀ i ∈ d.cache.map (·.2), i ∉ (d.lookup url w).2.1.cache.map (·.2) → retiring i) :
    ReflTransGen (Move retiring closing) ⟨d, guards, w, dialers⟩
      ⟨(d.lookup url w).2.1, guards, (d.lookup url w).2.2, dialers⟩ := by
  have finds := lookup_finds tidy url w
  generalize d.lookup url w = looked at finds may ⊢
  obtain ⟨i, d', w'⟩ := looked
  simp only at finds may ⊢
  cases finds with
  | @kept i cached => exact .single (.keep _)
  | made absent room => exact (ReflTransGen.single (.make url)).tail (.keep _)
  | @replaced rest oldest absent full last =>
    have listed : oldest ∈ d.cache := last ▸ List.mem_append_right rest List.mem_cons_self
    have older : oldest.2 < d.pools.length := tidy.made oldest listed
    have inside : oldest.2 < (d.extended url rest).pools.length := by
      simp only [extended, List.length_append]
      omega
    have gone : oldest.2 ∉ ((url, d.pools.length) :: rest).map (·.2) := by
      intro still
      rcases List.mem_cons.mp still with same | still
      · exact Nat.ne_of_lt older same
      · have apart := tidy.numbers
        rw [last, List.map_append, List.nodup_append] at apart
        exact apart.2.2 _ still _ List.mem_cons_self rfl
    have retire : retiring oldest.2 := may _ (List.mem_map_of_mem listed) (Finds.cache_replaced ▸ gone)
    exact ((ReflTransGen.single (.make url)).tail (.keep ((url, d.pools.length) :: rest))).tail (.retires inside retire)

theorem moves_close (made : ∀ entry ∈ d.cache, entry.2 < d.pools.length) (may : ∀ i ∈ d.cache.map (·.2), closing i) :
    ReflTransGen (Move retiring closing) ⟨d, guards, w, dialers⟩ ⟨(d.close w).1, guards, (d.close w).2, dialers⟩ := by
  obtain ⟨closed, same, -, moves⟩ := close_keeps
    (P := fun d' w' => d'.shelf = d.shelf ∧
      ReflTransGen (Move retiring closing) ⟨d, guards, w, dialers⟩ ⟨d', guards, w', dialers⟩)
    ⟨rfl, .refl⟩ fun entry kept d' w' before => by
      have inside : entry.2 < d'.pools.length := length_of_shelf before.1 ▸ made entry kept
      exact ⟨(d'.shelf_closePool w' entry.2).trans before.1,
        before.2.tail (.closes inside (may _ (List.mem_map_of_mem kept)))⟩
  rw [same]
  exact moves.tail (.keep [])

theorem moves_connect :
    ReflTransGen (Move retiring closing) ⟨d, guards, w, dialers⟩ ⟨d, guards, (d.connect w).2,
      dialers ++ List.replicate ((d.connect w).2.channels.length - w.channels.length) none⟩ := by
  rw [connect, World.dial]
  cases w.dialFault d.socketPath with
  | some cause =>
    simp only [Nat.sub_self, List.replicate_zero, List.append_nil]
    exact .refl
  | none =>
    have count : (w.grow.change w.channels.length .drop).channels.length - w.channels.length = 1 := by simp
    change ReflTransGen (Move retiring closing) ⟨d, guards, w, dialers⟩
      ⟨d, guards, w.grow.change w.channels.length .drop, dialers ++ List.replicate
        ((w.grow.change w.channels.length .drop).channels.length - w.channels.length) none⟩
    rw [count]
    exact .single .outside

theorem moves_send (tidy : d.Tidy) (request : Http.Request) (reply : Reply)
    (may : ∀ i ∈ d.cache.map (·.2), i ∉ (d.lookup (poolKey request.uri) w).2.1.cache.map (·.2) → retiring i) :
    ReflTransGen (Move retiring closing) ⟨d, guards, w, dialers⟩
      ⟨(d.send request reply w).2.1, guards, (d.send request reply w).2.2,
        dialers ++ List.replicate ((d.send request reply w).2.2.channels.length - w.channels.length)
          (some (d.lookup (poolKey request.uri) w).1)⟩ := by
  have finds := lookup_finds tidy (poolKey request.uri) w
  have count := length_lookup tidy (poolKey request.uri) w
  have found : ReflTransGen (Move retiring closing) ⟨d, guards, w, dialers⟩ _ := moves_lookup tidy _ may
  have made := (finds.found tidy).1
  rw [send]
  generalize d.lookup (poolKey request.uri) w = looked at found count made ⊢
  obtain ⟨i, d', w'⟩ := looked
  simp only at found count made ⊢
  obtain ⟨attempt, pool', lent, tries, acquired⟩ := (d'.pool i).acquire_tries w'
  have borrowed := found.tail (.borrows made tries)
  rw [count] at borrowed
  rw [acquired]
  cases attempt with
  | failed error => exact borrowed
  | full => exact borrowed
  | lent guard =>
    simp only [Pool.Attempt.outcome]
    rcases exchanged : exchange request reply guard.channel lent with ⟨result, received, after⟩
    have ends := ends_exchange request reply guard.channel lent
    have same := length_exchange request reply guard.channel lent
    rw [exchanged] at ends same
    -- The exchange and the return make no connection, so that those made are the ones of the loan.
    have counts : ∀ (pool : Pool) (guard : Guard),
        (pool.release guard after).2.channels.length = lent.channels.length :=
      fun pool guard => (pool.release_returns guard after).length_eq.trans same
    simp only [counts]
    exact (borrowed.tail (.elsewhere same ends)).trans (moves_return made _)

end

end Dispatcher

namespace DispatchSession
section
variable {retiring closing : Nat → Prop} {s : DispatchSession} {dialers : List (Option Nat)}

theorem Tidy.congr {s' : DispatchSession} (tidy : s.Tidy) (shelf : s'.dispatcher.shelf = s.dispatcher.shelf)
    (names : s'.names = s.names) (guards : s'.guards = s.guards) : s'.Tidy := by
  have count : s'.dispatcher.pools.length = s.dispatcher.pools.length := Dispatcher.length_of_shelf shelf
  refine ⟨tidy.dispatcher.congr shelf, ?_, ?_, ?_⟩
  · rw [names, count]; exact tidy.names
  · rw [guards]; exact tidy.guards
  · rw [guards, count]; exact tidy.lenders

theorem moves_giveBack {b : Dispatcher.Books} (tidy : s.Tidy) (waiting : List (Nat × Guard))
    (earlier : ReflTransGen (Dispatcher.Move retiring closing) b
      ⟨s.dispatcher, waiting ++ s.guards.map (·.2), s.world, dialers⟩) (name : String) :
    ReflTransGen (Dispatcher.Move retiring closing) b
      ⟨(s.giveBack name).dispatcher, waiting ++ (s.giveBack name).guards.map (·.2), (s.giveBack name).world,
        dialers⟩ := by
  rw [giveBack]
  split
  · exact earlier
  · rename_i i guard held
    have front := (Holdings.perm_remove tidy.guards held).map (·.2)
    have order : (waiting ++ s.guards.map (·.2)).Perm
        ((i, guard) :: (waiting ++ (Holdings.remove s.guards name).map (·.2))) :=
      (front.append_left waiting).trans List.perm_middle
    have made : i < s.dispatcher.pools.length := tidy.lenders _ (Holdings.mem_of_lookup held)
    exact (earlier.tail (.regard (Dispatcher.keys_guardsOf_perm (order.map Dispatcher.tagged)))).tail (.gives made)

theorem length_giveBack (s : DispatchSession) (name : String) :
    (s.giveBack name).world.channels.length = s.world.channels.length := by
  rw [giveBack]
  split
  · rfl
  · exact (Pool.release_returns ..).length_eq

/-- A step that makes no connection and asks no pool for one. -/
theorem moves_of_same {s' : DispatchSession}
    (moves : ReflTransGen (Dispatcher.Move retiring closing) (s.books dialers) (s'.books dialers))
    (count : s'.world.channels.length = s.world.channels.length) (dialer : Option Nat) :
    ReflTransGen (Dispatcher.Move retiring closing) (s.books dialers)
      (s'.books (dialers ++ List.replicate (s'.world.channels.length - s.world.channels.length) dialer)) := by
  rw [count, Nat.sub_self, List.replicate_zero, List.append_nil]
  exact moves

theorem moves_acquire (tidy : s.Tidy) (pool name : String) :
    ReflTransGen (Dispatcher.Move retiring closing) (s.books dialers)
      ((s.step (.acquire pool name)).2.books (dialers ++ s.dials (.acquire pool name))) := by
  rw [dials, borrowsFrom]
  cases bound : s.names.lookup pool with
  | none =>
    have same : (s.step (.acquire pool name)).2 = s := by simp only [DispatchSession.step, bound]
    rw [same]
    exact moves_of_same .refl rfl none
  | some i =>
    have made : i < s.dispatcher.pools.length := tidy.names _ (Holdings.mem_of_lookup bound)
    obtain ⟨attempt, pool', w', tries, acquired⟩ := (s.dispatcher.pool i).acquire_tries s.world
    have borrowed : Dispatcher.Move retiring closing (s.books dialers) _ := .borrows made tries
    simp only [DispatchSession.step, bound, acquired]
    cases attempt with
    | failed error => exact .single borrowed
    | full => exact .single borrowed
    | lent guard =>
      -- What was held under the name goes back before the name is bound anew.
      have still : ({ s with dispatcher := s.dispatcher.setPool i pool', world := w' } : DispatchSession).Tidy :=
        tidy.congr (s.dispatcher.shelf_setPool i tries.asMade) rfl rfl
      have back := moves_giveBack still [(i, guard)] (.single borrowed) name
      have bound : ∀ (s : DispatchSession) value, Holdings.put (s.giveBack name).guards name value =
          (name, value) :: (s.giveBack name).guards := by
        intro s value
        rw [guards_giveBack, Holdings.put_remove]
      simp only [Pool.Attempt.outcome, bound, length_giveBack]
      exact back

theorem moves_markBroken (tidy : s.Tidy) (name : String) :
    ReflTransGen (Dispatcher.Move retiring closing) (s.books dialers)
      ((s.step (.markBroken name)).2.books dialers) := by
  cases held : s.guards.lookup name with
  | none =>
    have same : (s.step (.markBroken name)).2 = s := by simp only [DispatchSession.step, held]
    rw [same]
  | some entry =>
    obtain ⟨i, guard⟩ := entry
    have front := (Holdings.perm_remove tidy.guards held).map (fun entry => Dispatcher.tagged entry.2)
    have marked : ((s.guards.map (·.2)).map Dispatcher.tagged).Perm
        (((Holdings.put s.guards name (i, { guard with broken := true })).map (·.2)).map Dispatcher.tagged) := by
      rw [List.map_map, List.map_map]
      exact front
    simp only [DispatchSession.step, held]
    exact .single (.regard (Dispatcher.keys_guardsOf_perm marked))

theorem length_withPool (s : DispatchSession) (name : String) {f : Dispatcher → World → Nat → Dispatcher × World}
    (count : ∀ i, (f s.dispatcher s.world i).2.channels.length = s.world.channels.length) :
    (s.withPool name f).2.world.channels.length = s.world.channels.length := by
  rw [withPool]
  split
  · rfl
  · exact count _

theorem moves_withPool (name : String) {f : Dispatcher → World → Nat → Dispatcher × World}
    (does : ∀ i, s.names.lookup name = some i → Dispatcher.Move retiring closing (s.books dialers)
      ⟨(f s.dispatcher s.world i).1, s.guards.map (·.2), (f s.dispatcher s.world i).2, dialers⟩) :
    ReflTransGen (Dispatcher.Move retiring closing) (s.books dialers) ((s.withPool name f).2.books dialers) := by
  rw [withPool]
  split
  · exact .refl
  · rename_i i bound
    exact .single (does i bound)

/-- What can happen during a step: it retires only the pools that it lets go of and those that the caller names, and
closes only those that it shuts down. -/
abbrev Happens (s : DispatchSession) (step : DispatchStep) : Dispatcher.Books → Dispatcher.Books → Prop :=
  ReflTransGen (Dispatcher.Move (· ∈ s.callerShuts step ++ s.letsGo step) (· ∈ s.shutsDown step))

/-- Every step is made of what can happen to the pools. -/
theorem step_moves (tidy : s.Tidy) (dialers : List (Option Nat)) (step : DispatchStep) :
    s.Happens step (s.books dialers) ((s.step step).2.books (dialers ++ s.dials step)) := by
  have lost : ∀ i ∈ s.dispatcher.cache.map (·.2), i ∉ (s.step step).2.dispatcher.cache.map (·.2) →
      i ∈ s.callerShuts step ++ s.letsGo step := fun i kept gone =>
    List.mem_append_right _ (List.mem_filter.mpr ⟨kept, decide_eq_true gone⟩)
  have quiet : (s.step step).2.world.channels.length = s.world.channels.length →
      s.Happens step (s.books dialers) ((s.step step).2.books dialers) →
      s.Happens step (s.books dialers) ((s.step step).2.books (dialers ++ s.dials step)) :=
    fun count moves => moves_of_same moves count _
  cases step with
  | send request reply =>
    have cache : (s.step (.send request reply)).2.dispatcher.cache =
        (s.dispatcher.lookup (Dispatcher.poolKey request.uri) s.world).2.1.cache :=
      congrArg Dispatcher.Shelf.cache (s.step_shelf (.send request reply))
    rw [cache] at lost
    exact Dispatcher.moves_send tidy.dispatcher request reply lost
  | pool url name =>
    exact quiet (Dispatcher.length_lookup tidy.dispatcher url s.world)
      (Dispatcher.moves_lookup tidy.dispatcher url lost)
  | acquire pool name => exact moves_acquire tidy pool name
  | release name =>
    refine quiet (length_giveBack s name) ?_
    exact moves_giveBack tidy [] .refl name
  | markBroken name =>
    refine quiet ?_ (moves_markBroken tidy name)
    simp only [DispatchSession.step]
    split <;> rfl
  | closePool name =>
    refine quiet (length_withPool s name fun i => Pool.length_close ..) (moves_withPool name fun i bound => ?_)
    exact .closes (tidy.names _ (Holdings.mem_of_lookup bound)) (Option.mem_toList.mpr bound)
  | retirePool name =>
    refine quiet (length_withPool s name fun i => Pool.length_retire ..) (moves_withPool name fun i bound => ?_)
    exact .retires (tidy.names _ (Holdings.mem_of_lookup bound)) (List.mem_append_left _ (Option.mem_toList.mpr bound))
  | connect =>
    have same : (s.step .connect).2 = { s with world := (s.dispatcher.connect s.world).2 } := by
      simp only [DispatchSession.step]
      split <;> simp_all
    rw [dials, same]
    exact Dispatcher.moves_connect
  | peerClose channel =>
    refine quiet (World.length_change ..) (.single (.elsewhere (World.length_change ..) fun i => ?_))
    rw [show (s.step (.peerClose channel)).2.world = s.world.change channel .peerClose from rfl, World.channel_change]
    split <;> exact ⟨rfl, rfl⟩
  | peerSend channel data =>
    cases sent : (s.world.channel channel).peerWrite data with
    | error cause =>
      have same : (s.step (.peerSend channel data)).2 = s := by simp only [DispatchSession.step, sent]
      rw [dials, same]
      exact moves_of_same .refl rfl _
    | ok after =>
      have same : (s.step (.peerSend channel data)).2 = { s with world := s.world.change channel fun _ => after } := by
        simp only [DispatchSession.step, sent]
      have ends := PoolSession.sameEnd_peerWrite _ _ after sent
      rw [dials, same]
      refine moves_of_same ?_ (World.length_change ..) _
      exact .single (.elsewhere (World.length_change ..) (World.ends_replace ends.1 ends.2))
  | daemon entry => exact quiet rfl (.single (.elsewhere rfl fun _ => ⟨rfl, rfl⟩))
  | close =>
    exact quiet (Dispatcher.length_close ..) (Dispatcher.moves_close tidy.dispatcher.made fun i kept => kept)
  | look => exact quiet rfl .refl

/-! ## One pool over steps and runs -/

theorem step_poolFor (s : DispatchSession) (tidy : s.Tidy) (step : DispatchStep) :
    (s.step step).2.dispatcher.poolFor = s.dispatcher.poolFor :=
  Dispatcher.poolFor_of_moves (step_moves tidy [] step)

theorem length_le_of_run (tidy : s.Tidy) (steps : List DispatchStep) :
    s.dispatcher.pools.length ≤ (s.run steps).dispatcher.pools.length := by
  induction steps generalizing s with
  | nil => exact Nat.le_refl _
  | cons step rest ih => exact Nat.le_trans (step_length_le tidy.dispatcher step) (ih (step_tidy tidy step))

section
variable {j : Nat} {P : Pool → Prop} (tidy : s.Tidy)
include tidy

theorem step_pool {step : DispatchStep}
    (kept : ∀ {b b' : Pool.Books}, Pool.Move (j ∈ s.callerShuts step ++ s.letsGo step) (j ∈ s.shutsDown step) b b' →
      P b.pool → P b'.pool)
    (made : j < s.dispatcher.pools.length) (holds : P (s.dispatcher.pool j)) : P ((s.step step).2.dispatcher.pool j) :=
  Dispatcher.pool_of_moves kept (step_moves tidy [] step) made holds

theorem step_new {step : DispatchStep}
    (kept : ∀ {b b' : Pool.Books}, Pool.Move (j ∈ s.callerShuts step ++ s.letsGo step) (j ∈ s.shutsDown step) b b' →
      P b.pool → P b'.pool)
    (fresh : ∀ url, P (s.dispatcher.poolFor url)) (unmade : s.dispatcher.pools.length ≤ j)
    (made : j < (s.step step).2.dispatcher.pools.length) : P ((s.step step).2.dispatcher.pool j) :=
  Dispatcher.new_of_moves kept fresh (step_moves tidy [] step) unmade made

variable (kept : ∀ {b b' : Pool.Books}, Pool.Move True True b b' → P b.pool → P b'.pool)
include kept

/-- What holds of a pool and survives all that can happen to it holds of it after every run. -/
theorem run_pool (made : j < s.dispatcher.pools.length) (holds : P (s.dispatcher.pool j)) (steps : List DispatchStep) :
    P ((s.run steps).dispatcher.pool j) := by
  induction steps generalizing s with
  | nil => exact holds
  | cons step rest ih =>
    have more := step_length_le tidy.dispatcher step
    exact ih (step_tidy tidy step) (Nat.lt_of_lt_of_le made more)
      (step_pool tidy (fun move => kept move.weaken) made holds)

/-- What holds of every new pool and survives all that can happen to it holds of every pool that a run makes. -/
theorem run_new (fresh : ∀ url, P (s.dispatcher.poolFor url)) (unmade : s.dispatcher.pools.length ≤ j)
    (steps : List DispatchStep) (made : j < (s.run steps).dispatcher.pools.length) :
    P ((s.run steps).dispatcher.pool j) := by
  induction steps generalizing s with
  | nil => exact absurd made (Nat.not_lt.mpr unmade)
  | cons step rest ih =>
    by_cases now : j < (s.step step).2.dispatcher.pools.length
    · exact run_pool (step_tidy tidy step) kept now
        (step_new tidy (fun move => kept move.weaken) fresh unmade now) rest
    · have same : (s.step step).2.dispatcher.poolFor = s.dispatcher.poolFor := step_poolFor s tidy step
      exact ih (step_tidy tidy step) (same ▸ fresh) (Nat.le_of_not_lt now) made

end

end

end DispatchSession

end EngineClient
