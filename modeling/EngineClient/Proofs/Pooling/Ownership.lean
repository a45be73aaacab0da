import EngineClient.Proofs.Pooling.DispatchHistory
/-!
# Every connection has one owner

After every run each connection that a pool dialed is parked in that pool, or held by one guard that the table of
the pool lists, or closed (`run_owns_once`). The end of a guard takes its own entry away and no other
(`release_endsLoan`).
-/

namespace EngineClient

open Relation (ReflTransGen)

namespace Pool

theorem Records.perm_loan {pool : Pool} {guards : List Guard} (records : pool.Records guards) {loan : Loan}
    (lent : loan ∈ pool.lent) : pool.lent.Perm (loan :: pool.lent.filter (·.ticket != loan.ticket)) := by
  have mine : (pool.lent.filter (·.ticket == loan.ticket)).Perm [loan] := by
    refine (List.perm_ext_iff_of_nodup ((List.Nodup.of_map _ records.tickets).filter _) (List.nodup_singleton _)).mpr ?_
    intro other
    rw [List.mem_filter, List.mem_singleton, beq_iff_eq]
    constructor
    · rintro ⟨lent', same⟩
      exact records.loan_unique lent' lent same
    · rintro rfl
      exact ⟨lent, rfl⟩
  have parts := List.filter_append_perm (fun other : Loan => other.ticket == loan.ticket) pool.lent
  exact parts.symm.trans (mine.append_right _)

/-- Those of some connections that the program has not given up. -/
def stillHeld (w : World) (connections : List Nat) : List Nat := connections.filter fun c => (w.channel c).held

/-- Those of some connections that the program has given up. -/
def givenUp (w : World) (connections : List Nat) : List Nat := connections.filter fun c => !(w.channel c).held

/-- The accounts of a pool that dialed these connections: those that are not closed are parked in the pool or held by
a guard, each in one place; the table lists exactly the guards, by different tickets; and what was dialed is parked,
lent or closed. -/
structure Accounted (pool : Pool) (guards : List Guard) (w : World) (dialed : List Nat) : Prop where
  places : (stillHeld w dialed).Perm (pool.idle ++ guards.map (·.channel))
  once : (stillHeld w dialed).Nodup
  table : (pool.lent.map Loan.key).Perm (guards.map Guard.key)
  tickets : (pool.lent.map (·.ticket)).Nodup
  total : dialed.length = pool.idle.length + pool.lent.length + (givenUp w dialed).length

theorem Books.Balanced.accounted {mine : Nat → Bool} {pool : Pool} {guards : List Guard} {w : World}
    (balanced : Balanced mine ⟨pool, guards, w⟩) :
    pool.Accounted guards w ((List.range w.channels.length).filter mine) := by
  have once : (stillHeld w ((List.range w.channels.length).filter mine)).Nodup :=
    (List.nodup_range.filter _).filter _
  have places : (stillHeld w ((List.range w.channels.length).filter mine)).Perm
      (pool.idle ++ guards.map (·.channel)) := by
    refine List.perm_iff_count.mpr fun c => ?_
    have listed : c ∈ stillHeld w ((List.range w.channels.length).filter mine) ↔
        (mine c && (w.channel c).held) = true := by
      rw [stillHeld, List.mem_filter, List.mem_filter, List.mem_range, Bool.and_eq_true]
      constructor
      · rintro ⟨⟨-, own⟩, held⟩
        exact ⟨own, held⟩
      · rintro ⟨own, held⟩
        exact ⟨⟨World.made_of_held held, own⟩, held⟩
    rw [List.count_append, once.count]
    simp only [listed]
    exact (balanced.count c).symm
  refine ⟨places, once, balanced.records.loans, balanced.records.tickets, ?_⟩
  have parts := List.length_eq_length_filter_add (l := (List.range w.channels.length).filter mine)
    fun c => (w.channel c).held
  have count := places.length_eq
  have lent := balanced.records.loans.length_eq
  rw [List.length_map, List.length_map] at lent
  rw [List.length_append, List.length_map, ← lent] at count
  rw [parts, ← count]
  rfl

/-- What the end of a guard comes to: the loan of its own ends and no other, and its connection is closed, or parked
when the pool is open and neither the guard nor the loan speaks against it. -/
def EndsLoan (pool : Pool) (guard : Guard) (w : World) (pool' : Pool) (w' : World) : Prop :=
  ∃ loan ∈ pool.lent, loan.key = guard.key ∧ pool.lent.Perm (loan :: pool'.lent) ∧
    if pool.closed || guard.broken || loan.transient then
      pool'.idle = pool.idle ∧ w' = w.change guard.channel .drop
    else pool'.idle = guard.channel :: pool.idle ∧ w' = w

theorem Returns.endsLoan {pool pool' : Pool} {guard : Guard} {guards : List Guard} {w w' : World}
    (records : pool.Records (guard :: guards)) (returns : pool.Returns guard w pool' w') :
    pool.EndsLoan guard w pool' w' := by
  obtain ⟨own, lent, ticket, channel⟩ := records.loan_of_guard List.mem_cons_self
  have key : own.key = guard.key := Prod.ext ticket channel
  have only : ∀ loan ∈ pool.lent, loan.ticket = guard.ticket → loan = own := fun loan listed same =>
    records.loan_unique listed lent (same.trans ticket.symm)
  have kept := records.perm_loan lent
  rw [ticket] at kept
  refine ⟨own, lent, key, ?_⟩
  cases returns with
  | unknown foreign => exact absurd ticket (foreign own lent)
  | closed listed same spent =>
    obtain rfl := only _ listed same
    exact ⟨kept, by rw [if_pos spent]; exact ⟨rfl, rfl⟩⟩
  | parked listed same isOpen whole plain =>
    obtain rfl := only _ listed same
    exact ⟨kept, by simp [isOpen, whole, plain]⟩

theorem release_of_foreign {pool : Pool} {guard : Guard} (foreign : ∀ loan ∈ pool.lent, loan.ticket ≠ guard.ticket)
    (w : World) : pool.release guard w = (pool, w.change guard.channel .drop) := by
  have unlisted : pool.lent.find? (·.ticket == guard.ticket) = none :=
    List.find?_eq_none.mpr fun loan lent => by simpa using foreign loan lent
  rw [release, unlisted]

end Pool

namespace PoolSession

theorem giveBack_endsLoan {s : PoolSession} (named : (s.guards.map (·.1)).Nodup) {mine : Nat → Bool}
    (balanced : Pool.Books.Balanced mine ⟨s.pool, s.guards.map (·.2), s.world⟩) {name : String} {guard : Guard}
    (held : s.guards.lookup name = some guard) :
    (s.giveBack name).guards = Holdings.remove s.guards name ∧
      s.pool.EndsLoan guard s.world (s.giveBack name).pool (s.giveBack name).world := by
  have front := ((Holdings.perm_remove named held).map (·.2)).map Guard.key
  have ends := (s.pool.release_returns guard s.world).endsLoan (balanced.records.congr front)
  rw [giveBack, held]
  exact ⟨rfl, ends⟩

end PoolSession

namespace Dispatcher

theorem owned_create (socketPath : String) (settings : DispatchSettings) (files : Files) :
    (Books.mk (create socketPath settings) [] (.fresh files) []).Owned := by
  refine ⟨rfl, fun i => .of_empty rfl rfl rfl fun c => ?_⟩
  simp [dialedBy]

end Dispatcher

namespace DispatchSession

/-- The books of all pools balance after every run. -/
theorem run_owned {s : DispatchSession} {dialers : List (Option Nat)} (tidy : s.Tidy) (owned : (s.books dialers).Owned)
    (steps : List DispatchStep) : ((s.run steps).books (dialers ++ s.along dials steps)).Owned := by
  induction steps generalizing s dialers with
  | nil =>
    rw [along, List.append_nil]
    exact owned
  | cons step rest ih =>
    have next := Dispatcher.owned_of_moves (step_moves tidy dialers step) owned
    rw [along, ← List.append_assoc]
    exact ih (step_tidy tidy step) next

/-- The connections that a pool dialed in a run. -/
def dialedBy (s : DispatchSession) (steps : List DispatchStep) (i : Nat) : List Nat :=
  (List.range (s.run steps).world.channels.length).filter (Dispatcher.dialedBy (s.along dials steps) i)

/-- The guards held on the connections of a pool. -/
def guardsOn (s : DispatchSession) (i : Nat) : List Guard := Dispatcher.guardsOf (s.guards.map (·.2)) i

theorem release_endsLoan {s : DispatchSession} (tidy : s.Tidy) {dialers : List (Option Nat)}
    (owned : (s.books dialers).Owned) {name : String} {i : Nat} {guard : Guard}
    (held : s.guards.lookup name = some (i, guard)) :
    let after := (s.step (.release name)).2
    after.guards = Holdings.remove s.guards name ∧
    (∀ j, j ≠ i → after.dispatcher.pool j = s.dispatcher.pool j) ∧
    (s.dispatcher.pool i).EndsLoan guard s.world (after.dispatcher.pool i) after.world := by
  intro after
  have made : i < s.dispatcher.pools.length := tidy.lenders _ (Holdings.mem_of_lookup held)
  have order : ((s.guards.map (·.2)).map Dispatcher.tagged).Perm
      (((i, guard) :: (Holdings.remove s.guards name).map (·.2)).map Dispatcher.tagged) := by
    have front := (Holdings.perm_remove tidy.guards held).map fun entry => Dispatcher.tagged entry.2
    rw [List.map_map, List.map_cons, List.map_map]
    exact front
  have mine := Dispatcher.keys_guardsOf_perm order i
  rw [Dispatcher.guardsOf_cons_self] at mine
  have ends := ((s.dispatcher.pool i).release_returns guard s.world).endsLoan ((owned.balanced i).records.congr mine)
  have same : after = { s with
      dispatcher := s.dispatcher.setPool i ((s.dispatcher.pool i).release guard s.world).1
      guards := Holdings.remove s.guards name
      world := ((s.dispatcher.pool i).release guard s.world).2 } := by
    change s.giveBack name = _
    rw [giveBack, held]
  rw [same]
  refine ⟨rfl, fun j differs => Dispatcher.pool_setPool_of_ne (Ne.symm differs) _, ?_⟩
  simp only [Dispatcher.pool_setPool_self made]
  exact ends

/-- Every connection has one owner and is given back once. After every run with a dispatcher and its pools, and after
every run with one pool and those who wait for it, the connections that a pool dialed and that are not closed are
those parked in it and those held by the guards on it, each in one place; its table lists exactly these guards, by
different tickets; and what it dialed is parked, lent or closed. Nothing is parked by a pool that did not dial it.
When a guard ends, whatever the state of its pool, its own entry goes away and no other, and its connection is parked
or closed. A ticket that a pool is not lending changes nothing but the connection that comes with it, which is
closed. -/
theorem run_owns_once (socketPath : String) (settings : DispatchSettings) (files : Files) :
    (∀ steps : List DispatchStep,
      let origin := start (.create socketPath settings) files
      let s := origin.run steps
      (∀ i, (s.dispatcher.pool i).Accounted (s.guardsOn i) s.world (origin.dialedBy steps i)) ∧
      (∀ i c, c ∈ (s.dispatcher.pool i).idle →
        c ∈ origin.dialedBy steps i ∧ ∀ j, c ∈ origin.dialedBy steps j → j = i) ∧
      ∀ name i guard, s.guards.lookup name = some (i, guard) →
        let after := (s.step (.release name)).2
        after.guards = Holdings.remove s.guards name ∧
        (∀ j, j ≠ i → after.dispatcher.pool j = s.dispatcher.pool j) ∧
        (s.dispatcher.pool i).EndsLoan guard s.world (after.dispatcher.pool i) after.world) ∧
    (∀ (baseUrl : String) (steps : List PoolStep),
      let made := Pool.create baseUrl socketPath settings.timeout settings.maxPoolSize settings.poolBlock
      let s := (PoolSession.start made files).run steps
      s.pool.Accounted (s.guards.map (·.2)) s.world (List.range s.world.channels.length) ∧
      ∀ name guard, s.guards.lookup name = some guard →
        (s.giveBack name).guards = Holdings.remove s.guards name ∧
        s.pool.EndsLoan guard s.world (s.giveBack name).pool (s.giveBack name).world) ∧
    ∀ (pool : Pool) (guard : Guard) (w : World), (∀ loan ∈ pool.lent, loan.ticket ≠ guard.ticket) →
      pool.release guard w = (pool, w.change guard.channel .drop) := by
  refine ⟨fun steps => ?_, fun baseUrl steps => ?_, fun pool guard w foreign => Pool.release_of_foreign foreign w⟩
  · intro origin s
    have begins := start_tidy socketPath settings files
    have owned : (s.books (origin.along dials steps)).Owned :=
      run_owned begins (Dispatcher.owned_create socketPath settings files) steps
    have tidy : s.Tidy := run_tidy begins steps
    refine ⟨fun i => (owned.balanced i).accounted, fun i c parked => ?_,
      fun name i guard => release_endsLoan tidy owned⟩
    obtain ⟨dialed, held⟩ := (owned.balanced i).own_of_idle parked
    have made : c < s.world.channels.length := World.made_of_held held
    refine ⟨List.mem_filter.mpr ⟨List.mem_range.mpr made, dialed⟩, fun j other => ?_⟩
    by_contra differs
    have none := Dispatcher.dialedBy_unique dialed (Ne.symm differs)
    exact Bool.false_ne_true (none.symm.trans (List.mem_filter.mp other).2)
  · intro made s
    have history := (PoolSession.Reaches.start made files).run steps
    have balanced : Pool.Books.Balanced (fun _ => true) ⟨s.pool, s.guards.map (·.2), s.world⟩ :=
      Pool.balanced_of_moves history.moves (Pool.balanced_create ..)
    refine ⟨?_, fun name guard => PoolSession.giveBack_endsLoan history.named balanced⟩
    have accounted := balanced.accounted
    rwa [List.filter_eq_self.mpr fun _ _ => rfl] at accounted

/-- A pool for one connection that does not wait has lent two. When the first one comes back, the entry of the second
one stays; a third ticket is not lent. -/
theorem run_owns_once_twoLent :
    let s := (start (.create "d.sock" ⟨none, 2, 1, false⟩) (.listening daemonPlace)).run
      [.pool defaultPoolKey "p", .acquire "p" "x", .acquire "p" "y"]
    let alone := (PoolSession.start (.create defaultPoolKey "d.sock" none 1 false) (.listening daemonPlace)).run
      [.acquire "x", .acquire "y"]
    s.guards.lookup "x" = some (0, ⟨1, 0, false⟩) ∧
    (s.dispatcher.pool 0).EndsLoan ⟨1, 0, false⟩ s.world ((s.step (.release "x")).2.dispatcher.pool 0)
      (s.step (.release "x")).2.world ∧
    alone.guards.lookup "y" = some ⟨2, 1, false⟩ ∧
    alone.pool.EndsLoan ⟨2, 1, false⟩ alone.world (alone.giveBack "y").pool (alone.giveBack "y").world ∧
    (∀ loan ∈ (s.dispatcher.pool 0).lent, loan.ticket ≠ 3) ∧
    (s.dispatcher.pool 0).release ⟨3, 1, false⟩ s.world = (s.dispatcher.pool 0, s.world.change 1 .drop) := by
  intro s alone
  obtain ⟨runs, poolRuns, foreign⟩ := run_owns_once "d.sock" ⟨none, 2, 1, false⟩ (.listening daemonPlace)
  have held : s.guards.lookup "x" = some (0, ⟨1, 0, false⟩) := by decide +kernel
  have held' : alone.guards.lookup "y" = some ⟨2, 1, false⟩ := by decide +kernel
  have unlisted : ∀ loan ∈ (s.dispatcher.pool 0).lent, loan.ticket ≠ 3 := by decide +kernel
  have ends := ((runs _).2.2 "x" 0 _ held).2.2
  have ends' := ((poolRuns defaultPoolKey _).2 "y" _ held').2
  exact ⟨held, ends, held', ends', unlisted, foreign _ ⟨3, 1, false⟩ s.world unlisted⟩

end DispatchSession

end EngineClient
