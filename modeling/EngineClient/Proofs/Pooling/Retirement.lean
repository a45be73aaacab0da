import EngineClient.Proofs.Pooling.Capacity
import EngineClient.Proofs.Pooling.Ownership
import Mathlib.Algebra.GroupWithZero.Nat
/-!
# Pools that are let go of

A pool that a dispatcher no longer keeps is closed and has nothing parked, for good, so that neither open pools nor
parked connections pile up (`run_leaves_nothing`). What it has lent goes on until it comes back and is closed then;
closing the dispatcher shuts down what the kept pools have lent.
-/

namespace EngineClient

namespace Dispatcher

theorem closed_setPool {d : Dispatcher} {i j : Nat} {pool : Pool} (same : pool.closed = (d.pool i).closed) :
    ((d.setPool i pool).pool j).closed = (d.pool j).closed := by
  by_cases here : i = j
  · subst here
    by_cases made : i < d.pools.length
    · rw [pool_setPool_self made, same]
    · simp [Dispatcher.pool, setPool, made]
  · rw [pool_setPool_of_ne here]

variable {d d' : Dispatcher} {url : String} {w w' : World} {i : Nat}

/-- A lookup retires what it lets go of. -/
theorem Finds.closed (finds : d.Finds url w i d' w') (tidy : d.Tidy) {j : Nat} (kept : j ∈ d.cache.map (·.2))
    (gone : j ∉ d'.cache.map (·.2)) : (d'.pool j).closed = true := by
  cases finds with
  | kept cached =>
    have same := (Holdings.perm_remove tidy.urls cached).map (·.2)
    exact absurd (same.mem_iff.mp kept) gone
  | made absent room => exact absurd (List.mem_cons_of_mem _ kept) gone
  | @replaced rest oldest absent full last =>
    rw [Finds.cache_replaced] at gone
    rw [last, List.map_append] at kept
    have here : j = oldest.2 := by
      rcases List.mem_append.mp kept with old | here
      · exact absurd (List.mem_cons_of_mem _ old) gone
      · simpa using here
    have listed : oldest ∈ d.cache := last ▸ List.mem_append_right rest List.mem_cons_self
    have made : oldest.2 < (d.extended url rest).pools.length := by
      have older := tidy.made oldest listed
      simp only [extended, List.length_append]
      omega
    rw [here, retirePool, pool_setPool_self made, Pool.retire]
    split
    · assumption
    · rfl

/-- Closing closes every pool that is kept, and uses the handles on what it has lent. -/
theorem close_closes (tidy : d.Tidy) (w : World) (kept : i ∈ d.cache.map (·.2)) :
    ((d.close w).1.pool i).closed = true ∧ ∀ loan ∈ ((d.close w).1.pool i).lent, loan.interruptible = false := by
  have closes : ∀ (pool : Pool) (w : World), (pool.close w).1.closed = true ∧
      ∀ loan ∈ (pool.close w).1.lent, loan.interruptible = false := by
    intro pool w
    refine ⟨rfl, fun loan listed => ?_⟩
    obtain ⟨old, lent, rfl⟩ := List.mem_map.mp listed
    rfl
  have each : ∀ (entries : List (String × Nat)) (d : Dispatcher) (w : World), i < d.pools.length →
      (i ∈ entries.map (·.2) ∨ (d.pool i).closed = true ∧ ∀ loan ∈ (d.pool i).lent, loan.interruptible = false) →
      let closed := (entries.foldl (fun before entry => closePool before.1 before.2 entry.2) (d, w)).1
      (closed.pool i).closed = true ∧ ∀ loan ∈ (closed.pool i).lent, loan.interruptible = false := by
    intro entries
    induction entries with
    | nil => exact fun d w made done => done.resolve_left List.not_mem_nil
    | cons entry rest ih =>
      intro d w made done
      have still : i < (d.closePool w entry.2).1.pools.length := by
        rw [length_of_shelf (shelf_closePool ..)]
        exact made
      refine ih (d.closePool w entry.2).1 (d.closePool w entry.2).2 still ?_
      have changed : (d.closePool w entry.2).1 = d.setPool entry.2 ((d.pool entry.2).close w).1 := rfl
      by_cases here : entry.2 = i
      · right
        rw [changed, here, pool_setPool_self made]
        exact closes (d.pool i) w
      · rcases done with listed | already
        · exact .inl ((List.mem_cons.mp listed).resolve_left (Ne.symm here))
        · right
          rw [changed, pool_setPool_of_ne here]
          exact already
  obtain ⟨entry, listed, rfl⟩ := List.mem_map.mp kept
  have reversed : entry.2 ∈ d.cache.reverse.map (·.2) := List.mem_map_of_mem (List.mem_reverse.mpr listed)
  exact each d.cache.reverse d w (tidy.made entry listed) (.inl reversed)

end Dispatcher

namespace Pool

/-- Closed pools have nothing parked, and the others no more than their size. -/
theorem sum_idle_le {size : Nat} {pools : List Pool} (within : ∀ pool ∈ pools, pool.Fits ∧ pool.maxSize = size) :
    (pools.map (·.idle.length)).sum ≤ (pools.filter (!·.closed)).length * size := by
  induction pools with
  | nil => exact Nat.zero_le _
  | cons pool rest ih =>
    have others := ih fun other listed => within other (List.mem_cons_of_mem _ listed)
    obtain ⟨fits, same⟩ := within pool List.mem_cons_self
    rw [List.map_cons, List.sum_cons]
    by_cases closed : pool.closed = true
    · have none : pool.idle.length = 0 := by rw [fits.closed_idle closed, List.length_nil]
      rw [List.filter_cons_of_neg (by simp [closed]), none]
      omega
    · have le := fits.live_le
      rw [live, same] at le
      rw [List.filter_cons_of_pos (by simpa using closed), List.length_cons, Nat.succ_mul]
      omega

end Pool

namespace Dispatcher

theorem pools_eq_range (d : Dispatcher) : d.pools = (List.range d.pools.length).map d.pool := by
  refine List.ext_getElem (by simp) fun i made _ => ?_
  simp [Dispatcher.pool, made]

theorem mem_pools {d : Dispatcher} {pool : Pool} (listed : pool ∈ d.pools) : ∃ i < d.pools.length, d.pool i = pool := by
  rw [pools_eq_range, List.mem_map] at listed
  obtain ⟨i, made, same⟩ := listed
  exact ⟨i, List.mem_range.mp made, same⟩

/-- When all pools that are not kept are closed, no more are open than are kept. -/
theorem length_open_le {d : Dispatcher}
    (closed : ∀ i < d.pools.length, i ∉ d.cache.map (·.2) → (d.pool i).closed = true) :
    (d.pools.filter (!·.closed)).length ≤ d.cache.length := by
  have kept : (List.range d.pools.length).filter (fun i => !(d.pool i).closed) ⊆ d.cache.map (·.2) := by
    intro i listed
    obtain ⟨made, isOpen⟩ := List.mem_filter.mp listed
    by_contra gone
    simp [closed i (List.mem_range.mp made) gone] at isOpen
  have fewer := (List.subperm_of_subset (List.nodup_range.filter _) kept).length_le
  rw [List.length_map] at fewer
  rw [pools_eq_range d, List.filter_map, List.length_map]
  exact fewer

end Dispatcher

namespace DispatchSession
variable {s : DispatchSession}

theorem letsGo_closed (tidy : s.Tidy) {step : DispatchStep} {i : Nat} (lost : i ∈ s.letsGo step) :
    ((s.step step).2.dispatcher.pool i).closed = true := by
  obtain ⟨kept, gone⟩ := List.mem_filter.mp lost
  have gone : i ∉ (s.step step).2.dispatcher.cache.map (·.2) := of_decide_eq_true gone
  have cache := congrArg Dispatcher.Shelf.cache (s.step_shelf step)
  have found := fun url => (Dispatcher.lookup_finds tidy.dispatcher url s.world).closed tidy.dispatcher kept
  change (s.step step).2.dispatcher.cache = _ at cache
  rw [cache] at gone
  cases step with
  | send request reply =>
    obtain ⟨pool, sent, -, same⟩ := send_setPool s.dispatcher request reply s.world
    change ((s.dispatcher.send request reply s.world).2.1.pool i).closed = true
    rw [sent, Dispatcher.closed_setPool same]
    exact found _ gone
  | pool url name => exact found url gone
  | close => exact (Dispatcher.close_closes tidy.dispatcher s.world kept).1
  | _ => exact absurd kept gone

/-- Every pool that is made and not kept is closed. -/
def GoneClosed (s : DispatchSession) : Prop :=
  ∀ i < s.dispatcher.pools.length, i ∉ s.dispatcher.cache.map (·.2) → (s.dispatcher.pool i).closed = true

theorem step_goneClosed (tidy : s.Tidy) (before : s.GoneClosed) (step : DispatchStep) : (s.step step).2.GoneClosed := by
  intro i made gone
  -- A pool that is not kept after the step was let go of by it, or was not kept before; a new one is kept.
  by_cases old : i < s.dispatcher.pools.length
  · by_cases kept : i ∈ s.dispatcher.cache.map (·.2)
    · exact letsGo_closed tidy (List.mem_filter.mpr ⟨kept, decide_eq_true gone⟩)
    · exact step_pool tidy (P := fun pool => pool.closed = true) (fun move => move.stays_closed) old (before i old kept)
  · exact absurd (new_kept tidy.dispatcher step (Nat.le_of_not_lt old) made) gone

theorem run_goneClosed (tidy : s.Tidy) (before : s.GoneClosed) (steps : List DispatchStep) :
    (s.run steps).GoneClosed := by
  induction steps generalizing s with
  | nil => exact before
  | cons step rest ih => exact ih (step_tidy tidy step) (step_goneClosed tidy before step)

/-- A pool that is made and not kept is never kept again. -/
theorem gone_of_run (tidy : s.Tidy) {i : Nat} (made : i < s.dispatcher.pools.length)
    (gone : i ∉ s.dispatcher.cache.map (·.2)) (steps : List DispatchStep) :
    i ∉ (s.run steps).dispatcher.cache.map (·.2) := by
  induction steps generalizing s with
  | nil => exact gone
  | cons step rest ih =>
    have more := step_length_le tidy.dispatcher step
    refine ih (step_tidy tidy step) (Nat.lt_of_lt_of_le made more) fun kept => ?_
    rcases kept_or_new tidy.dispatcher step kept with old | new
    · exact gone old
    · exact Nat.ne_of_lt made new

/-- A pool that was never shut down keeps its handles on what it has lent. -/
def Handles (s : DispatchSession) (shut : List Nat) : Prop :=
  ∀ i < s.dispatcher.pools.length, i ∉ shut → ∀ loan ∈ (s.dispatcher.pool i).lent, loan.interruptible = true

theorem step_handles (tidy : s.Tidy) {shut : List Nat} (before : s.Handles shut) (step : DispatchStep) :
    (s.step step).2.Handles (shut ++ s.shutsDown step) := by
  intro i made never
  rw [List.mem_append, not_or] at never
  by_cases old : i < s.dispatcher.pools.length
  · exact step_pool tidy (P := fun pool => ∀ loan ∈ pool.lent, loan.interruptible = true)
      (fun move => move.interruptible never.2) old (before i old never.1)
  · exact step_new tidy (P := fun pool => ∀ loan ∈ pool.lent, loan.interruptible = true)
      (fun move => move.interruptible never.2) (fun url loan none => absurd none List.not_mem_nil)
      (Nat.le_of_not_lt old) made

theorem run_handles (tidy : s.Tidy) {shut : List Nat} (before : s.Handles shut) (steps : List DispatchStep) :
    (s.run steps).Handles (shut ++ s.along shutsDown steps) := by
  induction steps generalizing s shut with
  | nil =>
    rw [along, List.append_nil]
    exact before
  | cons step rest ih =>
    rw [along, ← List.append_assoc]
    exact ih (step_tidy tidy step) (step_handles tidy before step)

/-- Every pool that a run makes is within the size that the settings tell. -/
theorem run_fits (tidy : s.Tidy) (none : s.dispatcher.pools = []) (steps : List DispatchStep) {i : Nat}
    (made : i < (s.run steps).dispatcher.pools.length) :
    ((s.run steps).dispatcher.pool i).Fits ∧
      ((s.run steps).dispatcher.pool i).maxSize = max s.dispatcher.settings.maxPoolSize 1 := by
  refine run_new (P := fun pool => pool.Fits ∧ pool.asMade.maxSize = max s.dispatcher.settings.maxPoolSize 1) tidy
    (fun move holds => ⟨move.fits holds.1, ?_⟩) (fun url => ⟨Pool.fits_create .., rfl⟩) (by simp [none]) steps made
  rw [move.asMade]
  exact holds.2

/-- A connection that a guard holds is shut down exactly when its pool has used its handle on it. -/
theorem guard_ends {dialers : List (Option Nat)} (owned : (s.books dialers).Owned) {name : String} {i : Nat}
    {guard : Guard} (held : s.guards.lookup name = some (i, guard)) :
    (s.world.channel guard.channel).held = true ∧
      ∃ loan ∈ (s.dispatcher.pool i).lent, (s.world.channel guard.channel).shut = !loan.interruptible := by
  have balanced := owned.balanced i
  have listed : guard ∈ Dispatcher.guardsOf (s.guards.map (·.2)) i :=
    Dispatcher.mem_guardsOf.mpr (List.mem_map_of_mem (f := (·.2)) (Holdings.mem_of_lookup held))
  obtain ⟨loan, lent, -, same⟩ := balanced.records.loan_of_guard listed
  exact ⟨(balanced.own_of_guard listed).2, loan, lent, same ▸ balanced.ends loan lent⟩

/-- What comes back to a closed pool is closed. -/
theorem release_closed (tidy : s.Tidy) {dialers : List (Option Nat)} (owned : (s.books dialers).Owned) {name : String}
    {i : Nat} {guard : Guard} (held : s.guards.lookup name = some (i, guard))
    (closed : (s.dispatcher.pool i).closed = true) :
    ((s.step (.release name)).2.world.channel guard.channel).held = false ∧
      ((s.step (.release name)).2.dispatcher.pool i).idle = (s.dispatcher.pool i).idle := by
  have inside := World.made_of_held (guard_ends owned held).1
  obtain ⟨-, -, loan, -, -, -, ends⟩ := release_endsLoan tidy owned held
  rw [closed, Bool.true_or, Bool.true_or, if_pos rfl] at ends
  refine ⟨?_, ends.1⟩
  rw [ends.2, World.channel_change, if_pos ⟨rfl, inside⟩]
  rfl

/-- Closing the dispatcher shuts down what is lent from the pools that are kept. -/
theorem close_shuts (tidy : s.Tidy) {dialers : List (Option Nat)} (owned : (s.books dialers).Owned) {name : String}
    {i : Nat} {guard : Guard} (held : s.guards.lookup name = some (i, guard))
    (kept : i ∈ s.dispatcher.cache.map (·.2)) : ((s.step .close).2.world.connection guard.channel).shut = true := by
  have owned' := Dispatcher.owned_of_moves (step_moves tidy dialers .close) owned
  have still : (s.step .close).2.guards.lookup name = some (i, guard) := held
  obtain ⟨own, loan, lent, shut⟩ := guard_ends owned' still
  have used := (Dispatcher.close_closes tidy.dispatcher s.world kept).2 loan lent
  rwa [used, World.channel_eq_connection (World.made_of_held own)] at shut

theorem shut_lasting : Lasting fun c : Channel => c.shut = true where
  drop shut := shut
  shutdown _ := rfl
  peerClose shut := shut
  peerWrite shut sent := (PoolSession.sameEnd_peerWrite _ _ _ sent).2.trans shut
  exchange shut _ sent := (PoolSession.sameEnd_write _ _ _ sent).2.trans shut

theorem channel_shut {w : World} {i : Nat} (shut : (w.connection i).shut = true) : (w.channel i).shut = true := by
  by_cases inside : i < w.channels.length
  · rw [World.channel_eq_connection inside]
    exact shut
  · have fresh : w.connection i = .fresh := by simp [World.connection, List.getElem?_eq_none (Nat.le_of_not_lt inside)]
    rw [fresh] at shut
    contradiction

/-- No pools and no connections leak. A pool that was made and is not kept is never kept again, and is closed with
nothing parked, for good; so no more pools are open than may be kept, and no more connections are parked than these may
have. What a pool has lent can be used, as far as the peer allows, unless the pool was closed by the caller, or with the
dispatcher while it was kept. When it comes back to a pool that is not kept it is closed, and not parked. Closing the
dispatcher shuts down what is lent from the pools that are kept, for good. -/
theorem run_leaves_nothing (socketPath : String) (settings : DispatchSettings) (files : Files)
    (steps : List DispatchStep) :
    let origin := start (.create socketPath settings) files
    let s := origin.run steps
    (∀ i < s.dispatcher.pools.length, i ∉ s.dispatcher.cache.map (·.2) → ∀ more,
      i ∉ (s.run more).dispatcher.cache.map (·.2) ∧ ((s.run more).dispatcher.pool i).closed = true ∧
      ((s.run more).dispatcher.pool i).idle = []) ∧
    (s.dispatcher.pools.filter (!·.closed)).length ≤ max settings.poolConnections 1 ∧
    (s.dispatcher.pools.map (·.idle.length)).sum ≤ max settings.poolConnections 1 * max settings.maxPoolSize 1 ∧
    (∀ name i guard, s.guards.lookup name = some (i, guard) → i ∉ origin.along shutsDown steps →
      (s.world.channel guard.channel).isOpen = (s.world.channel guard.channel).peerOpen) ∧
    (∀ name i guard, s.guards.lookup name = some (i, guard) → i ∉ s.dispatcher.cache.map (·.2) →
      let after := (s.step (.release name)).2
      (after.world.channel guard.channel).held = false ∧ (after.dispatcher.pool i).idle = []) ∧
    ∀ name i guard, s.guards.lookup name = some (i, guard) → i ∈ s.dispatcher.cache.map (·.2) → ∀ more,
      (((s.step .close).2.run more).world.channel guard.channel).shut = true := by
  intro origin s
  have begins := start_tidy socketPath settings files
  have tidy : s.Tidy := run_tidy begins steps
  have owned : (s.books (origin.along dials steps)).Owned :=
    run_owned begins (Dispatcher.owned_create socketPath settings files) steps
  have gone : s.GoneClosed := run_goneClosed begins (fun i made => absurd made (Nat.not_lt_zero i)) steps
  have handles : s.Handles ([] ++ origin.along shutsDown steps) :=
    run_handles begins (fun i made => absurd made (Nat.not_lt_zero i)) steps
  have open_le := Dispatcher.length_open_le gone
  have kept_le : s.dispatcher.cache.length ≤ max settings.poolConnections 1 := by
    have within := tidy.dispatcher.within
    rwa [Dispatcher.capacity, run_settings begins steps] at within
  refine ⟨fun i made lost more => ?_, Nat.le_trans open_le kept_le, ?_, fun name i guard held never => ?_,
    fun name i guard held lost => ?_, fun name i guard held kept more => ?_⟩
  · have still := Nat.lt_of_lt_of_le made (length_le_of_run tidy more)
    have unkept := gone_of_run tidy made lost more
    have closed := run_goneClosed tidy gone more i still unkept
    have fits := run_fits begins rfl (steps ++ more) (i := i)
    rw [run_append] at fits
    exact ⟨unkept, closed, (fits still).1.closed_idle closed⟩
  · have total : (s.dispatcher.pools.map (·.idle.length)).sum ≤
        (s.dispatcher.pools.filter (!·.closed)).length * max settings.maxPoolSize 1 := by
      refine Pool.sum_idle_le fun pool listed => ?_
      obtain ⟨i, made, rfl⟩ := Dispatcher.mem_pools listed
      exact run_fits begins rfl steps made
    exact Nat.le_trans total (Nat.mul_le_mul_right _ (Nat.le_trans open_le kept_le))
  · have made : i < s.dispatcher.pools.length := tidy.lenders _ (Holdings.mem_of_lookup held)
    obtain ⟨own, loan, lent, shut⟩ := guard_ends owned held
    rw [handles i made never loan lent] at shut
    rw [Channel.isOpen, own, shut]
    rfl
  · have made : i < s.dispatcher.pools.length := tidy.lenders _ (Holdings.mem_of_lookup held)
    have closed := gone i made lost
    have empty := (run_fits begins rfl steps made).1.closed_idle closed
    have returned := release_closed tidy owned held closed
    exact ⟨returned.1, returned.2.trans empty⟩
  · exact channel_shut (run_lasting shut_lasting (close_shuts tidy owned held kept) more)

private def evicting : List DispatchStep :=
  [.pool "unix://a" "a", .acquire "a" "x", .acquire "a" "y", .release "y", .pool "unix://b" "b", .acquire "b" "z"]

/-- The first of two pools is retired with one connection parked and one lent; the lent one goes on until it comes
back. Closing the dispatcher shuts down what the second pool has lent. -/
theorem run_leaves_nothing_evicted :
    let s := (start (.create "d.sock" ⟨none, 1, 2, true⟩) (.listening daemonPlace)).run evicting
    s.guards.lookup "x" = some (0, ⟨1, 0, false⟩) ∧ s.guards.lookup "z" = some (1, ⟨1, 2, false⟩) ∧
    ((s.run [.pool "unix://a" "again"]).dispatcher.pool 0).idle = [] ∧
    (s.world.channel 0).isOpen = (s.world.channel 0).peerOpen ∧
    ((s.step (.release "x")).2.world.channel 0).held = false ∧
    (((s.step .close).2.run [.release "x"]).world.channel 2).shut = true := by
  intro s
  obtain ⟨gone, -, -, usable, returned, shut⟩ :=
    run_leaves_nothing "d.sock" ⟨none, 1, 2, true⟩ (.listening daemonPlace) evicting
  have first : s.guards.lookup "x" = some (0, ⟨1, 0, false⟩) := by decide +kernel
  have second : s.guards.lookup "z" = some (1, ⟨1, 2, false⟩) := by decide +kernel
  have kept : 1 ∈ s.dispatcher.cache.map (·.2) := by decide +kernel
  have lost : 0 ∉ s.dispatcher.cache.map (·.2) := by decide +kernel
  have made : 0 < s.dispatcher.pools.length := by decide +kernel
  have never : 0 ∉ (start (.create "d.sock" ⟨none, 1, 2, true⟩) (.listening daemonPlace)).along shutsDown evicting := by
    decide +kernel
  exact ⟨first, second, (gone 0 made lost _).2.2, usable "x" 0 _ first never, (returned "x" 0 _ first lost).1,
    shut "z" 1 _ second kept _⟩

end DispatchSession

end EngineClient
