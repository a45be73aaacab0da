import EngineClient.Proofs.Pooling.Lending
import EngineClient.Pooling.PoolSession
/-!
# Borrowing, case by case

What a pool answers to somebody who asks for a connection while nobody else does anything (`acquire_borrows`,
`acquire_by_case`). The parked connections fall into those above the first that can be used, that one, and those below
it (`idle_cases`); whether one can be used is told by the world before anything is closed (`isDropped_drop`).
-/

namespace EngineClient

namespace World

/-- Closing a connection that cannot be used changes for none whether it can be used. -/
theorem isDropped_drop {w : World} {i : Nat} (stale : (w.channel i).isDropped = true) (j : Nat) :
    ((w.change i .drop).channel j).isDropped = (w.channel j).isDropped := by
  rw [channel_change]
  split
  · rename_i here
    obtain ⟨rfl, -⟩ := here
    rw [stale]
    rfl
  · rfl

end World

namespace Pool

/-! ## The parked connections -/

/-- Either no parked connection can be used, or there is a first one from the top that can. -/
theorem idle_cases (w : World) (idle : List Nat) :
    (∀ i ∈ idle, (w.channel i).isDropped = true) ∨
    ∃ stale channel rest, idle = stale ++ channel :: rest ∧ (∀ i ∈ stale, (w.channel i).isDropped = true) ∧
      (w.channel channel).isDropped = false := by
  induction idle with
  | nil => exact .inl fun _ none => absurd none List.not_mem_nil
  | cons first others ih =>
    cases usable : (w.channel first).isDropped with
    | false => exact .inr ⟨[], first, others, rfl, fun _ none => absurd none List.not_mem_nil, usable⟩
    | true =>
      rcases ih with all | ⟨stale, channel, rest, rfl, above, found⟩
      · exact .inl (List.forall_mem_cons.mpr ⟨usable, all⟩)
      · exact .inr ⟨first :: stale, channel, rest, rfl, List.forall_mem_cons.mpr ⟨usable, above⟩, found⟩

theorem takeIdle_of_usable {w : World} {stale rest : List Nat} {channel : Nat}
    (above : ∀ i ∈ stale, (w.channel i).isDropped = true) (usable : (w.channel channel).isDropped = false) :
    takeIdle w (stale ++ channel :: rest) = (some channel, rest, w.changeAll .drop stale) := by
  induction stale generalizing w with
  | nil => simp [takeIdle, usable, World.changeAll]
  | cons first others ih =>
    obtain ⟨dead, above⟩ := List.forall_mem_cons.mp above
    rw [List.cons_append, takeIdle, if_pos dead]
    refine ih (fun i listed => ?_) ?_
    · rw [World.isDropped_drop dead, above i listed]
    · rw [World.isDropped_drop dead, usable]

theorem takeIdle_of_stale {w : World} {idle : List Nat} (all : ∀ i ∈ idle, (w.channel i).isDropped = true) :
    takeIdle w idle = (none, [], w.changeAll .drop idle) := by
  induction idle generalizing w with
  | nil => rfl
  | cons first others ih =>
    obtain ⟨dead, all⟩ := List.forall_mem_cons.mp all
    rw [takeIdle, if_pos dead]
    exact ih fun i listed => by rw [World.isDropped_drop dead, all i listed]

/-! ## One call -/

section
variable {pool : Pool} {w : World}

theorem acquire_of_canWait (waits : pool.canWait w = true) :
    pool.acquire w = (Attempt.outcome (pool.attempt w).2.1 (pool.attempt w).1, (pool.attempt w).2) := by
  rw [acquire, waits]
  rcases pool.attempt w with ⟨attempt, pool', w'⟩
  cases attempt <;> rfl

theorem attempt_of_usable {stale rest : List Nat} {channel : Nat} (isOpen : pool.closed = false)
    (parked : pool.idle = stale ++ channel :: rest) (above : ∀ i ∈ stale, (w.channel i).isDropped = true)
    (usable : (w.channel channel).isDropped = false) :
    pool.attempt w = (.lent ⟨pool.nextTicket, channel, false⟩, ({ pool with idle := rest }.lend channel false).2,
      w.changeAll .drop stale) := by
  have notClosed : ¬pool.closed = true := by simp [isOpen]
  rw [attempt, if_neg notClosed, parked, takeIdle_of_usable above usable]
  rfl

theorem dialAndLend_of_open (isOpen : pool.closed = false) (transient : Bool) :
    pool.dialAndLend transient w =
      match w.dialFault pool.socketPath with
      | some cause => (.failed (.connect pool.socketPath cause), pool, w)
      | none => (.lent ⟨pool.nextTicket, w.channels.length, false⟩, (pool.lend w.channels.length transient).2, w.grow) := by
  rw [dialAndLend, World.dial]
  cases w.dialFault pool.socketPath with
  | some cause => simp only [settle_reserve]
  | none =>
    simp only [settle_reserve, isOpen, Bool.false_eq_true, if_false]
    rfl

theorem attempt_of_admitted {transient : Bool} (isOpen : pool.closed = false)
    (all : ∀ i ∈ pool.idle, (w.channel i).isDropped = true) (admitted : pool.Admits transient) :
    pool.attempt w =
      match w.dialFault pool.socketPath with
      | some cause => (.failed (.connect pool.socketPath cause), pool.emptied, w.changeAll .drop pool.idle)
      | none => (.lent ⟨pool.nextTicket, w.channels.length, false⟩, (pool.emptied.lend w.channels.length transient).2,
          (w.changeAll .drop pool.idle).grow) := by
  have dialed := pool.emptied.dialAndLend_of_open (w := w.changeAll .drop pool.idle) isOpen transient
  rw [World.dialFault_congr (w.files_changeAll .drop pool.idle), World.length_changeAll] at dialed
  rw [attempt_of_stale isOpen (takeIdle_of_stale all)]
  cases transient with
  | false =>
    have room : pool.emptied.live < pool.maxSize := admitted
    rw [if_pos room]
    exact dialed
  | true =>
    obtain ⟨lends, taken⟩ : pool.block = false ∧ pool.maxSize ≤ pool.emptied.live := admitted
    rw [if_neg (Nat.not_lt.mpr taken), if_pos (by simp [lends])]
    exact dialed

theorem attempt_of_full (isOpen : pool.closed = false) (all : ∀ i ∈ pool.idle, (w.channel i).isDropped = true)
    (blocks : pool.block = true) (taken : pool.maxSize ≤ pool.emptied.live) :
    pool.attempt w = (.full, pool.emptied, w.changeAll .drop pool.idle) := by
  rw [attempt_of_stale isOpen (takeIdle_of_stale all), if_neg (Nat.not_lt.mpr taken), if_neg (by simp [blocks])]

/-- All that borrowing can come to: it fails; the first connection from the top that can be used is lent; or none can
be used, and a new one is lent. Those that cannot be used are closed, from the top. -/
inductive Borrows (pool : Pool) (w : World) : Except TransportError Guard → Pool → World → Prop
  | fails {error : TransportError} {stale rest : List Nat} (parked : pool.idle = stale ++ rest)
      (above : ∀ i ∈ stale, (w.channel i).isDropped = true) :
      Borrows pool w (.error error) { pool with idle := rest } (w.changeAll .drop stale)
  | reuses {stale rest : List Nat} {channel : Nat} (isOpen : pool.closed = false)
      (parked : pool.idle = stale ++ channel :: rest) (above : ∀ i ∈ stale, (w.channel i).isDropped = true)
      (usable : (w.channel channel).isDropped = false) :
      Borrows pool w (.ok ⟨pool.nextTicket, channel, false⟩) ({ pool with idle := rest }.lend channel false).2
        (w.changeAll .drop stale)
  | dials {transient : Bool} (isOpen : pool.closed = false) (all : ∀ i ∈ pool.idle, (w.channel i).isDropped = true) :
      Borrows pool w (.ok ⟨pool.nextTicket, w.channels.length, false⟩)
        ({ pool with idle := [] }.lend w.channels.length transient).2 (w.changeAll .drop pool.idle).grow

/-- A call that does nothing fails. -/
private theorem Borrows.refused (pool : Pool) (w : World) (error : TransportError) :
    pool.Borrows w (.error error) pool w :=
  .fails (List.nil_append pool.idle).symm fun _ none => absurd none List.not_mem_nil

theorem acquire_borrows (pool : Pool) (w : World) :
    pool.Borrows w (pool.acquire w).1 (pool.acquire w).2.1 (pool.acquire w).2.2 := by
  rcases idle_cases w pool.idle with all | ⟨stale, channel, rest, parked, above, usable⟩
  · obtain ⟨attempt, pool', w', tries, acquired⟩ := pool.acquire_tries w
    rw [acquired]
    cases tries with
    | refused why => exact .refused ..
    | @reused stale rest channel isOpen parked usable =>
      have dead := all channel (parked ▸ List.mem_append_right stale List.mem_cons_self)
      rw [World.channel_dropAll] at usable
      split at usable
      · cases usable
      · rw [dead] at usable
        cases usable
    | dialed isOpen stale admitted answers => exact .dials isOpen all
    | undialed isOpen stale admitted fault => exact .fails (List.append_nil _).symm all
    | full isOpen stale blocks taken => exact .fails (List.append_nil _).symm all
  · cases waits : pool.canWait w with
    | false =>
      rw [acquire, waits]
      exact .refused ..
    | true =>
      rw [acquire_of_canWait waits]
      by_cases closed : pool.closed = true
      · rw [attempt, if_pos closed]
        exact .refused ..
      · have isOpen : pool.closed = false := by simpa using closed
        rw [attempt_of_usable isOpen parked above usable]
        exact .reuses isOpen parked above usable

/-- Whatever a call fails with, nothing is lent, and of what is parked only connections that cannot be used are
closed. -/
theorem acquire_fails {error : TransportError} (failed : (pool.acquire w).1 = .error error) :
    (pool.acquire w).2.1.lent = pool.lent ∧
    ∃ stale, pool.idle = stale ++ (pool.acquire w).2.1.idle ∧ (∀ i ∈ stale, (w.channel i).isDropped = true) ∧
      (pool.acquire w).2.2 = w.changeAll .drop stale := by
  have borrows := pool.acquire_borrows w
  generalize pool.acquire w = acquired at borrows failed ⊢
  obtain ⟨result, pool', w'⟩ := acquired
  cases borrows with
  | @fails _ stale rest parked above => exact ⟨rfl, stale, parked, above, rfl⟩
  | reuses isOpen parked above usable => cases failed
  | dials isOpen all => cases failed

end

/-- Borrowing from a pool with a timeout, when nobody else does anything meanwhile. A wait whose end the clock cannot
show is not begun. A closed pool refuses. The connection parked last among those that can be used is lent, and those
parked after it are closed. When none can be used all are closed, and a connection is dialed: one that counts for the
size of the pool when fewer are lent, a transient one when the pool is full and does not wait; a full pool that waits
dials nothing and is exhausted. A call that fails lends nothing and closes only parked connections that cannot be
used. -/
theorem acquire_by_case {pool : Pool} {size : Nat} {span : Duration} (made : pool.maxSize = max size 1)
    (quiet : pool.dialing = 0) (timed : pool.timeout = some span) (w : World) :
    let plain := (pool.lent.filter (!·.transient)).length
    (w.deadline span = none → pool.acquire w = (.error .deadlineOverflow, pool, w)) ∧
    (∀ instant, w.deadline span = some instant →
      (pool.closed = true → pool.acquire w = (.error (.poolClosed pool.socketPath), pool, w)) ∧
      (pool.closed = false →
        (∀ stale channel rest, pool.idle = stale ++ channel :: rest → (∀ i ∈ stale, (w.channel i).isDropped = true) →
          (w.channel channel).isDropped = false →
          pool.acquire w = (.ok ⟨pool.nextTicket, channel, false⟩, ({ pool with idle := rest }.lend channel false).2,
            w.changeAll .drop stale)) ∧
        ((∀ i ∈ pool.idle, (w.channel i).isDropped = true) →
          (∀ transient, (if transient then max size 1 ≤ plain ∧ pool.block = false else plain < max size 1) →
            pool.acquire w =
              match w.dialFault pool.socketPath with
              | none => (.ok ⟨pool.nextTicket, w.channels.length, false⟩,
                  ({ pool with idle := [] }.lend w.channels.length transient).2, (w.changeAll .drop pool.idle).grow)
              | some cause => (.error (.connect pool.socketPath cause), { pool with idle := [] },
                  w.changeAll .drop pool.idle)) ∧
          (max size 1 ≤ plain → pool.block = true →
            pool.acquire w = (.error (.poolExhausted pool.socketPath (max size 1) span), { pool with idle := [] },
              w.changeAll .drop pool.idle))))) ∧
    ∀ error, (pool.acquire w).1 = .error error → (pool.acquire w).2.1.lent = pool.lent ∧
      ∃ stale, pool.idle = stale ++ (pool.acquire w).2.1.idle ∧ (∀ i ∈ stale, (w.channel i).isDropped = true) ∧
        (pool.acquire w).2.2 = w.changeAll .drop stale := by
  intro plain
  have live : pool.emptied.live = plain := by simp [emptied, Pool.live, quiet, plain]
  have waits : pool.canWait w = (w.deadline span).isSome := by rw [canWait, timed]
  refine ⟨fun never => ?_, fun instant due => ?_, fun error failed => acquire_fails failed⟩
  · rw [never] at waits
    rw [acquire, waits]
    rfl
  · rw [due] at waits
    have tried := acquire_of_canWait waits
    refine ⟨fun closed => ?_, fun isOpen => ⟨fun stale channel rest parked above usable => ?_, fun all =>
      ⟨fun transient admitted => ?_, fun taken blocks => ?_⟩⟩⟩
    · rw [tried, attempt, if_pos closed]
      rfl
    · rw [tried, attempt_of_usable isOpen parked above usable]
      rfl
    · have admits : pool.Admits transient := by
        cases transient with
        | false =>
          rw [if_neg Bool.false_ne_true, ← live, ← made] at admitted
          exact admitted
        | true =>
          rw [if_pos rfl, ← live, ← made] at admitted
          exact admitted.symm
      rw [tried, attempt_of_admitted isOpen all admits]
      cases w.dialFault pool.socketPath <;> rfl
    · rw [← live, ← made] at taken
      rw [tried, attempt_of_full isOpen all blocks taken, ← made]
      simp only [Attempt.outcome, exhausted, emptied, timed, Option.getD_some]

/-- The peer has closed the connection parked last of two, and the one below it is lent. A pool made for none, which
is one for one, is exhausted with one lent. -/
theorem acquire_by_case_staleOnTop :
    let two := (PoolSession.start (.create defaultPoolKey "d.sock" (some (.ofSeconds 1)) 2 true)
      (.listening PoolSession.listenerPlace)).run [.acquire "a", .acquire "b", .release "a", .release "b", .peerClose 1]
    let one := (PoolSession.start (.create defaultPoolKey "d.sock" (some (.ofSeconds 1)) 0 true)
      (.listening PoolSession.listenerPlace)).run [.acquire "a"]
    two.pool.idle = [1, 0] ∧
    two.pool.acquire two.world =
      (.ok ⟨3, 0, false⟩, ({ two.pool with idle := [] }.lend 0 false).2, two.world.changeAll .drop [1]) ∧
    one.pool.acquire one.world =
      (.error (.poolExhausted "d.sock" 1 (.ofSeconds 1)), { one.pool with idle := [] }, one.world) := by
  intro two one
  have parked : two.pool.idle = [1, 0] := by decide +kernel
  have stale : (two.world.channel 1).isDropped = true := by decide +kernel
  have usable : (two.world.channel 0).isDropped = false := by decide +kernel
  have none : one.pool.idle = [] := by decide +kernel
  obtain ⟨-, timely, -⟩ := @acquire_by_case two.pool 2 (.ofSeconds 1) (by decide +kernel) (by decide +kernel)
    (by decide +kernel) two.world
  obtain ⟨-, timely', -⟩ := @acquire_by_case one.pool 0 (.ofSeconds 1) (by decide +kernel) (by decide +kernel)
    (by decide +kernel) one.world
  obtain ⟨instant, due⟩ : ∃ instant, two.world.deadline (.ofSeconds 1) = some instant :=
    Option.isSome_iff_exists.mp (by decide +kernel)
  obtain ⟨instant', due'⟩ : ∃ instant, one.world.deadline (.ofSeconds 1) = some instant :=
    Option.isSome_iff_exists.mp (by decide +kernel)
  obtain ⟨reuses, -⟩ := (timely instant due).2 (by decide +kernel)
  obtain ⟨-, exhausts⟩ := ((timely' instant' due').2 (by decide +kernel)).2 (by simp [none])
  refine ⟨parked, ?_, ?_⟩
  · exact reuses [1] 0 [] parked (by simpa using stale) usable
  · have exhausted := exhausts (by decide +kernel) (by decide +kernel)
    rw [none] at exhausted
    exact exhausted

end Pool

end EngineClient
