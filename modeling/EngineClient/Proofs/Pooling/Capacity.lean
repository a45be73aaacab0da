import EngineClient.Proofs.Pooling.PoolHistory
/-!
# The size of a pool

Whatever is done with a pool, its idle connections, its dials under way and its loans that are not transient
never exceed its size (`Move.fits`). A connection that was lent beyond it is never parked (`Move.overflow`). Room that
a dial took is given back: an open pool lends up to its size whatever went before (`canLend_eq`), and failed dials
change nothing about it (`FailsToDial.canLend`).
-/

namespace EngineClient

open Relation (ReflTransGen)

namespace Pool

/-- A pool within its size; only one that does not wait has transient loans, no dial is under way, and nothing
is parked once it is closed. -/
structure Fits (pool : Pool) : Prop where
  live_le : pool.live ≤ pool.maxSize
  plain : pool.block = true → ∀ loan ∈ pool.lent, loan.transient = false
  settled : pool.dialing = 0
  closed_idle : pool.closed = true → pool.idle = []

theorem fits_create (baseUrl socketPath : String) (timeout : Option Duration) (maxSize : Nat) (block : Bool) :
    (create baseUrl socketPath timeout maxSize block).Fits := by
  refine ⟨?_, ?_, rfl, fun _ => rfl⟩
  · simp [create, live]
  · simp [create]

@[simp] theorem live_lend (pool : Pool) (channel : Nat) (transient : Bool) :
    (pool.lend channel transient).2.live = pool.live + if transient then 0 else 1 := by
  cases transient <;> simp [lend, live, List.filter_append, Nat.add_assoc]

@[simp] theorem length_lend (pool : Pool) (channel : Nat) (transient : Bool) :
    (pool.lend channel transient).2.lent.length = pool.lent.length + 1 := by
  simp [lend]

namespace Fits
variable {pool : Pool}

/-- A pool that is left with some of its parked connections. -/
theorem keepSome (fits : pool.Fits) {stale rest : List Nat} (parked : pool.idle = stale ++ rest) :
    ({ pool with idle := rest } : Pool).Fits where
  live_le := by
    have le := fits.live_le
    simp only [live, parked, List.length_append] at le ⊢
    omega
  plain := fits.plain
  settled := fits.settled
  closed_idle closed := by
    have none := fits.closed_idle closed
    rw [parked] at none
    exact (List.append_eq_nil_iff.mp none).2

theorem emptied (fits : pool.Fits) : pool.emptied.Fits := fits.keepSome (List.append_nil pool.idle).symm

theorem lend (fits : pool.Fits) {channel : Nat} {transient : Bool}
    (room : transient = false → pool.live < pool.maxSize) (waitsNot : transient = true → pool.block = false) :
    (pool.lend channel transient).2.Fits where
  live_le := by
    have le := fits.live_le
    rw [live_lend]
    cases transient with
    | false => exact room rfl
    | true => exact le
  plain blocks loan lent := by
    simp only [Pool.lend, List.mem_append, List.mem_singleton] at blocks lent
    rcases lent with old | rfl
    · exact fits.plain blocks loan old
    · cases transient with
      | false => rfl
      | true => simp [waitsNot rfl] at blocks
  settled := fits.settled
  closed_idle := fits.closed_idle

theorem tries (fits : pool.Fits) {w w' : World} {attempt : Attempt} {pool' : Pool}
    (tries : pool.Tries w attempt pool' w') : pool'.Fits := by
  cases tries with
  | refused why => exact fits
  | @reused stale rest channel isOpen parked usable =>
    have split : pool.idle = (stale ++ [channel]) ++ rest := by simpa using parked
    refine (fits.keepSome split).lend (fun _ => ?_) (by simp)
    have le := fits.live_le
    simp only [live, parked, List.length_append, List.length_cons] at le ⊢
    omega
  | @dialed transient isOpen stale admitted answers =>
    refine fits.emptied.lend (fun plain => ?_) (fun overflow => ?_)
    · subst plain
      exact admitted
    · subst overflow
      exact admitted.1
  | undialed isOpen stale admitted fault => exact fits.emptied
  | full isOpen stale blocks taken => exact fits.emptied

theorem returns (fits : pool.Fits) {guard : Guard} {w w' : World} {pool' : Pool}
    (returns : pool.Returns guard w pool' w') : pool'.Fits := by
  have fewer : ((pool.lent.filter (·.ticket != guard.ticket)).filter (!·.transient)).length ≤
      (pool.lent.filter (!·.transient)).length := by
    rw [List.filter_comm]
    exact List.length_filter_le ..
  have le := fits.live_le
  cases returns with
  | unknown foreign => exact fits
  | closed lent same spent =>
    refine ⟨?_, fun blocks other kept => fits.plain blocks other (List.mem_filter.mp kept).1, fits.settled,
      fits.closed_idle⟩
    simp only [live] at le ⊢
    omega
  | @parked loan lent same isOpen whole plain =>
    -- The loan that ends is one that counts, so that there is room for what is parked.
    have counted : loan ∈ pool.lent.filter (!·.transient) := List.mem_filter.mpr ⟨lent, by simp [plain]⟩
    have ends : ((pool.lent.filter (!·.transient)).filter (·.ticket != guard.ticket)).length <
        (pool.lent.filter (!·.transient)).length :=
      List.length_filter_lt_length_iff_exists.mpr ⟨loan, counted, by simp [same]⟩
    rw [List.filter_comm] at ends
    refine ⟨?_, fun blocks other kept => fits.plain blocks other (List.mem_filter.mp kept).1, fits.settled, ?_⟩
    · simp only [live, List.length_cons] at le ⊢
      omega
    · simp [isOpen]

theorem retire (fits : pool.Fits) (w : World) : (pool.retire w).1.Fits := by
  have emptied := fits.emptied
  rw [Pool.retire]
  split
  · exact fits
  · exact ⟨emptied.live_le, emptied.plain, emptied.settled, fun _ => rfl⟩

theorem close (fits : pool.Fits) (w : World) : (pool.close w).1.Fits := by
  have emptied := fits.emptied
  have sameCount : ((pool.lent.map fun loan => { loan with interruptible := false }).filter (!·.transient)).length =
      (pool.lent.filter (!·.transient)).length := by
    rw [List.filter_map, List.length_map]
    rfl
  rw [close_eq]
  refine ⟨?_, fun blocks loan changed => ?_, emptied.settled, fun _ => rfl⟩
  · have le := emptied.live_le
    simp only [live, sameCount, Pool.emptied] at le ⊢
    exact le
  · obtain ⟨old, lent, rfl⟩ := List.mem_map.mp changed
    exact fits.plain blocks old lent

end Fits

namespace Move
variable {retiring closing : Prop} {before after : Books}

/-- Whatever happens, a pool stays within its size. -/
theorem fits (move : Move retiring closing before after) (within : before.pool.Fits) : after.pool.Fits := by
  cases move with
  | borrow tries => exact within.tries tries
  | giveBack returns => exact within.returns returns
  | @retire pool guards w may => exact within.retire w
  | @close pool guards w may => exact within.close w
  | regard same => exact within
  | elsewhere made ends => exact within

end Move

/-! ## Connections beyond the size -/

/-- A connection that is lent beyond the size of the pool, or was and is closed. -/
structure Books.Overflow (channel : Nat) (b : Books) : Prop where
  made : channel < b.world.channels.length
  unparked : channel ∉ b.pool.idle
  transient : ∀ loan ∈ b.pool.lent, loan.channel = channel → loan.transient = true

theorem Books.Balanced.overflow {mine : Nat → Bool} {b : Books} (balanced : b.Balanced mine) {loan : Loan}
    (lent : loan ∈ b.pool.lent) (transient : loan.transient = true) : b.Overflow loan.channel where
  made := World.made_of_held (balanced.own_of_loan lent).2
  unparked := balanced.loan_notMem_idle lent
  transient other lent' same := by
    have only : other = loan := List.inj_on_of_nodup_map balanced.loan_channels lent' lent same
    exact only ▸ transient

/-- A connection that was lent beyond the size of the pool is never parked. -/
theorem Move.overflow {retiring closing : Prop} {before after : Books} {mine : Nat → Bool} {channel : Nat}
    (move : Move retiring closing before after) (balanced : before.Balanced mine) (overflow : before.Overflow channel) :
    after.Overflow channel := by
  have made := Nat.lt_of_lt_of_le overflow.made move.length_le
  cases move with
  | @borrow pool pool' guards w w' attempt tries =>
    have unparked : channel ∉ pool.idle := overflow.unparked
    cases tries with
    | refused why => exact overflow
    | @reused stale rest reused isOpen parked usable =>
      have still : reused :: rest ⊆ pool.idle := parked ▸ List.subset_append_right stale _
      refine ⟨made, fun idle => unparked (still (List.mem_cons_of_mem _ idle)), fun loan lent same => ?_⟩
      rcases List.mem_append.mp lent with old | new
      · exact overflow.transient loan old same
      · rw [List.mem_singleton.mp new] at same
        exact absurd (same ▸ still List.mem_cons_self) unparked
    | dialed isOpen stale admitted answers =>
      refine ⟨made, List.not_mem_nil, fun loan lent same => ?_⟩
      rcases List.mem_append.mp lent with old | new
      · exact overflow.transient loan old same
      · rw [List.mem_singleton.mp new] at same
        exact absurd overflow.made (same ▸ Nat.lt_irrefl _)
    | undialed isOpen stale admitted fault => exact ⟨made, List.not_mem_nil, overflow.transient⟩
    | full isOpen stale blocks taken => exact ⟨made, List.not_mem_nil, overflow.transient⟩
  | @giveBack pool pool' guard guards w w' returns =>
    cases returns with
    | unknown foreign => exact ⟨made, overflow.unparked, overflow.transient⟩
    | closed lent same spent =>
      exact ⟨made, overflow.unparked, fun loan kept => overflow.transient loan (List.mem_filter.mp kept).1⟩
    | @parked loan lent same isOpen whole plain =>
      refine ⟨made, ?_, fun loan kept => overflow.transient loan (List.mem_filter.mp kept).1⟩
      -- What is parked had a loan that is not transient.
      obtain ⟨own, lent', same', here⟩ := balanced.records.loan_of_guard List.mem_cons_self
      have only : own = loan := balanced.records.loan_unique lent' lent (same'.trans same.symm)
      intro parked
      rcases List.mem_cons.mp parked with rfl | idle
      · have transient := overflow.transient own lent' here
        rw [only, plain] at transient
        contradiction
      · exact overflow.unparked idle
  | @retire pool guards w may =>
    refine ⟨made, ?_, ?_⟩
    · simp only [Pool.retire]
      split
      · exact overflow.unparked
      · simp
    · simp only [Pool.retire]
      split
      · exact overflow.transient
      · exact overflow.transient
  | @close pool guards w may =>
    refine ⟨made, by simp [close_eq], fun loan changed same => ?_⟩
    obtain ⟨old, lent, rfl⟩ := List.mem_map.mp changed
    exact overflow.transient old lent same
  | regard same => exact ⟨made, overflow.unparked, overflow.transient⟩
  | elsewhere same ends => exact ⟨made, overflow.unparked, overflow.transient⟩

/-! ## Whatever happens, one thing after the other -/

section
variable {retiring closing : Prop} {before after : Books} (moves : ReflTransGen (Move retiring closing) before after)
include moves

theorem fits_of_moves (within : before.pool.Fits) : after.pool.Fits := by
  induction moves with
  | refl => exact within
  | tail _ move ih => exact move.fits ih

theorem asMade_of_moves : after.pool.asMade = before.pool.asMade := by
  induction moves with
  | refl => rfl
  | tail _ move ih => exact move.asMade.trans ih

theorem overflow_of_moves {channel : Nat} (balanced : before.Balanced fun _ => true)
    (overflow : before.Overflow channel) : after.Overflow channel := by
  induction moves with
  | refl => exact overflow
  | tail earlier move ih => exact move.overflow (balanced_of_moves earlier balanced) ih

end

/-! ## What a pool can still lend -/

/-- Whether so many connections can be borrowed one after the other while nobody gives one back. -/
def canLend (pool : Pool) (w : World) : (count : Nat) → Bool
  | 0 => true
  | count + 1 =>
    match pool.acquire w with
    | (.ok _, pool, w) => pool.canLend w count
    | (.error _, _, _) => false

theorem Fits.lent_le {pool : Pool} (fits : pool.Fits) (blocks : pool.block = true) :
    pool.idle.length + pool.lent.length ≤ pool.maxSize := by
  have all : pool.lent.filter (!·.transient) = pool.lent :=
    List.filter_eq_self.mpr fun loan lent => by simp [fits.plain blocks loan lent]
  have le := fits.live_le
  rw [live, all, fits.settled] at le
  exact le

/-- An open pool lends as many connections as its size leaves beside those that are lent, when somebody listens;
one that does not wait lends any number. -/
theorem canLend_eq {pool : Pool} {w : World} (fits : pool.Fits) (isOpen : pool.closed = false)
    (waits : pool.canWait w = true) (answers : w.dialFault pool.socketPath = none) (count : Nat) :
    pool.canLend w count = (!pool.block || decide (count + pool.lent.length ≤ pool.maxSize)) := by
  induction count generalizing pool w with
  | zero =>
    by_cases blocks : pool.block = true
    · have le := fits.lent_le blocks
      have room : 0 + pool.lent.length ≤ pool.maxSize := by omega
      rw [decide_eq_true room, Bool.or_true]
      rfl
    · simp [canLend, blocks]
  | succ count ih =>
    obtain ⟨attempt, pool', w', tries, acquired⟩ := pool.acquire_tries w
    have within := fits.tries tries
    have order : count + 1 + pool.lent.length = count + (pool.lent.length + 1) := by omega
    rw [canLend, acquired, order]
    cases tries with
    | refused why => rcases why with ⟨-, never⟩ | ⟨-, closed⟩ <;> simp_all
    | @reused stale rest channel _ parked usable =>
      have waits' : pool.canWait (w.changeAll .drop stale) = true := by
        simpa [canWait, World.deadline] using waits
      have answers' := (World.dialFault_congr (w.files_changeAll .drop stale) pool.socketPath).trans answers
      have rest := ih within isOpen waits' answers'
      rw [length_lend] at rest
      exact rest
    | dialed _ stale admitted _ =>
      have waits' : pool.canWait (w.changeAll .drop pool.idle).grow = true := by
        simpa [canWait, World.deadline, World.grow] using waits
      have answers' := (World.dialFault_congr (w.files_changeAll .drop pool.idle) pool.socketPath).trans answers
      have rest := ih within isOpen waits' answers'
      rw [length_lend] at rest
      exact rest
    | undialed _ stale admitted fault => simp [answers] at fault
    | full _ stale blocks taken =>
      have none : pool.emptied.idle.length + pool.emptied.lent.length ≤ pool.maxSize := within.lent_le blocks
      have all : pool.lent.filter (!·.transient) = pool.lent :=
        List.filter_eq_self.mpr fun loan lent => by simp [fits.plain blocks loan lent]
      have beyond : ¬count + (pool.lent.length + 1) ≤ pool.maxSize := by
        simp only [live, emptied, all, fits.settled, List.length_nil] at taken
        omega
      simp [Attempt.outcome, blocks, beyond]

/-- The files play no part in what is taken from the parked connections. -/
theorem takeIdle_files (w : World) (files : Files) (idle : List Nat) :
    takeIdle { w with files } idle =
      ((takeIdle w idle).1, (takeIdle w idle).2.1, { (takeIdle w idle).2.2 with files }) := by
  induction idle generalizing w with
  | nil => rfl
  | cons first others ih =>
    rw [takeIdle, takeIdle]
    by_cases dropped : (w.channel first).isDropped = true
    · rw [if_pos dropped]
      exact (if_pos dropped).trans (ih (w.change first .drop))
    · rw [if_neg dropped]
      exact if_neg dropped

theorem canLend_of_never {pool : Pool} {w : World} (never : pool.canWait w = false) (count : Nat) :
    pool.canLend w (count + 1) = false := by
  simp [canLend, acquire, never]

/-- A pool of which no parked connection can be used lends as it does without them, whoever listens. -/
theorem canLend_emptied {pool : Pool} {w : World} (isOpen : pool.closed = false)
    (stale : takeIdle w pool.idle = (none, [], w.changeAll .drop pool.idle)) (files : Files) (count : Nat) :
    pool.emptied.canLend { w.changeAll .drop pool.idle with files } count = pool.canLend { w with files } count := by
  have waits : pool.emptied.canWait { w.changeAll .drop pool.idle with files } = pool.canWait { w with files } := by
    simp [canWait, emptied, World.deadline]
  cases count with
  | zero => rfl
  | succ count =>
    by_cases never : pool.canWait { w with files } = false
    · rw [canLend_of_never never count, canLend_of_never (waits.trans never) count]
    · have before : takeIdle { w with files } pool.idle = (none, [], { w.changeAll .drop pool.idle with files }) := by
        rw [takeIdle_files, stale]
      have tried := attempt_of_stale isOpen before
      have again := @attempt_of_stale pool.emptied { w.changeAll .drop pool.idle with files } _ isOpen rfl
      have waitsBoth : pool.canWait { w with files } = true := by simpa using never
      have same : pool.emptied.acquire { w.changeAll .drop pool.idle with files } = pool.acquire { w with files } := by
        rw [acquire, acquire, waits, tried, again, waitsBoth]
        rfl
      simp only [canLend, same]

/-- A dial fails only when no parked connection can be used, and leaves the pool without them. -/
theorem acquire_undialed {pool pool' : Pool} {w w' : World} {path : String} {cause : Failure}
    (failed : pool.acquire w = (.error (.connect path cause), pool', w')) :
    pool.closed = false ∧ takeIdle w pool.idle = (none, [], w.changeAll .drop pool.idle) ∧ pool' = pool.emptied ∧
      w' = w.changeAll .drop pool.idle := by
  obtain ⟨attempt, pool'', w'', tries, acquired⟩ := pool.acquire_tries w
  rw [acquired] at failed
  simp only [Prod.mk.injEq] at failed
  obtain ⟨outcome, rfl, rfl⟩ := failed
  cases tries with
  | refused why => rcases why with ⟨rfl, -⟩ | ⟨rfl, -⟩ <;> simp [Attempt.outcome] at outcome
  | reused isOpen parked usable => simp [Attempt.outcome] at outcome
  | dialed isOpen stale admitted answers => simp [Attempt.outcome] at outcome
  | undialed isOpen stale admitted fault => exact ⟨isOpen, stale, rfl, rfl⟩
  | full isOpen stale blocks taken => simp [Attempt.outcome, exhausted] at outcome

end Pool

namespace PoolSession

/-- Whether so many connections can be borrowed one after the other with this at the place of the socket. -/
def canLend (s : PoolSession) (entry : Option Entry) (count : Nat) : Bool :=
  let listening := (s.step (.listener entry)).2
  listening.pool.canLend listening.world count

/-- Steps that only try to borrow and fail to dial, whatever is put at the place of the socket in between. -/
inductive FailsToDial : PoolSession → List PoolStep → Prop
  | nil {s} : FailsToDial s []
  | listener {s entry rest} : FailsToDial (s.step (.listener entry)).2 rest → FailsToDial s (.listener entry :: rest)
  | acquire {s name path cause rest} : (s.step (.acquire name)).1 = .failed (.connect path cause) →
      FailsToDial (s.step (.acquire name)).2 rest → FailsToDial s (.acquire name :: rest)

theorem canLend_listener (s : PoolSession) (first second : Option Entry) (count : Nat) :
    (s.step (.listener first)).2.canLend second count = s.canLend second count := by
  simp only [canLend, step, Files.set_set]

theorem canLend_failed {s : PoolSession} {name path : String} {cause : Failure}
    (failed : (s.step (.acquire name)).1 = .failed (.connect path cause)) (entry : Option Entry) (count : Nat) :
    (s.step (.acquire name)).2.canLend entry count = s.canLend entry count := by
  rcases acquired : s.pool.acquire s.world with ⟨result, pool', w'⟩
  simp only [step, PoolSession.acquire, acquired] at failed ⊢
  cases result with
  | ok guard => simp at failed
  | error error =>
    simp only [PoolAnswer.failed.injEq] at failed
    subst failed
    obtain ⟨isOpen, stale, rfl, rfl⟩ := Pool.acquire_undialed acquired
    simp only [canLend, step, World.files_changeAll]
    exact Pool.canLend_emptied isOpen stale (s.world.files.set listenerPlace entry) count

/-- Failed dials take no room away. -/
theorem FailsToDial.canLend {s : PoolSession} {failures : List PoolStep} (fails : s.FailsToDial failures)
    (entry : Option Entry) (count : Nat) : (s.run failures).canLend entry count = s.canLend entry count := by
  induction fails with
  | nil => rfl
  | @listener s first rest fails ih => exact ih.trans (s.canLend_listener first entry count)
  | acquire failed fails ih => exact ih.trans (canLend_failed failed entry count)

/-- A pool keeps to its size whatever is done with it and with the connections. What it counts as lent is what
is held; idle connections and loans that are not transient are never more than its size. Only a pool that does
not wait has transient loans, and their connections are never parked. Between operations no room is kept for a
dial: failed dials, however many, leave the pool able to lend as many connections as before, and an open pool
with somebody listening lends exactly as many as its size leaves beside those that are lent, or any number when it
does not wait. -/
theorem run_keeps_capacity (baseUrl socketPath : String) (timeout : Option Duration) (maxSize : Nat) (block : Bool)
    (files : Files) (steps : List PoolStep) :
    let s := (start (.create baseUrl socketPath timeout maxSize block) files).run steps
    (s.pool.lent.map Loan.key).Perm (s.guards.map (·.2.key)) ∧
    s.pool.idle.length + (s.pool.lent.filter (!·.transient)).length ≤ max maxSize 1 ∧
    s.pool.idle.length ≤ max maxSize 1 ∧
    (block = true → s.pool.lent.length ≤ max maxSize 1) ∧
    (∀ loan ∈ s.pool.lent, loan.transient = true → block = false ∧ ∀ more, loan.channel ∉ (s.run more).pool.idle) ∧
    s.pool.dialing = 0 ∧
    (∀ failures, s.FailsToDial failures → ∀ entry count,
      (s.run failures).canLend entry count = s.canLend entry count) ∧
    (s.pool.closed = false → s.pool.canWait s.world = true → ∀ entry,
      (s.step (.listener entry)).2.world.dialFault socketPath = none → ∀ count,
        s.canLend entry count = (!block || decide (count + s.pool.lent.length ≤ max maxSize 1))) := by
  intro s
  have history := (Reaches.start (.create baseUrl socketPath timeout maxSize block) files).run steps
  have within : s.pool.Fits :=
    Pool.fits_of_moves history.moves (Pool.fits_create baseUrl socketPath timeout maxSize block)
  have balanced : Pool.Books.Balanced (fun _ => true) ⟨s.pool, s.guards.map (·.2), s.world⟩ :=
    Pool.balanced_of_moves history.moves (Pool.balanced_create baseUrl socketPath timeout maxSize block files)
  have made : s.pool.asMade = .create baseUrl socketPath timeout maxSize block := Pool.asMade_of_moves history.moves
  have size : s.pool.maxSize = max maxSize 1 := congrArg Pool.maxSize made
  have waits : s.pool.block = block := congrArg Pool.block made
  have path : s.pool.socketPath = socketPath := congrArg Pool.socketPath made
  have live : s.pool.idle.length + (s.pool.lent.filter (!·.transient)).length ≤ max maxSize 1 := by
    have le := within.live_le
    rwa [Pool.live, within.settled, size] at le
  refine ⟨?_, live, by omega, fun blocks => ?_, fun loan lent transient => ⟨?_, fun more => ?_⟩, within.settled,
    fun failures fails entry count => fails.canLend entry count, fun isOpen canWait entry answers count => ?_⟩
  · have loans := balanced.records.loans
    rwa [List.map_map] at loans
  · have le := within.lent_le (waits.trans blocks)
    omega
  · by_contra blocks
    have plain := within.plain (waits.trans (by simpa using blocks)) loan lent
    simp [plain] at transient
  · have later := (Reaches.mk (b := ⟨s.pool, s.guards.map (·.2), s.world⟩) .refl history.named).run more
    exact (Pool.overflow_of_moves later.moves balanced (balanced.overflow lent transient)).unparked
  · have lends := Pool.canLend_eq (w := (s.step (.listener entry)).2.world) within isOpen canWait (path ▸ answers) count
    rw [size, waits] at lends
    exact lends

/-- A pool for two that waits, one connection of which is lent when a dial fails; and a pool for one that does not
wait, with a transient connection. -/
theorem run_keeps_capacity_failedDial :
    let waiting := (start (.create defaultPoolKey "d.sock" none 2 true) (.listening listenerPlace)).run [.acquire "a"]
    let lending := (start (.create defaultPoolKey "d.sock" none 1 false) (.listening listenerPlace)).run
      [.acquire "a", .acquire "b"]
    waiting.pool.lent.length ≤ 2 ∧
    waiting.FailsToDial [.listener none, .acquire "b"] ∧
    (∀ entry count, (waiting.run [.listener none, .acquire "b"]).canLend entry count = waiting.canLend entry count) ∧
    waiting.canLend (some (.socket true)) 1 = true ∧ waiting.canLend (some (.socket true)) 2 = false ∧
    ⟨2, 1, true, true⟩ ∈ lending.pool.lent ∧ ∀ more, 1 ∉ (lending.run more).pool.idle := by
  intro waiting lending
  have undialed : ((waiting.step (.listener none)).2.step (.acquire "b")).1 =
      .failed (.connect "d.sock" (.numbered 2)) := by
    decide +kernel
  have fails : waiting.FailsToDial [.listener none, .acquire "b"] := .listener (.acquire undialed .nil)
  have overflow : ⟨2, 1, true, true⟩ ∈ lending.pool.lent := by decide +kernel
  have kept := run_keeps_capacity defaultPoolKey "d.sock" none 2 true (.listening listenerPlace) [.acquire "a"]
  have kept' := run_keeps_capacity defaultPoolKey "d.sock" none 1 false (.listening listenerPlace)
    [.acquire "a", .acquire "b"]
  obtain ⟨-, -, -, lent, -, -, same, lends⟩ := kept
  obtain ⟨-, -, -, -, transient, -, -, -⟩ := kept'
  have exact := lends (by decide +kernel) (by decide +kernel) (some (.socket true)) (by decide +kernel)
  have one : waiting.pool.lent.length = 1 := by decide +kernel
  refine ⟨lent rfl, fails, same _ fails, ?_, ?_, overflow, (transient _ overflow rfl).2⟩
  · exact (exact 1).trans (by rw [one]; rfl)
  · exact (exact 2).trans (by rw [one]; rfl)

end PoolSession

end EngineClient
