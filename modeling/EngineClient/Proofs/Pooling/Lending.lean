import EngineClient.Proofs.Pooling.Channels
/-!
# What borrowing and giving back do

All that one try to borrow can do to a pool and to its connections (`Pool.Tries`), and all that taking a
connection back can (`Pool.Returns`). What a pool does to its own end of several connections is said once
(`World.changeAll`).
-/

namespace EngineClient

namespace World

/-- The world with the same change made to several connections, one after the other. -/
def changeAll (w : World) (f : Channel → Channel) (channels : List Nat) : World :=
  channels.foldl (fun w i => w.change i f) w

/-- The world with one more connection, on which nothing was sent. -/
def grow (w : World) : World := { w with channels := w.channels ++ [.fresh] }

@[simp] theorem length_change (w : World) (i : Nat) (f : Channel → Channel) :
    (w.change i f).channels.length = w.channels.length := by
  simp [change]

@[simp] theorem length_grow (w : World) : w.grow.channels.length = w.channels.length + 1 := by
  simp [grow]

theorem channel_change (w : World) (i j : Nat) (f : Channel → Channel) :
    (w.change i f).channel j = if i = j ∧ j < w.channels.length then f (w.channel j) else w.channel j := by
  by_cases inside : j < w.channels.length
  · have stays : j < (w.change i f).channels.length := by simpa using inside
    rw [channel_eq_connection stays, channel_eq_connection inside, connection_change]
  · have beyond : ¬(i = j ∧ j < w.channels.length) := fun both => inside both.2
    have outside : w.channels.length ≤ j := Nat.le_of_not_lt inside
    have stays : (w.channels.modify i f).length ≤ j := by simpa using outside
    rw [if_neg beyond]
    simp only [channel, change, List.getD_eq_getElem?_getD, List.getElem?_eq_none outside,
      List.getElem?_eq_none stays]

theorem channel_grow_of_lt {w : World} {i : Nat} (inside : i < w.channels.length) :
    w.grow.channel i = w.channel i := by
  simp [channel, grow, List.getElem?_append_left inside]

@[simp] theorem channel_grow_new (w : World) : w.grow.channel w.channels.length = .fresh := by
  simp [channel, grow]

theorem channel_of_le {w : World} {i : Nat} (beyond : w.channels.length ≤ i) : w.channel i = default := by
  simp [channel, List.getElem?_eq_none beyond]

/-- A connection whose end is held has been made. -/
theorem made_of_held {w : World} {i : Nat} (held : (w.channel i).held = true) : i < w.channels.length := by
  by_cases inside : i < w.channels.length
  · exact inside
  · rw [channel_of_le (Nat.le_of_not_lt inside)] at held
    contradiction

@[simp] theorem length_changeAll (w : World) (f : Channel → Channel) (channels : List Nat) :
    (w.changeAll f channels).channels.length = w.channels.length := by
  induction channels generalizing w with
  | nil => rfl
  | cons i rest ih => exact (ih (w.change i f)).trans (w.length_change i f)

/-- A change that made twice is as made once reaches each connection of the list. -/
theorem channel_changeAll {f : Channel → Channel} (again : ∀ c, f (f c) = f c) (w : World) (channels : List Nat)
    (j : Nat) :
    (w.changeAll f channels).channel j =
      if j ∈ channels ∧ j < w.channels.length then f (w.channel j) else w.channel j := by
  induction channels generalizing w with
  | nil => simp [changeAll]
  | cons i rest ih =>
    have next := ih (w.change i f)
    rw [length_change, channel_change] at next
    rw [show w.changeAll f (i :: rest) = (w.change i f).changeAll f rest from rfl, next]
    by_cases inside : j < w.channels.length
    · by_cases here : i = j
      · subst here
        by_cases later : i ∈ rest <;> simp [later, inside, again]
      · by_cases later : j ∈ rest <;> simp [later, inside, here, Ne.symm here]
    · simp [inside]

theorem channel_dropAll (w : World) (channels : List Nat) (j : Nat) :
    (w.changeAll .drop channels).channel j =
      if j ∈ channels ∧ j < w.channels.length then (w.channel j).drop else w.channel j :=
  channel_changeAll (f := .drop) (fun _ => rfl) w channels j

theorem held_dropAll {w : World} {channels : List Nat} {i : Nat} (dropped : i ∈ channels) :
    ((w.changeAll .drop channels).channel i).held = false := by
  rw [channel_dropAll]
  split
  · rfl
  · rename_i outside
    have beyond : w.channels.length ≤ i := Nat.le_of_not_lt fun inside => outside ⟨dropped, inside⟩
    rw [channel_of_le beyond]
    rfl

theorem channel_dropAll_of_notMem {w : World} {channels : List Nat} {i : Nat} (kept : i ∉ channels) :
    (w.changeAll .drop channels).channel i = w.channel i := by
  rw [channel_dropAll, if_neg fun both => kept both.1]

theorem channel_shutAll (w : World) (channels : List Nat) (j : Nat) :
    (w.changeAll .shutdown channels).channel j =
      if j ∈ channels ∧ j < w.channels.length then (w.channel j).shutdown else w.channel j :=
  channel_changeAll (f := .shutdown) (fun _ => rfl) w channels j

@[simp] theorem files_changeAll (w : World) (f : Channel → Channel) (channels : List Nat) :
    (w.changeAll f channels).files = w.files := by
  induction channels generalizing w with
  | nil => rfl
  | cons i rest ih => exact ih (w.change i f)

@[simp] theorem now_changeAll (w : World) (f : Channel → Channel) (channels : List Nat) :
    (w.changeAll f channels).now = w.now := by
  induction channels generalizing w with
  | nil => rfl
  | cons i rest ih => exact ih (w.change i f)

/-- Whether anybody answers at a path is told by the files. -/
theorem dialFault_congr {w w' : World} (files : w'.files = w.files) (path : String) :
    w'.dialFault path = w.dialFault path := by
  simp only [dialFault, files]

end World

namespace Pool

/-! ## Borrowing -/

/-- The pool without its parked connections. -/
def emptied (pool : Pool) : Pool := { pool with idle := [] }

/-- Whether a pool that has nothing parked dials a connection, or a transient one. -/
def Admits (pool : Pool) : (transient : Bool) → Prop
  | false => pool.emptied.live < pool.maxSize
  | true => pool.block = false ∧ pool.maxSize ≤ pool.emptied.live

/-- What a try to borrow comes to: nothing is done; a parked connection is lent and those above it are closed;
or all parked ones are closed, and a connection is dialed, or the dial fails, or the pool is full. -/
inductive Tries (pool : Pool) (w : World) : Attempt → Pool → World → Prop
  | refused {error : TransportError}
      (why : (error = .deadlineOverflow ∧ pool.canWait w = false) ∨
        (error = .poolClosed pool.socketPath ∧ pool.closed = true)) :
      Tries pool w (.failed error) pool w
  | reused {stale rest : List Nat} {channel : Nat} (isOpen : pool.closed = false)
      (parked : pool.idle = stale ++ channel :: rest)
      (usable : ((w.changeAll .drop stale).channel channel).isDropped = false) :
      Tries pool w (.lent ⟨pool.nextTicket, channel, false⟩) ({ pool with idle := rest }.lend channel false).2
        (w.changeAll .drop stale)
  | dialed {transient : Bool} (isOpen : pool.closed = false)
      (stale : takeIdle w pool.idle = (none, [], w.changeAll .drop pool.idle)) (admitted : pool.Admits transient)
      (answers : w.dialFault pool.socketPath = none) :
      Tries pool w (.lent ⟨pool.nextTicket, w.channels.length, false⟩)
        (pool.emptied.lend w.channels.length transient).2 (w.changeAll .drop pool.idle).grow
  | undialed {transient : Bool} {cause : Failure} (isOpen : pool.closed = false)
      (stale : takeIdle w pool.idle = (none, [], w.changeAll .drop pool.idle)) (admitted : pool.Admits transient)
      (fault : w.dialFault pool.socketPath = some cause) :
      Tries pool w (.failed (.connect pool.socketPath cause)) pool.emptied (w.changeAll .drop pool.idle)
  | full (isOpen : pool.closed = false)
      (stale : takeIdle w pool.idle = (none, [], w.changeAll .drop pool.idle)) (blocks : pool.block = true)
      (taken : pool.maxSize ≤ pool.emptied.live) :
      Tries pool w .full pool.emptied (w.changeAll .drop pool.idle)

/-- What is parked is closed from the top, down to a connection that can be used. -/
theorem takeIdle_cases (w : World) (idle : List Nat) :
    (∃ stale channel rest, idle = stale ++ channel :: rest ∧
      ((w.changeAll .drop stale).channel channel).isDropped = false ∧
      takeIdle w idle = (some channel, rest, w.changeAll .drop stale)) ∨
    takeIdle w idle = (none, [], w.changeAll .drop idle) := by
  induction idle generalizing w with
  | nil => exact .inr rfl
  | cons first others ih =>
    rw [takeIdle]
    split
    · rcases ih (w.change first .drop) with ⟨stale, channel, rest, rfl, usable, taken⟩ | taken
      · exact .inl ⟨first :: stale, channel, rest, rfl, usable, taken⟩
      · exact .inr taken
    · rename_i usable
      exact .inl ⟨[], first, others, rfl, by simpa [World.changeAll] using usable, rfl⟩

theorem settle_reserve (pool : Pool) (transient : Bool) : (pool.reserve transient).settle transient = pool := by
  cases transient <;> simp [reserve, settle]

/-- A dial gives back the room that was kept for it, whether it is answered or not. -/
theorem dialAndLend_tries {pool : Pool} {w : World} {transient : Bool} (isOpen : pool.closed = false)
    (stale : takeIdle w pool.idle = (none, [], w.changeAll .drop pool.idle)) (admitted : pool.Admits transient) :
    let tried := pool.emptied.dialAndLend transient (w.changeAll .drop pool.idle)
    pool.Tries w tried.1 tried.2.1 tried.2.2 := by
  have samePath : pool.emptied.socketPath = pool.socketPath := rfl
  have sameFault := World.dialFault_congr (w.files_changeAll .drop pool.idle) pool.socketPath
  simp only [dialAndLend, World.dial, samePath, sameFault]
  cases fault : w.dialFault pool.socketPath with
  | some cause =>
    simp only [settle_reserve]
    exact .undialed isOpen stale admitted fault
  | none =>
    have stillOpen : pool.emptied.closed = false := isOpen
    simp only [settle_reserve, stillOpen, Bool.false_eq_true, if_false, World.length_changeAll]
    exact .dialed isOpen stale admitted fault

/-- A try at an open pool of which no parked connection can be used. -/
theorem attempt_of_stale {pool : Pool} {w w' : World} (isOpen : pool.closed = false)
    (stale : takeIdle w pool.idle = (none, [], w')) :
    pool.attempt w =
      if pool.emptied.live < pool.maxSize then pool.emptied.dialAndLend false w'
      else if !pool.block then pool.emptied.dialAndLend true w' else (.full, pool.emptied, w') := by
  have notClosed : ¬pool.closed = true := by simp [isOpen]
  rw [attempt, if_neg notClosed, stale]
  rfl

theorem attempt_tries (pool : Pool) (w : World) :
    pool.Tries w (pool.attempt w).1 (pool.attempt w).2.1 (pool.attempt w).2.2 := by
  by_cases closed : pool.closed = true
  · rw [attempt, if_pos closed]
    exact .refused (.inr ⟨rfl, closed⟩)
  · have isOpen : pool.closed = false := by simpa using closed
    rcases takeIdle_cases w pool.idle with ⟨above, channel, rest, parked, usable, taken⟩ | stale
    · rw [attempt, if_neg closed, taken]
      exact .reused isOpen parked usable
    · rw [attempt_of_stale isOpen stale]
      by_cases room : pool.emptied.live < pool.maxSize
      · rw [if_pos room]
        exact dialAndLend_tries isOpen stale room
      · have taken : pool.maxSize ≤ pool.emptied.live := Nat.le_of_not_lt room
        rw [if_neg room]
        by_cases lends : (!pool.block) = true
        · rw [if_pos lends]
          exact dialAndLend_tries isOpen stale ⟨by simpa using lends, taken⟩
        · rw [if_neg lends]
          exact .full isOpen stale (by simpa using lends) taken

/-- What a try to borrow answers to somebody who does not wait. -/
def Attempt.outcome (pool : Pool) : Attempt → Except TransportError Guard
  | .lent guard => .ok guard
  | .failed error => .error error
  | .full => .error pool.exhausted

/-- Borrowing is one try. -/
theorem acquire_tries (pool : Pool) (w : World) :
    ∃ attempt pool' w', pool.Tries w attempt pool' w' ∧
      pool.acquire w = (Attempt.outcome pool' attempt, pool', w') := by
  rw [acquire]
  cases waits : pool.canWait w with
  | false => exact ⟨.failed .deadlineOverflow, pool, w, .refused (.inl ⟨rfl, waits⟩), rfl⟩
  | true =>
    have tries := pool.attempt_tries w
    rcases tried : pool.attempt w with ⟨attempt, pool', w'⟩
    rw [tried] at tries
    refine ⟨attempt, pool', w', tries, ?_⟩
    cases attempt <;> rfl

/-! ## Giving back -/

/-- What taking a connection back comes to: it is closed because the pool does not know its ticket; its loan
ends and it is closed, being broken, transient, or late; or its loan ends and it is parked. -/
inductive Returns (pool : Pool) (guard : Guard) (w : World) : Pool → World → Prop
  | unknown (foreign : ∀ loan ∈ pool.lent, loan.ticket ≠ guard.ticket) :
      Returns pool guard w pool (w.change guard.channel .drop)
  | closed {loan : Loan} (lent : loan ∈ pool.lent) (same : loan.ticket = guard.ticket)
      (spent : (pool.closed || guard.broken || loan.transient) = true) :
      Returns pool guard w { pool with lent := pool.lent.filter (·.ticket != guard.ticket) }
        (w.change guard.channel .drop)
  | parked {loan : Loan} (lent : loan ∈ pool.lent) (same : loan.ticket = guard.ticket)
      (isOpen : pool.closed = false) (whole : guard.broken = false) (plain : loan.transient = false) :
      Returns pool guard w
        { pool with lent := pool.lent.filter (·.ticket != guard.ticket), idle := guard.channel :: pool.idle } w

theorem release_returns (pool : Pool) (guard : Guard) (w : World) :
    pool.Returns guard w (pool.release guard w).1 (pool.release guard w).2 := by
  rw [release]
  cases found : pool.lent.find? (·.ticket == guard.ticket) with
  | none =>
    refine .unknown fun loan lent same => ?_
    have absent := List.find?_eq_none.mp found loan lent
    simp [same] at absent
  | some loan =>
    have lent := List.mem_of_find?_eq_some found
    have same : loan.ticket = guard.ticket := by simpa using List.find?_some found
    simp only
    split
    · rename_i spent
      exact .closed lent same spent
    · rename_i kept
      simp only [Bool.or_eq_true, not_or, Bool.not_eq_true] at kept
      exact .parked lent same kept.1.1 kept.1.2 kept.2

/-! ## What a pool was made for -/

/-- The pool as it was when it was made. -/
def asMade (pool : Pool) : Pool :=
  { pool with idle := [], lent := [], dialing := 0, nextTicket := 1, closed := false }

theorem Tries.asMade {pool pool' : Pool} {w w' : World} {attempt : Attempt} (tries : pool.Tries w attempt pool' w') :
    pool'.asMade = pool.asMade := by
  cases tries <;> rfl

theorem Returns.asMade {pool pool' : Pool} {guard : Guard} {w w' : World} (returns : pool.Returns guard w pool' w') :
    pool'.asMade = pool.asMade := by
  cases returns <;> rfl

@[simp] theorem asMade_acquire (pool : Pool) (w : World) : (pool.acquire w).2.1.asMade = pool.asMade := by
  obtain ⟨attempt, pool', w', tries, acquired⟩ := pool.acquire_tries w
  rw [acquired]
  exact tries.asMade

@[simp] theorem asMade_release (pool : Pool) (guard : Guard) (w : World) :
    (pool.release guard w).1.asMade = pool.asMade :=
  (pool.release_returns guard w).asMade

@[simp] theorem closed_acquire (pool : Pool) (w : World) : (pool.acquire w).2.1.closed = pool.closed := by
  obtain ⟨attempt, pool', w', tries, acquired⟩ := pool.acquire_tries w
  rw [acquired]
  cases tries <;> rfl

@[simp] theorem closed_release (pool : Pool) (guard : Guard) (w : World) :
    (pool.release guard w).1.closed = pool.closed := by
  have returns := pool.release_returns guard w
  generalize pool.release guard w = returned at returns ⊢
  obtain ⟨pool', w'⟩ := returned
  cases returns <;> rfl

@[simp] theorem asMade_retire (pool : Pool) (w : World) : (pool.retire w).1.asMade = pool.asMade := by
  rw [retire]
  split <;> rfl

@[simp] theorem asMade_close (pool : Pool) (w : World) : (pool.close w).1.asMade = pool.asMade := rfl

end Pool

end EngineClient
