import EngineClient.Pooling.DispatchSession
/-!
# Connections under pools

What a pool lends is a connection that can still be used (`acquire_lends`). What holds of a connection and
survives all that the program and the daemon do to it (`Lasting`) holds of it after every step and every run of
a dispatcher (`step_lasting`, `run_lasting`).
-/

namespace EngineClient

/-- Files with a socket at one place, on which somebody listens, and nothing else. -/
def Files.listening (place : Place) : Files := ⟨[(place, .socket true)]⟩

namespace World

/-- The connection of that number. One that is not made yet is like one on which nothing was sent. -/
def connection (w : World) (i : Nat) : Channel := w.channels.getD i .fresh

theorem connection_change (w : World) (i j : Nat) (f : Channel → Channel) :
    (w.change i f).connection j = if i = j ∧ j < w.channels.length then f (w.connection j) else w.connection j := by
  simp only [connection, change, List.getD_eq_getElem?_getD, List.getElem?_modify]
  cases found : w.channels[j]? with
  | none =>
    have outside := List.getElem?_eq_none_iff.mp found
    rw [if_neg (by omega)]
    rfl
  | some c =>
    have inside : j < w.channels.length := (List.getElem?_eq_some_iff.mp found).1
    by_cases same : i = j <;> simp [same, inside]

theorem connection_grow (w : World) (j : Nat) :
    ({ w with channels := w.channels ++ [.fresh] } : World).connection j = w.connection j := by
  simp only [connection, List.getD_eq_getElem?_getD, List.getElem?_append]
  by_cases before : j < w.channels.length
  · rw [if_pos before]
  · rw [if_neg before, List.getElem?_eq_none (Nat.le_of_not_lt before)]
    cases beyond : [Channel.fresh][j - w.channels.length]? with
    | none => rfl
    | some c => simpa using (List.mem_of_getElem? beyond)

theorem channel_eq_connection {w : World} {i : Nat} (inside : i < w.channels.length) :
    w.channel i = w.connection i := by
  simp [channel, connection, inside]

/-- A connection that can be used has been made. -/
theorem made_of_usable {w : World} {i : Nat} (usable : (w.channel i).isDropped = false) : i < w.channels.length := by
  by_cases inside : i < w.channels.length
  · exact inside
  · rw [channel, List.getD_eq_getElem?_getD, List.getElem?_eq_none (Nat.le_of_not_lt inside)] at usable
    contradiction

end World

/-! ## What is lent -/

namespace Pool

theorem takeIdle_lends {w w' : World} {idle rest : List Nat} {channel : Nat}
    (taken : takeIdle w idle = (some channel, rest, w')) : (w'.channel channel).isDropped = false := by
  induction idle generalizing w with
  | nil => simp [takeIdle] at taken
  | cons first others ih =>
    rw [takeIdle] at taken
    split at taken
    · exact ih taken
    · rename_i usable
      simp only [Prod.mk.injEq, Option.some.injEq] at taken
      obtain ⟨rfl, -, rfl⟩ := taken
      simpa using usable

theorem dialAndLend_lends {pool pool' : Pool} {transient : Bool} {w w' : World} {guard : Guard}
    (lent : pool.dialAndLend transient w = (.lent guard, pool', w')) :
    (w'.channel guard.channel).isDropped = false := by
  rw [dialAndLend, World.dial] at lent
  split at lent
  · simp_all
  · rename_i channel w'' dialed
    split at dialed
    · simp at dialed
    · simp only [Prod.mk.injEq, Except.ok.injEq] at dialed
      obtain ⟨rfl, rfl⟩ := dialed
      simp only at lent
      split at lent
      · simp at lent
      · simp only [lend, Prod.mk.injEq, Attempt.lent.injEq] at lent
        obtain ⟨rfl, -, rfl⟩ := lent
        simp [World.channel, Channel.isDropped, Channel.isOpen, Channel.fresh]

theorem attempt_lends {pool pool' : Pool} {w w' : World} {guard : Guard}
    (lent : pool.attempt w = (.lent guard, pool', w')) : (w'.channel guard.channel).isDropped = false := by
  rw [attempt] at lent
  split at lent
  · simp at lent
  · split at lent
    · rename_i channel rest w'' taken
      simp only [lend, Prod.mk.injEq, Attempt.lent.injEq] at lent
      obtain ⟨rfl, -, rfl⟩ := lent
      exact takeIdle_lends taken
    · simp only at lent
      split at lent
      · exact dialAndLend_lends lent
      · split at lent
        · exact dialAndLend_lends lent
        · simp at lent

/-- A connection that is lent can be used: parked ones that cannot are closed, and others are new. -/
theorem acquire_lends {pool pool' : Pool} {w w' : World} {guard : Guard}
    (lent : pool.acquire w = (.ok guard, pool', w')) : (w'.channel guard.channel).isDropped = false := by
  rw [acquire] at lent
  split at lent
  · simp at lent
  · split at lent
    · rename_i tried
      simp only [Prod.mk.injEq, Except.ok.injEq] at lent
      obtain ⟨rfl, -, rfl⟩ := lent
      exact attempt_lends tried
    · simp at lent
    · simp at lent

/-- A connection that comes back is closed, or it is parked as it is, unless it is broken. -/
theorem release_cases (pool : Pool) (guard : Guard) (w : World) :
    (pool.release guard w).2 = w.change guard.channel .drop ∨
    (guard.broken = false ∧ (pool.release guard w).2 = w) := by
  rw [release]
  split
  · exact .inl rfl
  · simp only
    split
    · exact .inl rfl
    · rename_i kept
      simp only [Bool.or_eq_true, not_or, Bool.not_eq_true] at kept
      exact .inr ⟨kept.1.2, rfl⟩

end Pool

/-! ## What lasts -/

/-- What is kept whatever is done to a connection. A request is sent only over one that can be used. -/
structure Lasting (Q : Channel → Prop) : Prop where
  drop : ∀ {c}, Q c → Q c.drop
  shutdown : ∀ {c}, Q c → Q c.shutdown
  peerClose : ∀ {c}, Q c → Q c.peerClose
  peerWrite : ∀ {c after data}, Q c → c.peerWrite data = .ok after → Q after
  exchange : ∀ {c sent data bytes} {reply : Reply}, Q c → c.isDropped = false → c.write data = .ok sent →
    Q { Dispatcher.answered sent reply with toProgram := bytes }

section
variable {Q : Channel → Prop} {w : World} {i : Nat} (holds : Q (w.connection i))
include holds

theorem World.change_lasting {f : Channel → Channel} (keeps : ∀ {c}, Q c → Q (f c)) (j : Nat) :
    Q ((w.change j f).connection i) := by
  rw [connection_change]
  split
  · exact keeps holds
  · exact holds

theorem World.replace_lasting {j : Nat} {after : Channel} (keeps : ∀ {c}, Q c → w.channel j = c → Q after) :
    Q ((w.change j fun _ => after).connection i) := by
  rw [connection_change]
  split
  · rename_i here
    exact keeps holds (here.1 ▸ channel_eq_connection (here.1 ▸ here.2))
  · exact holds

theorem World.dial_lasting (path : String) : Q ((w.dial path).2.connection i) := by
  rw [World.dial]
  split
  · exact holds
  · exact (w.connection_grow i).symm ▸ holds

private theorem foldl_lasting {α : Type} {f : World → α → World}
    (step : ∀ {w x}, Q (w.connection i) → Q ((f w x).connection i)) (xs : List α) :
    Q ((xs.foldl f w).connection i) := by
  induction xs generalizing w with
  | nil => exact holds
  | cons x rest ih => exact ih (step holds)

private theorem foldl_pools_lasting {α : Type} {f : Dispatcher × World → α → Dispatcher × World}
    (step : ∀ {d w x}, Q (w.connection i) → Q ((f (d, w) x).2.connection i)) (xs : List α) (d : Dispatcher) :
    Q ((xs.foldl f (d, w)).2.connection i) := by
  induction xs generalizing d w with
  | nil => exact holds
  | cons x rest ih => exact ih (step holds) (f (d, w) x).1

end

section
variable {Q : Channel → Prop} (lasting : Lasting Q) {w : World} {i : Nat} (holds : Q (w.connection i))
include lasting holds

namespace Pool

theorem takeIdle_lasting (idle : List Nat) : Q ((takeIdle w idle).2.2.connection i) := by
  induction idle generalizing w with
  | nil => exact holds
  | cons channel rest ih =>
    rw [takeIdle]
    split
    · exact ih (World.change_lasting holds lasting.drop channel)
    · exact holds

theorem dialAndLend_lasting (pool : Pool) (transient : Bool) :
    Q ((pool.dialAndLend transient w).2.2.connection i) := by
  have dialed := World.dial_lasting holds pool.socketPath
  rw [dialAndLend]
  split
  · simp_all
  · rename_i channel w' made
    rw [made] at dialed
    simp only
    split
    · exact World.change_lasting dialed lasting.drop channel
    · exact dialed

theorem attempt_lasting (pool : Pool) : Q ((pool.attempt w).2.2.connection i) := by
  have taken := takeIdle_lasting lasting holds pool.idle
  rw [attempt]
  split
  · exact holds
  · split
    · simp_all
    · rename_i found
      rw [found] at taken
      simp only
      split
      · exact dialAndLend_lasting lasting taken _ false
      · split
        · exact dialAndLend_lasting lasting taken _ true
        · exact taken

theorem acquire_lasting (pool : Pool) : Q ((pool.acquire w).2.2.connection i) := by
  have tried := attempt_lasting lasting holds pool
  rw [acquire]
  split
  · exact holds
  · split <;> simp_all

theorem release_lasting (pool : Pool) (guard : Guard) : Q ((pool.release guard w).2.connection i) := by
  rcases pool.release_cases guard w with dropped | ⟨-, kept⟩
  · rw [dropped]
    exact World.change_lasting holds lasting.drop guard.channel
  · rw [kept]
    exact holds

theorem retire_lasting (pool : Pool) : Q ((pool.retire w).2.connection i) := by
  rw [retire]
  split
  · exact holds
  · exact foldl_lasting holds (fun holds => World.change_lasting holds lasting.drop _) pool.idle

theorem close_lasting (pool : Pool) : Q ((pool.close w).2.connection i) := by
  have shut := foldl_lasting holds
    (fun {w} {loan : Loan} (holds : Q (w.connection i)) => World.change_lasting holds lasting.shutdown loan.channel)
    (pool.lent.filter (·.interruptible))
  exact foldl_lasting shut (fun holds => World.change_lasting holds lasting.drop _) pool.idle

end Pool

namespace Dispatcher

theorem retirePool_lasting (d : Dispatcher) (j : Nat) : Q ((d.retirePool w j).2.connection i) :=
  Pool.retire_lasting lasting holds (d.pool j)

theorem closePool_lasting (d : Dispatcher) (j : Nat) : Q ((d.closePool w j).2.connection i) :=
  Pool.close_lasting lasting holds (d.pool j)

theorem lookup_lasting (d : Dispatcher) (url : String) : Q ((d.lookup url w).2.2.connection i) := by
  rw [lookup]
  split
  · exact holds
  · exact foldl_pools_lasting holds (fun holds => retirePool_lasting lasting holds _ _) _ _

theorem close_lasting (d : Dispatcher) : Q ((d.close w).2.connection i) :=
  foldl_pools_lasting holds (fun holds => closePool_lasting lasting holds _ _) _ d

theorem exchange_lasting {channel : Nat} (usable : (w.channel channel).isDropped = false) (request : Http.Request)
    (reply : Reply) : Q ((exchange request reply channel w).2.2.connection i) := by
  rw [exchange]
  split
  · exact holds
  · rename_i sent wrote
    exact World.replace_lasting holds fun held same => lasting.exchange held (same ▸ usable) (same ▸ wrote)

theorem send_lasting (d : Dispatcher) (request : Http.Request) (reply : Reply) :
    Q ((d.send request reply w).2.2.connection i) := by
  have found := lookup_lasting lasting holds d (poolKey request.uri)
  rw [send]
  generalize d.lookup (poolKey request.uri) w = looked at found ⊢
  obtain ⟨j, d, w⟩ := looked
  have lent := Pool.acquire_lasting lasting found (d.pool j)
  simp only
  rcases acquired : (d.pool j).acquire w with ⟨result, pool, w'⟩
  rw [acquired] at lent
  cases result with
  | error error => exact lent
  | ok guard =>
    have exchanged := exchange_lasting lasting lent (Pool.acquire_lends acquired) request reply
    exact Pool.release_lasting lasting exchanged pool _

theorem connect_lasting (d : Dispatcher) : Q ((d.connect w).2.connection i) := by
  have dialed := World.dial_lasting holds d.socketPath
  rw [connect]
  split
  · rename_i found
    rw [found] at dialed
    exact World.change_lasting dialed lasting.drop _
  · simp_all

end Dispatcher

end

namespace DispatchSession
variable {Q : Channel → Prop} (lasting : Lasting Q)
include lasting

theorem giveBack_lasting {s : DispatchSession} {i : Nat} (holds : Q (s.world.connection i)) (name : String) :
    Q ((s.giveBack name).world.connection i) := by
  rw [giveBack]
  split
  · exact holds
  · exact Pool.release_lasting lasting holds _ _

/-- A step keeps what lasts. -/
theorem step_lasting {s : DispatchSession} {i : Nat} (holds : Q (s.world.connection i)) (step : DispatchStep) :
    Q ((s.step step).2.world.connection i) := by
  cases step with
  | send request reply => exact Dispatcher.send_lasting lasting holds s.dispatcher request reply
  | pool url name => exact Dispatcher.lookup_lasting lasting holds s.dispatcher url
  | acquire pool name =>
    rw [DispatchSession.step]
    cases s.names.lookup pool with
    | none => exact holds
    | some j =>
      have lent := Pool.acquire_lasting lasting holds (s.dispatcher.pool j)
      simp only
      generalize (s.dispatcher.pool j).acquire s.world = acquired at lent ⊢
      obtain ⟨result, pool, w⟩ := acquired
      cases result with
      | error error => exact lent
      | ok guard => exact giveBack_lasting lasting (s := { s with world := w, dispatcher := _ }) lent name
  | release name => exact giveBack_lasting lasting holds name
  | markBroken name =>
    rw [DispatchSession.step]
    split <;> exact holds
  | closePool name =>
    simp only [DispatchSession.step, withPool]
    split
    · exact holds
    · exact Dispatcher.closePool_lasting lasting holds s.dispatcher _
  | retirePool name =>
    simp only [DispatchSession.step, withPool]
    split
    · exact holds
    · exact Dispatcher.retirePool_lasting lasting holds s.dispatcher _
  | connect =>
    have connected := Dispatcher.connect_lasting lasting holds s.dispatcher
    rw [DispatchSession.step]
    split <;> simp_all
  | peerClose channel => exact World.change_lasting holds lasting.peerClose channel
  | peerSend channel data =>
    simp only [DispatchSession.step]
    split
    · rename_i wrote
      exact World.replace_lasting holds fun held same => lasting.peerWrite held (same ▸ wrote)
    · exact holds
  | daemon entry => exact holds
  | close => exact Dispatcher.close_lasting lasting holds s.dispatcher
  | look => exact holds

/-- A run keeps what lasts. -/
theorem run_lasting {s : DispatchSession} {i : Nat} (holds : Q (s.world.connection i)) (steps : List DispatchStep) :
    Q ((s.run steps).world.connection i) := by
  induction steps generalizing s with
  | nil => exact holds
  | cons step rest ih => exact ih (step_lasting lasting holds step)

end DispatchSession

end EngineClient
