import EngineClient.Proofs.Pooling.Retirement
/-!
# Closing and retiring

A pool can be closed and retired again and again: doing it twice is doing it once, and a close settles all that a
retirement does (`close_close`, `retire_retire`, `retire_close`, `close_retire`). After either of them the pool lends
no more, whatever is done with it (`run_stays_closed`).
-/

namespace EngineClient

open Relation (ReflTransGen)

namespace World

theorem change_comm {f g : Channel → Channel} (commute : ∀ c, f (g c) = g (f c)) (w : World) (i j : Nat) :
    (w.change i f).change j g = (w.change j g).change i f := by
  have same : (w.channels.modify i f).modify j g = (w.channels.modify j g).modify i f := by
    refine List.ext_getElem? fun k => ?_
    simp only [List.getElem?_modify]
    cases w.channels[k]? with
    | none => rfl
    | some c =>
      by_cases first : i = k
      · by_cases second : j = k
        · simp [first, second, commute]
        · simp [first, second]
      · by_cases second : j = k
        · simp [first, second]
        · simp [first, second]
  simp only [change, same]

theorem change_changeAll_comm {f g : Channel → Channel} (commute : ∀ c, f (g c) = g (f c)) (w : World) (i : Nat)
    (channels : List Nat) : (w.change i f).changeAll g channels = (w.changeAll g channels).change i f := by
  induction channels generalizing w with
  | nil => rfl
  | cons j rest ih =>
    have swapped := change_comm commute w i j
    exact (congrArg (fun w => changeAll w g rest) swapped).trans (ih (w.change j g))

/-- Changes that can be swapped on one connection can be swapped on all. -/
theorem changeAll_comm {f g : Channel → Channel} (commute : ∀ c, f (g c) = g (f c)) (w : World)
    (channels others : List Nat) :
    (w.changeAll f channels).changeAll g others = (w.changeAll g others).changeAll f channels := by
  induction channels generalizing w with
  | nil => rfl
  | cons i rest ih =>
    have swapped := change_changeAll_comm commute w i others
    exact (ih (w.change i f)).trans (congrArg (fun w => changeAll w f rest) swapped)

end World

namespace Pool

/-! ## Doing it again -/

theorem close_close (pool : Pool) (w : World) : (pool.close w).1.close (pool.close w).2 = pool.close w := by
  have unhandled : (pool.lent.map fun loan => { loan with interruptible := false }).filter (·.interruptible) = [] := by
    refine List.filter_eq_nil_iff.mpr fun loan changed => ?_
    obtain ⟨old, -, rfl⟩ := List.mem_map.mp changed
    simp
  rw [close_eq (pool.close w).1, close_eq pool w]
  simp only [unhandled, List.map_nil, List.map_map]
  rfl

theorem retire_of_closed {pool : Pool} (closed : pool.closed = true) (w : World) : pool.retire w = (pool, w) := by
  rw [retire, if_pos closed]

theorem retire_of_open {pool : Pool} (isOpen : pool.closed = false) (w : World) :
    pool.retire w = ({ pool with closed := true, idle := [] }, w.changeAll .drop pool.idle) := by
  rw [retire, if_neg (by simp [isOpen])]
  rfl

@[simp] theorem closed_retire (pool : Pool) (w : World) : (pool.retire w).1.closed = true := by
  rw [retire]
  split
  · assumption
  · rfl

theorem retire_retire (pool : Pool) (w : World) : (pool.retire w).1.retire (pool.retire w).2 = pool.retire w :=
  retire_of_closed (pool.closed_retire w) _

theorem retire_close (pool : Pool) (w : World) : (pool.close w).1.retire (pool.close w).2 = pool.close w :=
  retire_of_closed rfl _

/-- What is parked and what is lent are told apart by no order, so that a close does all that a retirement did. -/
theorem close_retire (pool : Pool) (w : World) : (pool.retire w).1.close (pool.retire w).2 = pool.close w := by
  by_cases closed : pool.closed = true
  · rw [retire_of_closed closed]
  · have isOpen : pool.closed = false := by simpa using closed
    have swapped := World.changeAll_comm (f := .drop) (g := .shutdown) (fun _ => rfl) w pool.idle
      ((pool.lent.filter (·.interruptible)).map (·.channel))
    rw [retire_of_open isOpen, close_eq, close_eq]
    simp only [swapped]
    rfl

/-! ## What a closed pool does -/

/-- The error of a closed pool; a wait whose end cannot be told fails before the pool is looked at. -/
def refusal (pool : Pool) (w : World) : TransportError :=
  if pool.canWait w then .poolClosed pool.socketPath else .deadlineOverflow

theorem attempt_of_closed {pool : Pool} (closed : pool.closed = true) (w : World) :
    pool.attempt w = (.failed (.poolClosed pool.socketPath), pool, w) := by
  rw [attempt, if_pos closed]

theorem acquire_of_closed {pool : Pool} (closed : pool.closed = true) (w : World) :
    pool.acquire w = (.error (pool.refusal w), pool, w) := by
  rw [acquire, attempt_of_closed closed, refusal]
  cases pool.canWait w <;> rfl

theorem Tries.of_closed {pool pool' : Pool} {w w' : World} {attempt : Attempt} (tries : pool.Tries w attempt pool' w')
    (closed : pool.closed = true) : pool' = pool ∧ w' = w := by
  cases tries with
  | refused why => exact ⟨rfl, rfl⟩
  | reused isOpen => simp [isOpen] at closed
  | dialed isOpen => simp [isOpen] at closed
  | undialed isOpen => simp [isOpen] at closed
  | full isOpen => simp [isOpen] at closed

/-- Whatever happens to a closed pool, it lends nothing new and dials nothing. -/
theorem Move.of_closed {retiring closing : Prop} {before after : Books} (move : Move retiring closing before after)
    (closed : before.pool.closed = true) :
    (after.pool.lent.map Loan.key).Sublist (before.pool.lent.map Loan.key) ∧
      after.world.channels.length = before.world.channels.length := by
  cases move with
  | borrow tries =>
    obtain ⟨rfl, rfl⟩ := tries.of_closed closed
    exact ⟨.refl _, rfl⟩
  | giveBack returns =>
    refine ⟨?_, returns.length_eq⟩
    cases returns with
    | unknown foreign => exact .refl _
    | closed lent same spent => exact List.filter_sublist.map _
    | parked lent same isOpen => exact List.filter_sublist.map _
  | @retire pool guards w may =>
    simp only [retire_of_closed closed]
    exact ⟨.refl _, trivial⟩
  | @close pool guards w may =>
    refine ⟨?_, length_close pool w⟩
    rw [close_eq, List.map_map]
    exact .refl _
  | regard same => exact ⟨.refl _, rfl⟩
  | elsewhere made ends => exact ⟨.refl _, made⟩

section
variable {retiring closing : Prop} {before after : Books} (moves : ReflTransGen (Move retiring closing) before after)
  (closed : before.pool.closed = true)
include moves closed

theorem closed_of_moves : after.pool.closed = true := by
  induction moves with
  | refl => exact closed
  | tail _ move ih => exact move.stays_closed ih

theorem lends_no_more_of_moves :
    (after.pool.lent.map Loan.key).Sublist (before.pool.lent.map Loan.key) ∧
      after.world.channels.length = before.world.channels.length := by
  induction moves with
  | refl => exact ⟨.refl _, rfl⟩
  | tail earlier move ih =>
    obtain ⟨fewer, made⟩ := move.of_closed (closed_of_moves earlier closed)
    exact ⟨fewer.trans ih.1, made.trans ih.2⟩

end

/-- Retiring a pool leaves what it has lent as it is. -/
theorem Books.Balanced.channel_retire {mine : Nat → Bool} {pool : Pool} {guards : List Guard} {w : World}
    (balanced : Balanced mine ⟨pool, guards, w⟩) {loan : Loan} (lent : loan ∈ pool.lent) :
    (pool.retire w).2.channel loan.channel = w.channel loan.channel := by
  by_cases closed : pool.closed = true
  · rw [retire_of_closed closed]
  · rw [retire_of_open (by simpa using closed)]
    exact World.channel_dropAll_of_notMem (balanced.loan_notMem_idle lent)

/-- Closing a pool shuts down all that it has lent. -/
theorem Books.Balanced.shut_close {mine : Nat → Bool} {pool : Pool} {guards : List Guard} {w : World}
    (balanced : Balanced mine ⟨pool, guards, w⟩) {loan : Loan} (lent : loan ∈ pool.lent) :
    ((pool.close w).2.channel loan.channel).shut = true := by
  have listed : { loan with interruptible := false } ∈ (pool.close w).1.lent := List.mem_map_of_mem lent
  exact balanced.close.ends _ listed

end Pool

/-- Whether a step closes the pool, or lets it be closed while somebody waits. -/
def PoolStep.closes : PoolStep → Bool
  | .close => true
  | .acquireWaitingFor _ _ .close => true
  | _ => false

namespace PoolSession
variable {s : PoolSession}

/-! ## A session with a closed pool -/

theorem acquire_of_closed (closed : s.pool.closed = true) (name : String) :
    s.step (.acquire name) = (.failed (s.pool.refusal s.world), s) := by
  simp only [step, acquire, Pool.acquire_of_closed closed]

/-- A try that finds the pool closed settles the wait. -/
theorem attemptAgain_of_closed (closed : s.pool.closed = true) :
    attemptAgain none s = (some (.error (.poolClosed s.pool.socketPath)), s) := by
  simp only [attemptAgain, Pool.attempt_of_closed closed]

/-- Whoever asks a closed pool for a connection and would wait is told at once. -/
theorem acquireWaitingFor_of_closed (closed : s.pool.closed = true) (awaited name : String) (happening : Meanwhile) :
    s.acquireWaitingFor awaited name happening =
      (.failedLate (.poolClosed s.pool.socketPath), (s.meanwhile happening).giveBack awaited) := by
  simp only [acquireWaitingFor, attemptAgain_of_closed closed]
  rfl

theorem socketPath_meanwhile (s : PoolSession) (happening : Meanwhile) :
    (s.meanwhile happening).pool.socketPath = s.pool.socketPath := by
  cases happening with
  | nothing => rfl
  | close => rfl
  | retire =>
    have path := congrArg Pool.socketPath (Pool.asMade_retire s.pool s.world)
    exact path

theorem socketPath_attempt (pool : Pool) (w : World) : (pool.attempt w).2.1.socketPath = pool.socketPath := by
  have path := congrArg Pool.socketPath (pool.attempt_tries w).asMade
  exact path

/-- Whoever waits while the pool is closed or retired is told that it is closed. -/
theorem acquireWaitingFor_of_full (full : (s.pool.attempt s.world).1 = .full) (awaited name : String)
    {happening : Meanwhile} (shuts : happening ≠ .nothing) :
    (s.acquireWaitingFor awaited name happening).1 = .failedLate (.poolClosed s.pool.socketPath) := by
  have path := socketPath_attempt s.pool s.world
  rcases tried : s.pool.attempt s.world with ⟨attempt, pool, world⟩
  rw [tried] at full path
  simp only at full path
  subst full
  have first : attemptAgain none s = (none, { s with pool, world }) := by simp only [attemptAgain, tried]
  have closed : (({ s with pool, world } : PoolSession).meanwhile happening).pool.closed = true := by
    cases happening with
    | nothing => contradiction
    | close => rfl
    | retire => exact Pool.closed_retire pool world
  have told := socketPath_meanwhile { s with pool, world } happening
  simp only [acquireWaitingFor, first, attemptAgain_of_closed closed]
  rw [told, path]
  rfl

theorem shut_giveBack (s : PoolSession) (name : String) (i : Nat) :
    ((s.giveBack name).world.channel i).shut = (s.world.channel i).shut := by
  have dropped : ∀ channel, ((s.world.change channel .drop).channel i).shut = (s.world.channel i).shut := by
    intro channel
    rw [World.channel_change]
    split <;> rfl
  rw [giveBack]
  split
  · rfl
  · rename_i guard held
    have returns := s.pool.release_returns guard s.world
    generalize s.pool.release guard s.world = returned at returns ⊢
    obtain ⟨pool, world⟩ := returned
    cases returns with
    | unknown foreign => exact dropped _
    | closed lent same spent => exact dropped _
    | parked lent same isOpen => rfl

theorem meanwhile_of_closed (closed : s.pool.closed = true) {happening : Meanwhile} (quiet : happening ≠ .close) :
    s.meanwhile happening = s := by
  cases happening with
  | nothing => rfl
  | close => contradiction
  | retire => simp only [meanwhile, Pool.retire_of_closed closed]

theorem shut_withPeer (s : PoolSession) (peer : Nat) {f : Channel → PoolAnswer × Channel}
    (same : ∀ c : Channel, c.SameEnd (f c).2) (i : Nat) :
    ((s.withPeer peer f).2.world.channel i).shut = (s.world.channel i).shut := by
  rw [withPeer]
  split
  · have ends := same (s.world.channel peer)
    exact (World.ends_replace ends.1 ends.2 i).2
  · rfl

theorem shut_withHeld (s : PoolSession) (name : String) {f : Channel → PoolAnswer × Channel}
    (same : ∀ c : Channel, c.SameEnd (f c).2) (i : Nat) :
    ((s.withHeld name f).2.world.channel i).shut = (s.world.channel i).shut := by
  rw [withHeld]
  split
  · rfl
  · rename_i guard held
    have ends := same (s.world.channel guard.channel)
    exact (World.ends_replace ends.1 ends.2 i).2

/-- Once a pool is closed, only another close shuts connections down. -/
theorem step_shut (closed : s.pool.closed = true) {step : PoolStep} (quiet : step.closes = false) (i : Nat) :
    ((s.step step).2.world.channel i).shut = (s.world.channel i).shut := by
  cases step with
  | acquire name => rw [acquire_of_closed closed]
  | acquireWaitingFor awaited name happening =>
    have silent : happening ≠ .close := by
      rintro rfl
      contradiction
    rw [PoolSession.step, acquireWaitingFor_of_closed closed, meanwhile_of_closed closed silent]
    exact s.shut_giveBack awaited i
  | release name =>
    rw [PoolSession.step]
    split
    · exact s.shut_giveBack name i
    · rfl
  | drop name => exact s.shut_giveBack name i
  | markBroken name =>
    rw [PoolSession.step]
    split <;> rfl
  | write name data => exact s.shut_withHeld name (fun c => sameEnd_written (sameEnd_write c data)) i
  | read name most => exact s.shut_withHeld name (fun c => sameEnd_read c most) i
  | peerWrite peer data => exact s.shut_withPeer peer (fun c => sameEnd_written (sameEnd_peerWrite c data)) i
  | peerRead peer most => exact s.shut_withPeer peer (fun c => sameEnd_peerRead c most) i
  | peerClose peer => exact s.shut_withPeer peer (fun c => ⟨rfl, rfl⟩) i
  | listener entry => rfl
  | close => contradiction
  | retire =>
    have silent : Meanwhile.retire ≠ .close := by simp
    have same : (s.step .retire).2 = s := meanwhile_of_closed closed silent
    rw [same]
  | info name =>
    rw [PoolSession.step]
    split <;> rfl
  | debug name => rfl

theorem reaches_step (named : (s.guards.map (·.1)).Nodup) (step : PoolStep) :
    Reaches ⟨s.pool, s.guards.map (·.2), s.world⟩ [] (s.step step).2 := by
  have here : Reaches ⟨s.pool, s.guards.map (·.2), s.world⟩ [] s := ⟨.refl, named⟩
  exact here.step step

theorem lends_no_more (named : (s.guards.map (·.1)).Nodup) (closed : s.pool.closed = true) (step : PoolStep) :
    ((s.step step).2.pool.lent.map Loan.key).Sublist (s.pool.lent.map Loan.key) ∧
      (s.step step).2.world.channels.length = s.world.channels.length :=
  Pool.lends_no_more_of_moves (reaches_step named step).moves closed

/-- Retiring, and all that comes after it but a close, leaves the connections as far as they were shut down. -/
theorem run_shut (named : (s.guards.map (·.1)).Nodup) (closed : s.pool.closed = true) {steps : List PoolStep}
    (quiet : ∀ step ∈ steps, step.closes = false) (i : Nat) :
    ((s.run steps).world.channel i).shut = (s.world.channel i).shut := by
  induction steps generalizing s with
  | nil => rfl
  | cons step rest ih =>
    have reached := reaches_step named step
    have later := ih reached.named (Pool.closed_of_moves reached.moves closed)
      fun other listed => quiet other (List.mem_cons_of_mem _ listed)
    exact later.trans (step_shut closed (quiet step List.mem_cons_self) i)

/-- A pool that is over. It is closed and has nothing parked; whoever asks it for a connection, at once or ready to
wait, is refused, and nothing changes by it; no step dials or lends; and what comes back is closed, its own loan
ending and no other. -/
structure Over (s : PoolSession) : Prop where
  closed : s.pool.closed = true
  unparked : s.pool.idle = []
  refuses : ∀ name, s.step (.acquire name) = (.failed (s.pool.refusal s.world), s)
  refusesLate : ∀ awaited name happening, s.step (.acquireWaitingFor awaited name happening) =
    (.failedLate (.poolClosed s.pool.socketPath), (s.meanwhile happening).giveBack awaited)
  undialed : ∀ step, (s.step step).2.world.channels.length = s.world.channels.length
  shrinks : ∀ step, ((s.step step).2.pool.lent.map Loan.key).Sublist (s.pool.lent.map Loan.key)
  closes : ∀ name guard, s.guards.lookup name = some guard → ∀ step ∈ [PoolStep.release name, .drop name],
    let after := (s.step step).2
    after.guards = Holdings.remove s.guards name ∧ s.pool.EndsLoan guard s.world after.pool after.world ∧
      (after.world.channel guard.channel).held = false

theorem over_of_closed (named : (s.guards.map (·.1)).Nodup) {mine : Nat → Bool}
    (balanced : Pool.Books.Balanced mine ⟨s.pool, s.guards.map (·.2), s.world⟩) (fits : s.pool.Fits)
    (closed : s.pool.closed = true) : s.Over where
  closed := closed
  unparked := fits.closed_idle closed
  refuses := acquire_of_closed closed
  refusesLate := acquireWaitingFor_of_closed closed
  undialed step := (lends_no_more named closed step).2
  shrinks step := (lends_no_more named closed step).1
  closes := by
    intro name guard held step ends
    have same : (s.step step).2 = s.giveBack name := by
      rcases List.mem_cons.mp ends with rfl | ends
      · simp only [PoolSession.step, held, Option.isSome_some, if_true]
      · rw [List.mem_singleton.mp ends]
        rfl
    obtain ⟨guards, endsLoan⟩ := giveBack_endsLoan named balanced held
    have listed : guard ∈ s.guards.map (·.2) := List.mem_map.mpr ⟨_, Holdings.mem_of_lookup held, rfl⟩
    have made := World.made_of_held (balanced.own_of_guard listed).2
    rw [same]
    refine ⟨guards, endsLoan, ?_⟩
    obtain ⟨loan, -, -, -, comes⟩ := endsLoan
    rw [closed, Bool.true_or, Bool.true_or, if_pos rfl] at comes
    rw [comes.2, World.channel_change, if_pos ⟨rfl, made⟩]
    rfl

theorem over_of_reaches {baseUrl socketPath : String} {timeout : Option Duration} {maxSize : Nat} {block : Bool}
    {files : Files} (reached : Reaches ⟨.create baseUrl socketPath timeout maxSize block, [], .fresh files⟩ [] s)
    (closed : s.pool.closed = true) (more : List PoolStep) : (s.run more).Over := by
  have here : Reaches ⟨s.pool, s.guards.map (·.2), s.world⟩ [] s := ⟨.refl, reached.named⟩
  have later := reached.run more
  exact over_of_closed later.named
    (Pool.balanced_of_moves later.moves (Pool.balanced_create baseUrl socketPath timeout maxSize block files))
    (Pool.fits_of_moves later.moves (Pool.fits_create baseUrl socketPath timeout maxSize block))
    (Pool.closed_of_moves (here.run more).moves closed)

end PoolSession

/-! ## A dispatcher with a closed pool -/

namespace Dispatcher

theorem setPool_self (d : Dispatcher) (i : Nat) : d.setPool i (d.pool i) = d := by
  have same : d.pools.set i (d.pool i) = d.pools := by
    rcases Nat.lt_or_ge i d.pools.length with made | beyond
    · simp [Dispatcher.pool, made]
    · exact List.set_eq_of_length_le beyond
  rw [setPool, same]

/-- A request for which a closed pool is looked up is not sent, and nothing is dialed for it. -/
theorem send_of_closed {d : Dispatcher} {i : Nat} (tidy : d.Tidy) (made : i < d.pools.length)
    (closed : (d.pool i).closed = true) (request : Http.Request) (reply : Reply) (w : World)
    (looked : (d.lookup (poolKey request.uri) w).1 = i) :
    (d.send request reply w).1 = ⟨.error ((d.pool i).refusal w), none⟩ ∧ (d.send request reply w).2.2 = w := by
  have finds := lookup_finds tidy (poolKey request.uri) w
  rw [send]
  generalize d.lookup (poolKey request.uri) w = found at finds looked ⊢
  obtain ⟨j, d', w'⟩ := found
  simp only at looked finds ⊢
  subst looked
  cases finds with
  | kept cached =>
    have refused : (Dispatcher.pool { d with cache := Holdings.put d.cache (poolKey request.uri) j } j).acquire w =
        (.error ((d.pool j).refusal w), d.pool j, w) := Pool.acquire_of_closed closed w
    simp only [refused]
    exact ⟨trivial, trivial⟩
  | made absent room => exact absurd made (Nat.lt_irrefl _)
  | replaced absent full last => exact absurd made (Nat.lt_irrefl _)

end Dispatcher

namespace DispatchSession
variable {s : DispatchSession}

/-- A pool of a dispatcher that is over. It is closed and has nothing parked; whoever asks it for a connection, and a
request for which it is looked up, is refused, and nothing is dialed; no step makes it lend; and what comes back to it
is closed, its own loan ending and no other. -/
structure Over (s : DispatchSession) (i : Nat) : Prop where
  closed : (s.dispatcher.pool i).closed = true
  unparked : (s.dispatcher.pool i).idle = []
  refuses : ∀ pool name, s.names.lookup pool = some i →
    s.step (.acquire pool name) = (.failed ((s.dispatcher.pool i).refusal s.world), s)
  refusesSend : ∀ request reply, (s.dispatcher.lookup (Dispatcher.poolKey request.uri) s.world).1 = i →
    (s.dispatcher.send request reply s.world).1 = ⟨.error ((s.dispatcher.pool i).refusal s.world), none⟩ ∧
      (s.dispatcher.send request reply s.world).2.2 = s.world
  shrinks : ∀ step, (((s.step step).2.dispatcher.pool i).lent.map Loan.key).Sublist
    ((s.dispatcher.pool i).lent.map Loan.key)
  closes : ∀ name guard, s.guards.lookup name = some (i, guard) →
    let after := (s.step (.release name)).2
    after.guards = Holdings.remove s.guards name ∧
      (s.dispatcher.pool i).EndsLoan guard s.world (after.dispatcher.pool i) after.world ∧
      (after.world.channel guard.channel).held = false

theorem over_of_closed (tidy : s.Tidy) {dialers : List (Option Nat)} (owned : (s.books dialers).Owned) {i : Nat}
    (made : i < s.dispatcher.pools.length) (fits : (s.dispatcher.pool i).Fits)
    (closed : (s.dispatcher.pool i).closed = true) : s.Over i where
  closed := closed
  unparked := fits.closed_idle closed
  refuses := by
    intro pool name bound
    simp only [DispatchSession.step, bound, Pool.acquire_of_closed closed, Dispatcher.setPool_self]
  refusesSend request reply looked :=
    Dispatcher.send_of_closed tidy.dispatcher made closed request reply s.world looked
  shrinks step := by
    let Lends (pool : Pool) : Prop :=
      pool.closed = true ∧ (pool.lent.map Loan.key).Sublist ((s.dispatcher.pool i).lent.map Loan.key)
    have before : Lends (s.dispatcher.pool i) := ⟨closed, .refl _⟩
    have after : Lends ((s.step step).2.dispatcher.pool i) :=
      step_pool tidy (fun move lends => ⟨move.stays_closed lends.1, (move.of_closed lends.1).1.trans lends.2⟩) made before
    exact after.2
  closes := by
    intro name guard held
    obtain ⟨guards, -, endsLoan⟩ := release_endsLoan tidy owned held
    exact ⟨guards, endsLoan, (release_closed tidy owned held closed).1⟩

end DispatchSession

namespace PoolSession

/-- Closing and retiring. For every pool that a session has come to, closing it twice is closing it once, and so is
retiring; retiring after closing changes nothing, and closing after retiring comes to what closing alone comes to: the
pool is closed, has nothing parked, and all that it has lent is shut down. Retiring leaves what is lent as it is, and
nothing but a close shuts it down later. From then on, whatever is done, the pool is over; whoever waits for a
connection meanwhile is refused as well. The same holds of every closed pool of a dispatcher, whoever closed or
retired it. -/
theorem run_stays_closed (baseUrl socketPath : String) (timeout : Option Duration) (maxSize : Nat) (block : Bool)
    (files : Files) (steps : List PoolStep) :
    let s := (start (.create baseUrl socketPath timeout maxSize block) files).run steps
    let closed := (s.step .close).2
    let retired := (s.step .retire).2
    ((closed.step .close).2 = closed ∧ (retired.step .retire).2 = retired ∧ (closed.step .retire).2 = closed ∧
      (retired.step .close).2 = closed) ∧
    (closed.pool.closed = true ∧ closed.pool.idle = [] ∧ closed.pool.lent.map Loan.key = s.pool.lent.map Loan.key ∧
      ∀ loan ∈ s.pool.lent, (closed.world.channel loan.channel).shut = true) ∧
    (retired.pool.closed = true ∧ (∀ loan ∈ s.pool.lent,
      retired.world.channel loan.channel = s.world.channel loan.channel ∧
      ∀ more, (∀ step ∈ more, step.closes = false) →
        ((retired.run more).world.channel loan.channel).shut = (s.world.channel loan.channel).shut)) ∧
    (∀ more, (closed.run more).Over ∧ (retired.run more).Over) ∧
    (∀ awaited name happening, (s.pool.attempt s.world).1 = .full → happening ≠ .nothing →
      (s.acquireWaitingFor awaited name happening).1 = .failedLate (.poolClosed socketPath)) ∧
    ∀ (settings : DispatchSettings) (steps : List DispatchStep),
      let s := (DispatchSession.start (.create socketPath settings) files).run steps
      ∀ i < s.dispatcher.pools.length, (s.dispatcher.pool i).closed = true → ∀ more, (s.run more).Over i := by
  intro s closed retired
  have history := (Reaches.start (.create baseUrl socketPath timeout maxSize block) files).run steps
  have made : s.pool.asMade = .create baseUrl socketPath timeout maxSize block := Pool.asMade_of_moves history.moves
  have path : s.pool.socketPath = socketPath := congrArg Pool.socketPath made
  have balanced : Pool.Books.Balanced (fun _ => true) ⟨s.pool, s.guards.map (·.2), s.world⟩ :=
    Pool.balanced_of_moves history.moves (Pool.balanced_create baseUrl socketPath timeout maxSize block files)
  have isRetired : retired.pool.closed = true := s.pool.closed_retire s.world
  have named : (retired.guards.map (·.1)).Nodup := history.named
  refine ⟨⟨?_, ?_, ?_, ?_⟩, ⟨rfl, rfl, ?_, fun loan lent => balanced.shut_close lent⟩,
    ⟨isRetired, fun loan lent => ?_⟩, ?_, ?_, ?_⟩
  · have same := Pool.close_close s.pool s.world
    simp only [closed, PoolSession.step, meanwhile, same]
  · have same := Pool.retire_retire s.pool s.world
    simp only [retired, PoolSession.step, meanwhile, same]
  · have same := Pool.retire_close s.pool s.world
    simp only [closed, PoolSession.step, meanwhile, same]
  · have same := Pool.close_retire s.pool s.world
    simp only [closed, retired, PoolSession.step, meanwhile, same]
  · simp only [closed, PoolSession.step, meanwhile, Pool.close_eq, List.map_map]
    rfl
  · have untouched : retired.world.channel loan.channel = s.world.channel loan.channel := balanced.channel_retire lent
    refine ⟨untouched, fun more quiet => ?_⟩
    rw [run_shut named isRetired quiet loan.channel, untouched]
  · intro more
    exact ⟨over_of_reaches (history.step .close) rfl more, over_of_reaches (history.step .retire) isRetired more⟩
  · intro awaited name happening full shuts
    rw [acquireWaitingFor_of_full full awaited name shuts, path]
  · intro settings steps s i made closed more
    have begins := DispatchSession.start_tidy socketPath settings files
    have tidy : s.Tidy := DispatchSession.run_tidy begins steps
    have still := Nat.lt_of_lt_of_le made (DispatchSession.length_le_of_run tidy more)
    have isClosed := DispatchSession.run_pool tidy (P := fun pool => pool.closed = true)
      (fun move => move.stays_closed) made closed more
    have fits := DispatchSession.run_fits begins rfl (steps ++ more) (i := i)
    have owned := DispatchSession.run_owned begins (Dispatcher.owned_create socketPath settings files) (steps ++ more)
    rw [DispatchSession.run_append] at fits owned
    exact DispatchSession.over_of_closed (DispatchSession.run_tidy tidy more) owned still (fits still).1 isClosed

private def lendsOne : List PoolStep := [.acquire "a", .acquire "b", .release "b"]

private def evictsOne : List DispatchStep := [.pool "unix://a" "a", .acquire "a" "x", .pool "unix://b" "b"]

/-- A pool of two with one connection lent and one parked is retired, written to and asked again; a full pool is closed
while somebody waits; and the pool of an address is let go of by a dispatcher that keeps one. -/
theorem run_stays_closed_oneLent :
    let s := (start (.create defaultPoolKey "d.sock" none 2 true) (.listening listenerPlace)).run lendsOne
    let full := (start (.create defaultPoolKey "d.sock" none 1 true) (.listening listenerPlace)).run [.acquire "a"]
    let kept := (DispatchSession.start (.create "d.sock" ⟨none, 1, 2, true⟩) (.listening listenerPlace)).run evictsOne
    s.pool.lent = [⟨1, 0, false, true⟩] ∧ s.pool.idle = [1] ∧
    ((s.step .close).2.world.channel 0).shut = true ∧
    (((s.step .retire).2.run [.write "a" [0x68], .acquire "c"]).world.channel 0).shut = false ∧
    ((s.step .retire).2.run [.write "a" [0x68], .acquire "c"]).Over ∧
    (full.acquireWaitingFor "a" "b" .close).1 = .failedLate (.poolClosed "d.sock") ∧
    kept.guards.lookup "x" = some (0, ⟨1, 0, false⟩) ∧ (kept.run [.acquire "a" "y"]).Over 0 := by
  intro s full kept
  have lent : s.pool.lent = [⟨1, 0, false, true⟩] := by decide +kernel
  have listed : (⟨1, 0, false, true⟩ : Loan) ∈ s.pool.lent := lent ▸ List.mem_cons_self
  have unshut : (s.world.channel 0).shut = false := by decide +kernel
  have quiet : ∀ step ∈ [PoolStep.write "a" [0x68], .acquire "c"], step.closes = false := by decide +kernel
  have isFull : (full.pool.attempt full.world).1 = .full := by decide +kernel
  have made : 0 < kept.dispatcher.pools.length := by decide +kernel
  have evicted : (kept.dispatcher.pool 0).closed = true := by decide +kernel
  obtain ⟨-, ⟨-, -, -, shut⟩, ⟨-, spared⟩, ended, -, -⟩ :=
    run_stays_closed defaultPoolKey "d.sock" none 2 true (.listening listenerPlace) lendsOne
  obtain ⟨-, -, -, -, refused, dispatched⟩ :=
    run_stays_closed defaultPoolKey "d.sock" none 1 true (.listening listenerPlace) [.acquire "a"]
  refine ⟨lent, by decide +kernel, shut _ listed, ?_, (ended _).2, refused "a" "b" .close isFull (by simp),
    by decide +kernel, dispatched ⟨none, 1, 2, true⟩ evictsOne 0 made evicted _⟩
  exact ((spared _ listed).2 _ quiet).trans unshut

end PoolSession

end EngineClient
