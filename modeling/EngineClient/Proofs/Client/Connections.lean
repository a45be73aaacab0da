import EngineClient.Proofs.Client.CallWire
import EngineClient.Proofs.Pooling.Sending
/-!
# The connections of a client

A client lends a connection for one call only, so that between its steps nothing is lent (`ClientSession.run_sound`,
`DispatchSession.Sound.lent_eq_nil`) and no connection has to be transient (`DispatchSession.Sound.plain_of_lent`). What
becomes of the connection of a call is decided by the response alone (`ClientSession.sent_gives_back`).
-/

namespace EngineClient

namespace Pool

/-- A pool that lends nothing has room, so that what it lends is not transient. -/
theorem Tries.plain {pool pool' : Pool} {w w' : World} {guard : Guard} (tries : pool.Tries w (.lent guard) pool' w')
    (fits : pool.Fits) (size : 0 < pool.maxSize) (unlent : pool.lent = []) : ∀ loan ∈ pool'.lent, loan.transient = false := by
  intro loan listed
  cases tries with
  | reused isOpen parked usable =>
    simp only [lend, unlent, List.nil_append, List.mem_singleton] at listed
    rw [listed]
  | @dialed transient isOpen stale admitted answers =>
    simp only [lend, emptied, unlent, List.nil_append, List.mem_singleton] at listed
    rw [listed]
    cases transient with
    | false => rfl
    | true =>
      obtain ⟨-, taken⟩ : pool.block = false ∧ pool.maxSize ≤ pool.emptied.live := admitted
      simp only [live, emptied, unlent, fits.settled] at taken
      simp only [List.length_nil, List.filter_nil] at taken
      omega

end Pool

namespace DispatchSession

/-- What every step keeps of the pools: the books balance, and each pool is within its size, which is not zero. -/
structure Sound (s : DispatchSession) (dialers : List (Option Nat)) : Prop where
  owned : (s.books dialers).Owned
  fits : ∀ i < s.dispatcher.pools.length, (s.dispatcher.pool i).Fits ∧ 0 < (s.dispatcher.pool i).maxSize

namespace Sound
variable {s : DispatchSession} {dialers : List (Option Nat)}

theorem step (sound : s.Sound dialers) (tidy : s.Tidy) (step : DispatchStep) :
    (s.step step).2.Sound (dialers ++ s.dials step) where
  owned := Dispatcher.owned_of_moves (step_moves tidy dialers step) sound.owned
  fits i made := by
    have kept {retiring closing : Prop} {b b' : Pool.Books} (move : Pool.Move retiring closing b b')
        (holds : b.pool.Fits ∧ 0 < b.pool.asMade.maxSize) : b'.pool.Fits ∧ 0 < b'.pool.asMade.maxSize := by
      refine ⟨move.fits holds.1, ?_⟩
      rw [move.asMade]
      exact holds.2
    by_cases before : i < s.dispatcher.pools.length
    · exact step_pool (P := fun pool => pool.Fits ∧ 0 < pool.asMade.maxSize) tidy kept before (sound.fits i before)
    · refine step_new (P := fun pool => pool.Fits ∧ 0 < pool.asMade.maxSize) tidy kept ?_ (Nat.le_of_not_lt before) made
      intro url
      exact ⟨Pool.fits_create .., Nat.le_max_right ..⟩

theorem ready (sound : s.Sound dialers) (tidy : s.Tidy) (unsent : ∀ c, (s.world.connection c).Unsent) :
    s.dispatcher.Ready s.world := by
  refine sound.owned.ready tidy.dispatcher ?_ unsent
  intro i made
  exact (sound.fits i made).1.closed_idle

/-- Where no guard is held, nothing is lent. -/
theorem lent_eq_nil (sound : s.Sound dialers) (unheld : s.guards = []) (i : Nat) : (s.dispatcher.pool i).lent = [] := by
  have listed := (sound.owned.balanced i).records.loans
  simpa [books, unheld, Dispatcher.guardsOf] using listed.length_eq

/-- Where nothing is lent, the loan for a request is not transient. -/
theorem plain_of_lent (sound : s.Sound dialers) (tidy : s.Tidy) (unheld : s.guards = []) {request : Http.Request}
    {guard : Guard} (lent : s.lendFor request = .ok guard) :
    ∀ loan ∈ (s.dispatcher.lenderFor request s.world).lent, loan.transient = false := by
  -- The lookup is a step of its own.
  have found := sound.step tidy (.pool (Dispatcher.poolKey request.uri) "")
  have made := ((Dispatcher.lookup_finds tidy.dispatcher (Dispatcher.poolKey request.uri) s.world).found tidy.dispatcher).1
  have unlent := found.lent_eq_nil unheld (s.dispatcher.lookup (Dispatcher.poolKey request.uri) s.world).1
  have fits := found.fits _ made
  simp only [lendFor, Dispatcher.lendFor] at lent
  simp only [DispatchSession.step] at unlent fits
  simp only [Dispatcher.lenderFor]
  generalize s.dispatcher.lookup (Dispatcher.poolKey request.uri) s.world = looked at made unlent fits lent ⊢
  obtain ⟨i, d, w⟩ := looked
  obtain ⟨attempt, pool, w', tries, acquired⟩ := (d.pool i).acquire_tries w
  simp only [acquired] at lent ⊢
  cases attempt with
  | failed error => cases lent
  | full => cases lent
  | lent lentGuard => exact tries.plain fits.1 fits.2 unlent

end Sound

end DispatchSession

namespace ClientSession
variable {settings : Settings} {s s' : ClientSession}

/-- The books of the pools of a client balance. -/
def Sound (s : ClientSession) : Prop := ∃ dialers, s.dispatching.Sound dialers

theorem Acts.sound {step : ClientStep} {received : Option (Nat × Bytes)} (acts : s.Acts step received s')
    (here : s.Local settings) (sound : s.Sound) : s'.Sound := by
  obtain ⟨dialers, sound⟩ := sound
  cases acts with
  | @sent path request reply asked built => exact ⟨_, sound.step here.tidy (.send request reply)⟩
  | closed => exact ⟨_, sound.step here.tidy .close⟩
  | @peer theirs kind =>
    have stepped := sound.step here.tidy theirs
    have same : (s.dispatching.step theirs).2 = ⟨s.client.dispatcher, [], [], (s.dispatching.step theirs).2.world⟩ := by
      rcases kind with ⟨channel, rfl⟩ | ⟨channel, data, rfl⟩
      · rfl
      · simp only [DispatchSession.step]
        split <;> rfl
    rw [same] at stepped
    exact ⟨_, stepped⟩
  | @quiet world channels =>
    refine ⟨dialers, ⟨?_, sound.fits⟩⟩
    have ends (i : Nat) : (world.channel i).held = (s.world.channel i).held ∧
        (world.channel i).shut = (s.world.channel i).shut := by
      simp only [World.channel, channels, and_self]
    have move : Dispatcher.Move (fun _ => False) (fun _ => False) (s.dispatching.books dialers) _ :=
      .elsewhere (congrArg List.length channels) ends
    exact move.owned sound.owned

theorem run_sound (here : s.Local settings) (sound : s.Sound) (steps : List ClientStep) : (s.run steps).Sound := by
  induction steps generalizing s with
  | nil => exact sound
  | cons step rest ih =>
    have acts := s.step_acts step
    exact ih (acts.local here) (acts.sound here sound)

theorem start_sound {client : Client} (created : Client.create settings = .ok client) (helperEnvironment : Environment)
    (files : Files) : (start { client with helperEnvironment } files).Sound := by
  have empty (path : String) (settings : DispatchSettings) :
      DispatchSession.Sound ⟨.create path settings, [], [], .fresh files⟩ [] :=
    ⟨Dispatcher.owned_create path settings files, fun i made => absurd made (Nat.not_lt_zero i)⟩
  unfold Client.create at created
  split at created
  · cases created
  · split at created
    · cases created
    · cases created
      exact ⟨[], empty ..⟩
    · cases created
    · cases created

/-- What a call leaves that gets a connection: nothing is lent, and the connection is parked on top of its pool when the
response leaves it reusable, and closed when it does not. -/
theorem sent_gives_back (here : s.Local settings) (sound : s.Sound) {request : Http.Request} {guard : Guard}
    (lent : s.client.dispatcher.lendFor request s.world = .ok guard) (reply : Reply) :
    let i := (s.client.dispatcher.lookup (Dispatcher.poolKey request.uri) s.world).1
    let after := (s.client.dispatcher.send request reply s.world).2
    let reusable := Dispatcher.leavesReusable (Http.readResponse request.method reply.source).1
    (∀ j, (after.1.pool j).lent = []) ∧
    ∃ rest, guard.channel ∉ rest ∧ (after.1.pool i).idle = (if reusable then guard.channel :: rest else rest) ∧
      (after.2.channel guard.channel).held = reusable := by
  intro i after reusable
  obtain ⟨dialers, sound⟩ := sound
  have ready : s.client.dispatcher.Ready s.world := sound.ready here.tidy here.unsent
  have sent := sound.step here.tidy (.send request reply)
  refine ⟨sent.lent_eq_nil rfl, ?_⟩
  obtain ⟨loan, stale, rest, -, listed, -, -, apart, -, -, -, idle, held⟩ := ready.send_lent request reply lent
  have plain : loan.transient = false := by
    refine sound.plain_of_lent here.tidy rfl lent loan ?_
    have same : (s.dispatching.dispatcher.lenderFor request s.dispatching.world).lent = _ := listed
    rw [same]
    exact List.mem_append_right _ List.mem_cons_self
  rw [plain, Bool.not_false, Bool.and_true] at idle held
  exact ⟨rest, apart, idle, held⟩

end ClientSession

end EngineClient
