import EngineClient.Command.Run
import EngineClient.Proofs.Pooling.DispatchHistory
import EngineClient.Proofs.Settings.Layers
import Mathlib.Algebra.GroupWithZero.Nat
/-!
# Deadlines

Whoever borrows a connection computes the end of the wait first: the instant that is the timeout of the settings after
now. Every source of settings gives any timeout of 64 bits, and none is refused (`resolve_timeouts`); but the clock
shows 63 bits of seconds, so with a longer timeout no connection is ever lent (`deadline_overflows_iff`).
-/

namespace EngineClient

/-! ## Ends of waits -/

theorem World.deadline_ofSeconds (w : World) (n : Nat) :
    w.deadline (.ofSeconds n) =
      if w.now.seconds + n < clockLimit then some ⟨w.now.nanoseconds + n * 1000000000⟩ else none := by
  have whole : (w.now.nanoseconds + n * 1000000000) / 1000000000 = w.now.nanoseconds / 1000000000 + n :=
    Nat.add_mul_div_right _ _ (by decide)
  simp only [deadline, Duration.ofSeconds, Duration.seconds, whole]
  rfl

namespace Pool
variable {pool : Pool} {w : World}

theorem acquire_of_not_canWait (overflows : pool.canWait w = false) :
    pool.acquire w = (.error .deadlineOverflow, pool, w) := by
  rw [acquire, overflows]
  rfl

/-- Borrowing overflows exactly when the end of the wait cannot be told, whatever else may fail. -/
theorem acquire_overflows_iff : (pool.acquire w).1 = .error .deadlineOverflow ↔ pool.canWait w = false := by
  refine ⟨fun failed => ?_, fun overflows => by rw [acquire_of_not_canWait overflows]⟩
  obtain ⟨attempt, pool', w', tries, acquired⟩ := pool.acquire_tries w
  rw [acquired] at failed
  cases tries with
  | refused why =>
    rcases why with ⟨-, overflows⟩ | ⟨rfl, -⟩
    · exact overflows
    · cases failed
  | reused isOpen parked usable => cases failed
  | dialed isOpen stale admitted answers => cases failed
  | undialed isOpen stale admitted fault => cases failed
  | full isOpen stale blocks taken => cases failed

/-- Where a pool waits as long as settings tell, the end of a wait cannot be told when there is one and it lies past the
last second of the clock. -/
theorem canWait_eq_false_iff {s : Settings} (timed : pool.timeout = s.timeout) :
    pool.canWait w = false ↔ s.timeoutSeconds ≠ 0 ∧ World.clockLimit ≤ w.now.seconds + s.timeoutSeconds := by
  rw [canWait, timed, Settings.timeout]
  by_cases forGood : s.timeoutSeconds = 0
  · simp [forGood]
  · simp only [if_neg forGood, World.deadline_ofSeconds]
    by_cases fits : w.now.seconds + s.timeoutSeconds < World.clockLimit
    · rw [if_pos fits]
      exact iff_of_false (by simp) fun ⟨_, beyond⟩ => Nat.not_le_of_lt fits beyond
    · rw [if_neg fits]
      exact iff_of_true rfl ⟨forGood, Nat.le_of_not_lt fits⟩

end Pool

/-- A timeout of settings is not zero. -/
theorem Settings.effectiveTimeout_timeout (s : Settings) : effectiveTimeout s.timeout = s.timeout := by
  unfold timeout
  split_ifs with forGood
  · rfl
  · simp [effectiveTimeout, Duration.ofSeconds, Duration.isZero, forGood]

/-- Every pool that is made under settings waits as long as they tell. -/
theorem DispatchSession.run_timeout (s : Settings) (socketPath : String) (files : Files) (steps : List DispatchStep)
    {i : Nat} (made : i < ((start (.create socketPath s.dispatchSettings) files).run steps).dispatcher.pools.length) :
    (((start (.create socketPath s.dispatchSettings) files).run steps).dispatcher.pool i).timeout = s.timeout := by
  refine run_new (P := fun pool => pool.asMade.timeout = s.timeout) (start_tidy socketPath s.dispatchSettings files)
    (fun move holds => ?_) (fun url => s.effectiveTimeout_timeout) (Nat.zero_le i) steps made
  rw [move.asMade]
  exact holds

/-! ## Timeouts of every length -/

theorem Settings.Valid.withTimeout {s : Settings} (valid : s.Valid) (n : Nat) :
    ({ s with timeoutSeconds := n } : Settings).Valid :=
  ⟨valid.version, valid.poolConnections, valid.maxPoolSize⟩

/-- The layer with another timeout. -/
def Layer.withTimeout (l : Layer) (n : Nat) : Layer := { l with timeoutSeconds := some n }

theorem Layer.withTimeout_onto (l : Layer) (n : Nat) (s : Settings) :
    (l.withTimeout n).onto s = { l.onto s with timeoutSeconds := n } := rfl

/-- A document may say any timeout of 64 bits. -/
theorem Settings.ofDocument_timeout {entries : Toml.Entries} {s : Settings} (given : ofDocument entries = some s)
    {n : Nat} (small : n < Text.limit64) :
    ofDocument (("timeout_secs", .integer n) :: entries) = some { s with timeoutSeconds := n } := by
  obtain ⟨l, written, rfl⟩ := (ofDocument_eq_some_iff entries s).mp given
  refine (ofDocument_eq_some_iff _ _).mpr ⟨l.withTimeout n, ?_, l.withTimeout_onto n standard⟩
  have above (name : String) (other : name ≠ "timeout_secs") :
      (("timeout_secs", .integer n) :: entries : Toml.Entries).lookup name = entries.lookup name := by
    rw [List.lookup_cons, beq_false_of_ne other]
  have own : (("timeout_secs", .integer n) :: entries : Toml.Entries).lookup "timeout_secs" = some (.integer n) := by
    rw [List.lookup_cons, beq_self_eq_true]
  have timed : ∀ m ∈ some n, m < Text.limit64 := fun m same => Option.some.inj same ▸ small
  obtain ⟨baseUrl, version, -, poolConnections, maxPoolSize, poolBlock, tls, credentialsStore⟩ := written
  constructor <;> simp only [Layer.withTimeout]
  · rwa [above _ (by decide)]
  · rwa [above _ (by decide)]
  · exact ⟨own, timed⟩
  · rwa [above _ (by decide)]
  · rwa [above _ (by decide)]
  · rwa [above _ (by decide)]
  · rwa [above _ (by decide)]
  · rwa [above _ (by decide)]

/-- The variables with one for the timeout above them. -/
theorem Layer.ofVariables_timeout {env : Environment} {home : String} {l : Layer} (read : ofVariables env home = some l)
    {n : Nat} {text : String} (written : Text.Decimal n text) (small : n < Text.limit64) :
    ofVariables ((timeoutVariable, text) :: env) home = some (l.withTimeout n) := by
  have above (name : String) (other : name ≠ timeoutVariable) :
      Environment.value ((timeoutVariable, text) :: env) name = env.value name := by
    rw [Environment.value, List.lookup_cons, beq_false_of_ne other]
    rfl
  have trimmed (name : String) (other : name ≠ timeoutVariable) :
      Environment.trimmed ((timeoutVariable, text) :: env) name = env.trimmed name := by
    rw [Environment.trimmed, above name other]
    rfl
  have own : Environment.trimmed ((timeoutVariable, text) :: env) timeoutVariable = some text := by
    have plain : Text.trim text = text := Text.trim_of_bounds written.unpadded
    have filled : text.isEmpty = false := by simpa using written.filled
    rw [Environment.trimmed, Environment.value, List.lookup_cons, beq_self_eq_true]
    simp [plain, filled]
  have certificates : certificates ((timeoutVariable, text) :: env) home = certificates env home := by
    simp only [certificates, Environment.home, Environment.filled, above "HOME" (by decide),
      trimmed Settings.verifyVariable (by decide), trimmed Settings.certificatesVariable (by decide)]
  unfold ofVariables at read ⊢
  rw [trimmed Settings.versionVariable (by decide), trimmed Settings.hostVariable (by decide), own, certificates]
  simp only [Option.bind_eq_bind, Option.bind_eq_some_iff, Option.some.injEq] at read
  obtain ⟨version, parsed, seconds, -, rfl⟩ := read
  simp [parsed, written.read, small, withTimeout]

namespace Command
variable {files : Files} {process env : Environment} {home : String} {path : Option String} {o : Overrides}
  {s : Settings}

theorem Overrides.layer_timeout {l : Layer} (said : o.layer = some l) (n : Nat) :
    ({ o with timeoutSeconds := some n } : Overrides).layer = some (l.withTimeout n) := by
  obtain ⟨version, parsed, rfl⟩ := layer_eq_some_iff.mp said
  exact layer_eq_some_iff.mpr ⟨version, parsed, rfl⟩

/-- Where settings are resolved, they are resolved as well with any timeout of 64 bits: on the command line, and among
the variables where the command line gives none. -/
theorem resolve_timeouts (resolved : resolve files process env home path o = .ok s) {n : Nat} :
    resolve files process env home path { o with timeoutSeconds := some n } = .ok { s with timeoutSeconds := n } ∧
    (n < Text.limit64 → o.timeoutSeconds = none → ∀ text, Text.Decimal n text →
      resolve files process ((timeoutVariable, text) :: env) home path o = .ok { s with timeoutSeconds := n }) := by
  obtain ⟨text, ⟨flags, environment, file⟩, stands, ⟨document, read, said⟩, low, middle, rfl, valid⟩ :=
    (resolve_eq_ok_iff s).mp resolved
  constructor
  · exact (resolve_eq_ok_iff _).mpr ⟨text, ⟨flags.withTimeout n, environment, file⟩, stands,
      ⟨document, read, Overrides.layer_timeout said n⟩, low, middle, rfl, valid.withTimeout n⟩
  · intro small unsaid text' written
    have silent : flags.timeoutSeconds = none := by
      obtain ⟨version, -, rfl⟩ := Overrides.layer_eq_some_iff.mp said
      exact unsaid
    have covers : ({ flags := flags, environment := environment.withTimeout n, file := file } : Layers).joined =
        (Layers.joined ⟨flags, environment, file⟩).withTimeout n := by
      simp [Layers.joined, Layer.covering, Layer.withTimeout, silent]
    refine (resolve_eq_ok_iff _).mpr ⟨text, ⟨flags, environment.withTimeout n, file⟩, stands,
      ⟨document, Layer.ofVariables_timeout read written small, said⟩, low, middle.withTimeout n, ?_,
      valid.withTimeout n⟩
    rw [covers, Layer.withTimeout_onto]

end Command

/-- Settings with any timeout of 64 bits can be used when they can be with another, and every source gives it. The wait
for a connection has an end that the clock can show when timeout and time together come to less than 2 to the 63
seconds, so no wait overflows with both within 2 to the 62, and each one does with a timeout of 2 to the 63 or more,
also when nobody would have to wait. The overflow leaves the pool and the world as they are. -/
theorem deadline_overflows_iff (s : Settings) :
    (∀ (socketPath : String) (files : Files) (steps : List DispatchStep) (i : Nat) (w : World),
      let dispatcher := ((DispatchSession.start (.create socketPath s.dispatchSettings) files).run steps).dispatcher
      let pool := dispatcher.pool i
      i < dispatcher.pools.length →
        ((pool.acquire w).1 = .error .deadlineOverflow ↔
          s.timeoutSeconds ≠ 0 ∧ 2 ^ 63 ≤ w.now.seconds + s.timeoutSeconds) ∧
        (s.timeoutSeconds ≠ 0 → w.now.seconds + s.timeoutSeconds < 2 ^ 63 →
          pool.timeout.bind w.deadline = some ⟨w.now.nanoseconds + s.timeoutSeconds * 1000000000⟩) ∧
        (w.now.seconds < 2 ^ 62 → s.timeoutSeconds ≤ 2 ^ 62 → (pool.acquire w).1 ≠ .error .deadlineOverflow) ∧
        (2 ^ 63 ≤ s.timeoutSeconds → pool.acquire w = (.error .deadlineOverflow, pool, w))) ∧
    ∀ n < 2 ^ 64,
      (s.validate = .ok () → ({ s with timeoutSeconds := n } : Settings).validate = .ok ()) ∧
      (∀ entries, Settings.ofDocument entries = some s →
        Settings.ofDocument (("timeout_secs", .integer n) :: entries) = some { s with timeoutSeconds := n }) ∧
      ∀ files process env home path o, Command.resolve files process env home path o = .ok s →
        Command.resolve files process env home path { o with timeoutSeconds := some n } =
          .ok { s with timeoutSeconds := n } ∧
        (o.timeoutSeconds = none → ∀ text, Text.Decimal n text →
          Command.resolve files process ((timeoutVariable, text) :: env) home path o =
            .ok { s with timeoutSeconds := n }) := by
  have limit : World.clockLimit = 2 ^ 63 := by decide
  refine ⟨?_, fun n small => ⟨fun passed => ?_, fun entries given => Settings.ofDocument_timeout given small,
    fun files process env home path o resolved => ?_⟩⟩
  · intro socketPath files steps i w dispatcher pool made
    have timed : pool.timeout = s.timeout := DispatchSession.run_timeout s socketPath files steps made
    have overflows := Pool.canWait_eq_false_iff (w := w) timed
    rw [limit] at overflows
    refine ⟨Pool.acquire_overflows_iff.trans overflows, fun ends fits => ?_, fun early short => ?_, fun long => ?_⟩
    · rw [timed, Settings.timeout, if_neg ends, Option.bind_some, World.deadline_ofSeconds, limit, if_pos fits]
    · rw [ne_eq, Pool.acquire_overflows_iff, overflows]
      omega
    · exact Pool.acquire_of_not_canWait (overflows.mpr ⟨by omega, by omega⟩)
  · rw [Settings.validate_eq_ok_iff] at passed ⊢
    exact passed.withTimeout n
  · obtain ⟨said, set⟩ := Command.resolve_timeouts (n := n) resolved
    exact ⟨said, set small⟩

/-- A wait of 2 to the 62 seconds that begins one second before that time. -/
theorem deadline_overflows_iff_longWait :
    let s : Settings := { Settings.standard with timeoutSeconds := 2 ^ 62 }
    let w : World := { World.fresh ⟨[]⟩ with now := .ofSeconds (2 ^ 62 - 1) }
    let dispatcher := ((DispatchSession.start (.create "/d.sock" s.dispatchSettings) ⟨[]⟩).run
      [.pool defaultPoolKey "a"]).dispatcher
    Command.resolve ⟨[]⟩ [] [] "/root" none ⟨none, none, some (2 ^ 62)⟩ = .ok s ∧ s.validate = .ok () ∧
      0 < dispatcher.pools.length ∧ ((dispatcher.pool 0).acquire w).1 ≠ .error .deadlineOverflow := by
  intro s w dispatcher
  obtain ⟨valid, -, resolves⟩ := (deadline_overflows_iff .standard).2 (2 ^ 62) (by decide)
  have made : 0 < dispatcher.pools.length := by decide +kernel
  have plain : Command.resolve ⟨[]⟩ [] [] "/root" none ⟨none, none, none⟩ = .ok .standard := by decide +kernel
  refine ⟨(resolves ⟨[]⟩ [] [] "/root" none ⟨none, none, none⟩ plain).1, valid (by decide), made, ?_⟩
  exact ((deadline_overflows_iff s).1 "/d.sock" ⟨[]⟩ [.pool defaultPoolKey "a"] 0 w made).2.2.1 (by decide) (by decide)

/-- With the longest timeout of 64 bits among the variables, no connection is lent when the system has been up for an
hour, and the program is stopped. -/
theorem longest_timeout_overflows :
    let env : Environment := [(timeoutVariable, "18446744073709551615")]
    let s : Settings := { Settings.standard with timeoutSeconds := 18446744073709551615 }
    let w := World.fresh ⟨[]⟩
    let dispatcher := ((DispatchSession.start (.create "/d.sock" s.dispatchSettings) ⟨[]⟩).run
      [.pool defaultPoolKey "a"]).dispatcher
    Command.resolve ⟨[]⟩ [] env "/root" none ⟨none, none, none⟩ = .ok s ∧ s.validate = .ok () ∧
      s.timeoutSeconds < 2 ^ 64 ∧ w.now.seconds < 2 ^ 62 ∧ w.deadline (.ofSeconds s.timeoutSeconds) = none ∧
      ((dispatcher.pool 0).acquire w).1 = .error .deadlineOverflow ∧
      Command.exitOf (Command.complete ["ping"] ⟨env, env, "/root", [], ⟨[], false⟩⟩ w) =
        ⟨Command.stoppedCode, "", none⟩ := by
  decide +kernel

end EngineClient
