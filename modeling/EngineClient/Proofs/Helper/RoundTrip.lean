import EngineClient.Command.Run
import EngineClient.Proofs.Helper.Records
import EngineClient.Proofs.Sink
import Mathlib.Data.List.TakeWhile
import Mathlib.Tactic.SplitIfs
/-!
# Storing and getting credentials

What a helper was last given to store for a server is what the last store for that server wrote, whatever else
was asked since (`put_lastStored`, `performAll_lastStored`). So a helper that prints this has the stored record got,
or none if the record is empty (`get_of_payload`), and a secret from the command line is stored without the run of
line ends at its end (`Command.secretOf_spec`).
-/

namespace EngineClient

/-! ## What programs are given -/

/-- The payload that a start gave the program of that number to store for a server, if the program read it. -/
def Started.storedFor (program : Nat) (server : String) (start : Started) : Option Bytes :=
  if start.program = program ∧ start.arguments = ["store"] then
    start.input.filter fun payload =>
      match Credentials.read payload with
      | .ok record => record.serverUrl == server
      | .error _ => false
  else none

/-- The payload that the program of that number was last given to store for a server. -/
def World.lastStored (w : World) (program : Nat) (server : String) : Option Bytes :=
  (w.started.filterMap (Started.storedFor program server)).getLast?

/-- A program was started with one operation as its argument, and given this input, or none was started. -/
inductive Given (operation : String) (input : Option Bytes) (w : World) : World → Prop
  | nothing {after : World} (same : after.started = w.started) : Given operation input w after
  | start {after : World} (start : Started) (noted : after.started = w.started ++ [start])
      (arguments : start.arguments = [operation]) (read : ∀ bytes ∈ start.input, bytes = input.getD []) :
      Given operation input w after

/-- What is known of a start that was noted. -/
theorem Given.started {operation : String} {input : Option Bytes} {w after : World} {start : Started}
    (given : Given operation input w after) (noted : after.started = w.started ++ [start]) :
    start.arguments = [operation] ∧ ∀ bytes ∈ start.input, bytes = input.getD [] := by
  cases given with
  | nothing same => simp [noted] at same
  | start first told arguments read =>
    obtain rfl : first = start := by simpa [noted] using told.symm
    exact ⟨arguments, read⟩

namespace World
variable {w after : World} {operation : String} {input : Option Bytes} {start : Started} {program : Nat}
  {server : String}

/-- Starting a program is the only thing that tells it anything. -/
theorem start_given {path : String} {env : Environment} {hasDeadline : Bool} {launch : Launch}
    (started : w.start path [operation] env input hasDeadline = (launch, after)) :
    Given operation input w after := by
  rw [World.start] at started
  split_ifs at started
  · cases started
    exact .nothing rfl
  · split at started
    · cases started
      exact .nothing rfl
    · split at started
      · split at started
        · cases started
          exact .nothing rfl
        · split_ifs at started <;>
          · cases started
            refine .start _ rfl rfl ?_
            simp [startedWith]
      all_goals
        cases started
        exact .nothing rfl

private theorem lastStored_concat (noted : after.started = w.started ++ [start]) :
    after.lastStored program server = (start.storedFor program server).or (w.lastStored program server) := by
  rw [lastStored, noted, List.filterMap_append, lastStored]
  cases found : start.storedFor program server with
  | none => rw [List.filterMap_cons_none found, List.filterMap_nil, List.append_nil, Option.none_or]
  | some payload =>
    rw [List.filterMap_cons_some found, List.filterMap_nil, List.getLast?_concat, Option.some_or]

/-- What was last stored for a server stays unless a payload for that server is given. -/
theorem lastStored_of_given (given : Given operation input w after)
    (other : operation ≠ "store" ∨
      ∃ record, Credentials.read (input.getD []) = .ok record ∧ record.serverUrl ≠ server) :
    after.lastStored program server = w.lastStored program server := by
  cases given with
  | nothing same => rw [lastStored, same, lastStored]
  | start start noted arguments read =>
    have unstored : start.storedFor program server = none := by
      rw [Started.storedFor, arguments]
      rcases other with named | ⟨record, found, differs⟩
      · rw [if_neg (by simpa using fun _ => named)]
      · cases input : start.input with
        | none => simp
        | some bytes =>
          rw [read bytes input]
          simp [found, differs]
    rw [lastStored_concat noted, unstored, Option.none_or]

/-- A program that reads the payload of a record was last given this payload for the server of the record. -/
theorem lastStored_of_store {payload : Bytes} {record : Credentials} (given : Given "store" (some payload) w after)
    (noted : after.started = w.started ++ [start]) (reads : start.input ≠ none)
    (written : Credentials.read payload = .ok record) :
    start.input = some payload ∧ after.lastStored start.program record.serverUrl = some payload := by
  obtain ⟨arguments, read⟩ := given.started noted
  obtain ⟨bytes, input⟩ := Option.ne_none_iff_exists'.mp reads
  obtain rfl : bytes = payload := read bytes input
  refine ⟨input, ?_⟩
  rw [lastStored_concat noted, Started.storedFor, if_pos ⟨rfl, arguments⟩, input]
  simp [written]

end World

/-! ## Writing the input -/

/-- A pipe that takes a byte of every call until it breaks, if it does. -/
def Sink.Breaks (pipe : Sink) : Prop := pipe.FailsOnly fun cause => cause.isBrokenPipe = true

theorem Behaviour.inlet_breaks (behaviour : Behaviour) : behaviour.inlet.Breaks where
  hungry _ := by simp [inlet, Sink.fresh, pipeRoom]
  steady place trouble known := by
    right
    simp only [inlet, Sink.fresh, Option.ite_none_left_eq_some, Option.some.injEq, Prod.mk.injEq] at known
    exact ⟨.brokenPipe, known.2.2.symm, rfl⟩

namespace HelperStore
variable {store : HelperStore} {server : String} {output : Bytes} {w : World} {start : Started}

/-- A pipe that breaks, wherever it does, is as good as one that takes everything. -/
theorem feed_of_breaks {pipe : Sink} (breaks : pipe.Breaks) (input : Option Bytes) :
    feed (some pipe) input = .ok () := by
  have ends (cause : Failure) (broken : cause.isBrokenPipe = true) : cause.isInterrupted = false := by
    unfold Failure.isBrokenPipe at broken
    split at broken
    · rfl
    · rfl
    · cases broken
  cases input with
  | none => rfl
  | some data =>
    rcases Sink.writeAll_failsOnly ends breaks data with ⟨after, written, -⟩ | ⟨cause, after, broken, written⟩
    · simp [feed, written]
    · simp [feed, written, broken]

theorem feed_inlet (w : World) (path : String) (input : Option Bytes) : feed (w.inlet path) input = .ok () := by
  unfold World.inlet
  cases w.awaiting path with
  | none => rfl
  | some behaviour => exact feed_of_breaks behaviour.inlet_breaks input

theorem conclude_ok (store : HelperStore) (launch : Launch) : store.conclude (.ok ()) launch = store.judge launch := by
  cases launch <;> rfl

/-- Running a helper that was found is starting it and judging what comes of it. -/
theorem execute_of_found {path : String} (found : store.executable = some path) (operation : String)
    (input : Option Bytes) (w : World) :
    store.execute operation input w =
      (store.judge (w.start path [operation] store.environment input store.timeout.isSome).1,
        (w.start path [operation] store.environment input store.timeout.isSome).2) := by
  simp only [execute, found, feed_inlet, conclude_ok]

theorem execute_given (store : HelperStore) (operation : String) (input : Option Bytes) (w : World) :
    Given operation input w (store.execute operation input w).2 := by
  rw [execute]
  cases store.executable with
  | none => exact .nothing rfl
  | some path => exact World.start_given rfl

/-- Running the helper for an operation starts a program, which comes to a good end and prints `output`. -/
def Serves (store : HelperStore) (operation : String) (input : Bytes) (w : World) (start : Started)
    (output : Bytes) : Prop :=
  ∃ path errors after, store.executable = some path ∧
    w.start path [operation] store.environment (some input) store.timeout.isSome =
      (.ended ⟨output, errors, .exited 0⟩, after) ∧
    after.started = w.started ++ [start]

theorem Serves.execute {operation : String} {input : Bytes} (serves : store.Serves operation input w start output) :
    ∃ after, store.execute operation (some input) w = (.ok output, after) ∧ after.started = w.started ++ [start] := by
  obtain ⟨path, errors, after, found, started, noted⟩ := serves
  refine ⟨after, ?_, noted⟩
  rw [execute_of_found found, started]
  rfl

/-! ## Requests -/

/-- What a helper is asked. -/
inductive Request where
  | put (server username secret : String)
  | get (server : String)
  | erase (server : String)
  | list
deriving Repr, DecidableEq

/-- Whether a request stores credentials for a server. -/
def Request.Stores (server : String) : Request → Prop
  | .put target _ _ => target = server
  | _ => False

/-- The operation that a request runs the helper for. -/
def Request.operation : Request → String
  | .put _ _ _ => "store"
  | .get _ => "get"
  | .erase _ => "erase"
  | .list => "list"

/-- What a request gives the helper. -/
def Request.input : Request → Option Bytes
  | .put server username secret => some (payload server username secret)
  | .get server => some (Text.encode server)
  | .erase server => some (Text.encode server)
  | .list => none

/-- The world after a request. -/
def perform (store : HelperStore) (w : World) : Request → World
  | .put server username secret => (store.put server username secret w).2
  | .get server => (store.get server w).2
  | .erase server => (store.erase server w).2
  | .list => (store.list w).2

/-- The world after requests, each to a store of its own. -/
def performAll (w : World) (requests : List (HelperStore × Request)) : World :=
  requests.foldl (fun w request => request.1.perform w request.2) w

/-- Every operation passes on the world that the helper leaves, whatever comes of it. -/
theorem perform_eq (store : HelperStore) (w : World) (request : Request) :
    store.perform w request = (store.execute request.operation request.input w).2 := by
  cases ended : store.execute request.operation request.input w with
  | mk outcome after =>
    cases request <;> cases outcome <;> rw [Request.operation, Request.input] at ended <;>
      simp only [perform, put, get, erase, list, ended]

/-- A request changes the world by running the helper, and by nothing else. -/
theorem perform_given (store : HelperStore) (w : World) (request : Request) :
    Given request.operation request.input w (store.perform w request) := by
  rw [perform_eq]
  exact store.execute_given request.operation request.input w

theorem perform_of_found {path : String} (found : store.executable = some path) (w : World) (request : Request) :
    store.perform w request =
      (w.start path [request.operation] store.environment request.input store.timeout.isSome).2 := by
  rw [perform_eq, execute_of_found found]

/-- One request keeps what was last stored for a server that it does not store for. -/
theorem perform_lastStored (store : HelperStore) (w : World) (program : Nat) {request : Request}
    (other : ¬request.Stores server) :
    (store.perform w request).lastStored program server = w.lastStored program server := by
  refine World.lastStored_of_given (store.perform_given w request) ?_
  cases request with
  | put target username secret => exact .inr ⟨_, read_payload .., other⟩
  | get target => exact .inl (show "get" ≠ "store" by decide)
  | erase target => exact .inl (show "erase" ≠ "store" by decide)
  | list => exact .inl (show "list" ≠ "store" by decide)

/-- Any number of requests keep what was last stored for a server that none of them stores for. -/
theorem performAll_lastStored (w : World) (program : Nat) {requests : List (HelperStore × Request)}
    (others : ∀ request ∈ requests, ¬request.2.Stores server) :
    (performAll w requests).lastStored program server = w.lastStored program server := by
  induction requests generalizing w with
  | nil => rfl
  | cons request rest ih =>
    rw [performAll, List.foldl_cons]
    refine (ih _ fun later member => others later (List.mem_cons_of_mem _ member)).trans ?_
    exact request.1.perform_lastStored w program (others request List.mem_cons_self)

/-! ## What is got -/

/-- What a program reads that is started to store is the payload. -/
theorem put_input {username secret : String} {bytes : Bytes}
    (noted : (store.put server username secret w).2.started = w.started ++ [start]) (read : bytes ∈ start.input) :
    bytes = payload server username secret :=
  ((store.perform_given w (.put server username secret)).started noted).2 bytes read

/-- A store that is served succeeds, and its payload is what the program was last given for the server. -/
theorem put_lastStored {username secret : String}
    (serves : store.Serves "store" (payload server username secret) w start output) (reads : start.input ≠ none) :
    (store.put server username secret w).1 = .ok () ∧ start.input = some (payload server username secret) ∧
      (store.put server username secret w).2.lastStored start.program server =
        some (payload server username secret) := by
  obtain ⟨after, executed, noted⟩ := serves.execute
  have same : store.put server username secret w = (.ok (), after) := by rw [put, executed]
  have given := store.perform_given w (.put server username secret)
  rw [perform, same] at given
  rw [same]
  exact ⟨rfl, World.lastStored_of_store given noted reads (read_payload ..)⟩

/-- A helper that prints the payload of a record has the record got, or none if it is empty. -/
theorem get_of_payload {target username secret : String}
    (serves : store.Serves "get" (Text.encode server) w start (payload target username secret)) :
    (store.get server w).1 =
      if username = "" ∧ secret = "" then .error (.notFound store.program) else .ok ⟨target, username, secret⟩ := by
  obtain ⟨after, executed, _⟩ := serves.execute
  rw [get, executed]
  simp [readRecord, read_payload, Credentials.isEmpty]

/-- No record is got that has neither a name nor a secret. -/
theorem get_filled {record : Credentials} (got : (store.get server w).1 = .ok record) :
    ¬(record.username = "" ∧ record.secret = "") := by
  rw [get] at got
  split at got
  · cases got
  · rw [readRecord] at got
    split at got
    · cases got
    · split_ifs at got with empty
      cases got
      simpa [Credentials.isEmpty] using empty

end HelperStore

/-! ## The secret of a command line -/

namespace Command

/-- The secret is the input without the run of line ends at its end. -/
theorem secretOf_spec (text : String) :
    ∃ ends, text.toList = (secretOf text).toList ++ ends ∧ (∀ c ∈ ends, c = '\r' ∨ c = '\n') ∧
      ∀ c ∈ (secretOf text).toList.getLast?, c ≠ '\r' ∧ c ≠ '\n' := by
  refine ⟨(text.toList.reverse.takeWhile fun c => c == '\r' || c == '\n').reverse, ?_, ?_, ?_⟩
  · rw [secretOf, String.toList_ofList, ← List.reverse_append, List.takeWhile_append_dropWhile, List.reverse_reverse]
  · intro c member
    simpa using List.mem_takeWhile_imp (List.mem_reverse.mp member)
  · intro c last
    rw [secretOf, String.toList_ofList, List.getLast?_reverse] at last
    have stays := List.head?_dropWhile_not (fun c => c == '\r' || c == '\n') text.toList.reverse
    rw [Option.mem_def.mp last] at stays
    simpa using stays

/-- Storing from the command line stores the secret of an input that is text. -/
theorem complete_store {words : List String} {s : Surroundings} {w : World} {text : String} {a : Arguments}
    {settings : Settings} {helper : Option String} {server username : String} (input : s.stdin = Text.encode text)
    (parsed : Arguments.parse words = .ok a) (command : a.command = .store helper server username)
    (resolved : resolve w.files s.process s.env s.home a.config a.overrides = .ok settings) :
    complete words s w = .ran (withHelper helper settings s w fun store w =>
      told (fun () => .ofMembers [("stored", .text server)]) (store.put server username (secretOf text) w)) := by
  have stored : storeSecret server username s.stdin = fun store w =>
      told (fun () => .ofMembers [("stored", .text server)]) (store.put server username (secretOf text) w) := by
    funext store w
    rw [storeSecret, input, Text.decode_encode]
  simp only [complete, parsed, resolved, command, run, stored]

end Command

/-- What is stored is what is got. A payload is read as the record it was written for, whatever characters are in
its fields. So when a helper reads the payload and prints on `get` what it was last given for the server, the same
record is got, however many requests for other servers or of other kinds came in between, unless the record is
empty: no empty record is ever got. From the command line, the secret is the text of the input without the run of
line ends at its end. -/
theorem store_get_round_trip :
    (∀ server username secret : String,
      Credentials.read (HelperStore.payload server username secret) = .ok ⟨server, username, secret⟩) ∧
    (∀ (store : HelperStore) (server username secret : String) (w : World) (start : Started),
      (store.put server username secret w).2.started = w.started ++ [start] →
      ∀ bytes ∈ start.input, bytes = HelperStore.payload server username secret) ∧
    (∀ (store reader : HelperStore) (server username secret : String) (w : World) (given asked : Started)
        (said shown : Bytes) (requests : List (HelperStore × HelperStore.Request)),
      store.Serves "store" (HelperStore.payload server username secret) w given said → given.input ≠ none →
      (∀ request ∈ requests, ¬request.2.Stores server) →
      reader.Serves "get" (Text.encode server)
        (HelperStore.performAll (store.put server username secret w).2 requests) asked shown →
      asked.program = given.program →
      (HelperStore.performAll (store.put server username secret w).2 requests).lastStored asked.program server =
        some shown →
      given.input = some (HelperStore.payload server username secret) ∧
      (store.put server username secret w).1 = .ok () ∧
      (reader.get server (HelperStore.performAll (store.put server username secret w).2 requests)).1 =
        if username = "" ∧ secret = "" then .error (.notFound reader.program)
        else .ok ⟨server, username, secret⟩) ∧
    (∀ (store : HelperStore) (server : String) (w : World) (record : Credentials),
      (store.get server w).1 = .ok record → ¬(record.username = "" ∧ record.secret = "")) ∧
    ∀ (words : List String) (s : Command.Surroundings) (w : World) (text : String) (a : Command.Arguments)
        (settings : Settings) (helper : Option String) (server username : String),
      s.stdin = Text.encode text → Command.Arguments.parse words = .ok a →
      a.command = .store helper server username →
      Command.resolve w.files s.process s.env s.home a.config a.overrides = .ok settings →
      ∃ secret ends, text.toList = secret.toList ++ ends ∧ (∀ c ∈ ends, c = '\r' ∨ c = '\n') ∧
        (∀ c ∈ secret.toList.getLast?, c ≠ '\r' ∧ c ≠ '\n') ∧
        Command.complete words s w = .ran (Command.withHelper helper settings s w fun store w =>
          Command.told (fun () => .ofMembers [("stored", .text server)]) (store.put server username secret w)) := by
  refine ⟨HelperStore.read_payload, fun _ _ _ _ _ _ noted _ read => HelperStore.put_input noted read, ?_,
    fun _ _ _ _ got => HelperStore.get_filled got, ?_⟩
  · intro store reader server username secret w given asked said shown requests put reads others get same last
    obtain ⟨succeeds, input, stored⟩ := HelperStore.put_lastStored put reads
    have kept := HelperStore.performAll_lastStored (store.put server username secret w).2 given.program others
    obtain rfl : shown = HelperStore.payload server username secret := by
      rw [same, kept, stored] at last
      exact (Option.some.inj last).symm
    exact ⟨input, succeeds, HelperStore.get_of_payload get⟩
  · intro words s w text a settings helper server username input parsed command resolved
    obtain ⟨ends, whole, lineEnds, stays⟩ := Command.secretOf_spec text
    exact ⟨_, ends, whole, lineEnds, stays, Command.complete_store input parsed command resolved⟩

/-- A helper that reads what it is given, and prints something the third time it is started. -/
def keeper (third : Bytes) : Program :=
  let silent : Behaviour := ⟨[], [], .exited 0, true, false, none, false⟩
  ⟨0, [], [silent, silent, { silent with stdout := third }]⟩

theorem store_get_round_trip_quoted :
    let store : HelperStore := ⟨"docker-credential-keep", some "/bin/docker-credential-keep", [], none⟩
    let payload := HelperStore.payload "r" "a\"\x00" "\\é"
    let w := World.fresh ⟨[(.outside ["bin", "docker-credential-keep"], .program (keeper payload) true)]⟩
    let later := HelperStore.performAll (store.put "r" "a\"\x00" "\\é" w).2 [(store, .put "q" "b" "c")]
    let bare := World.fresh ⟨[]⟩
    let s : Command.Surroundings := ⟨[], [], "/root", Text.encode "é\r\n\n", ⟨[], false⟩⟩
    (store.get "r" later).1 = .ok ⟨"r", "a\"\x00", "\\é"⟩ ∧ ¬("a\"\x00" = "" ∧ "\\é" = "") ∧
    ∃ secret ends, "é\r\n\n".toList = secret.toList ++ ends ∧ (∀ c ∈ ends, c = '\r' ∨ c = '\n') ∧
      (∀ c ∈ secret.toList.getLast?, c ≠ '\r' ∧ c ≠ '\n') ∧
      Command.complete ["credentials", "store", "--helper", "keep", "-u", "a", "r"] s bare =
        .ran (Command.withHelper (some "keep") .standard s bare fun store w =>
          Command.told (fun () => .ofMembers [("stored", .text "r")]) (store.put "r" "a" secret w)) := by
  intro store payload w later bare s
  have serves : store.Serves "store" payload w ⟨0, ["store"], some payload, none⟩ [] :=
    ⟨_, _, _, rfl, rfl, rfl⟩
  have run : later = store.perform (store.perform w (.put "r" "a\"\x00" "\\é")) (.put "q" "b" "c") := rfl
  have asked : store.Serves "get" (Text.encode "r") later ⟨0, ["get"], some (Text.encode "r"), none⟩ payload := by
    have found : store.executable = some "/bin/docker-credential-keep" := rfl
    rw [run, HelperStore.perform_of_found found, HelperStore.perform_of_found found]
    exact ⟨_, _, _, rfl, rfl, rfl⟩
  have others : ∀ request ∈ [(store, HelperStore.Request.put "q" "b" "c")], ¬request.2.Stores "r" := by
    simp [HelperStore.Request.Stores]
  have last : later.lastStored 0 "r" = some payload :=
    (HelperStore.performAll_lastStored _ 0 others).trans (HelperStore.put_lastStored serves (by simp)).2.2
  obtain ⟨_, _, got, filled, told⟩ := store_get_round_trip
  have record := (got store store _ _ _ w _ _ _ _ _ serves (by simp) others asked rfl last).2.2
  rw [if_neg (by simp)] at record
  have parsed : Command.Arguments.parse ["credentials", "store", "--helper", "keep", "-u", "a", "r"] =
      .ok ⟨.store (some "keep") "r" "a", none, false, none, none, none, none⟩ := by decide +kernel
  have resolved : Command.resolve ⟨[]⟩ [] [] "/root" none ⟨none, none, none⟩ = .ok .standard := by decide +kernel
  exact ⟨record, filled store "r" later _ record, told _ s bare "é\r\n\n" _ _ _ _ _ rfl parsed rfl resolved⟩

end EngineClient
