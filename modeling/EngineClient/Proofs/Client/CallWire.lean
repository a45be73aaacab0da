import EngineClient.Client.ClientSession
import EngineClient.Proofs.Http.RequestWire
import EngineClient.Proofs.Pooling.OwnReply
import EngineClient.Proofs.Pooling.Retirement
/-!
# What a client sends

A URI below the local address is split where the address ends, whatever the path is (`Http.Uri.parse_local`), so that a
call sends one request whose line is known up to the path (`Client.requestBytes_uriOf`). A step of a session is such a
request, or sends nothing (`ClientSession.step_acts`); what every step keeps (`ClientSession.Local`) leaves one pool
open at most, the one for the local address.
-/

namespace EngineClient

namespace Http.Uri

/-! ## URIs below the local address -/

theorem pathOf_eq {chars : List Char} {path : String} (found : pathOf ('/' :: chars) = .ok path) :
    path = String.ofList ('/' :: beforeFragment chars) := by
  rw [pathOf_orRoot found]
  simp [beforeFragment, orRoot]

theorem parse_below {text : String} {rest : List Char}
    (below : text.toList = "http+docker://localhost/".toList ++ rest) :
    parse text =
      if maxLength < text.utf8ByteSize then .error .tooLong
      else
        match pathOf ('/' :: rest) with
        | .ok path => .ok ⟨some "http+docker", some (String.ofList "localhost".toList), some path⟩
        | .error fault => .error fault := by
  rw [parse, below]
  rfl

/-- A URI below the local address is split there, whatever follows: neither the scheme nor the host nor what the path
starts with can be other ones. -/
theorem parse_local {text : String} {rest : List Char} (below : text.toList = "http+docker://localhost/".toList ++ rest)
    {uri : Uri} (parsed : parse text = .ok uri) :
    uri = ⟨some "http+docker", some "localhost", some (String.ofList ('/' :: beforeFragment rest))⟩ := by
  rw [parse_below below] at parsed
  split_ifs at parsed
  cases read : pathOf ('/' :: rest) with
  | error fault => simp [read] at parsed
  | ok path =>
    simp only [read, Except.ok.injEq, String.ofList_toList] at parsed
    rw [← parsed, pathOf_eq read]

end Http.Uri

/-! ## The request of a call -/

namespace Client

/-- The target of a versioned request: the version in decimal, and the path before a fragment. -/
def targetOf (version : ApiVersion) (path : String) : String :=
  "/v" ++ toString version.major ++ "." ++ toString version.minor ++
    String.ofList (Http.Uri.beforeFragment path.toList)

/-- The bytes of a versioned request. -/
def wireOf (version : ApiVersion) (path : String) : Bytes :=
  Text.encode ("GET " ++ targetOf version path ++ " HTTP/1.1\r\nHost: localhost\r\n\r\n")

/-- The line, the one field and the body that a versioned request says. -/
def dissectionOf (version : ApiVersion) (path : String) : Http.Dissection where
  words := [Text.encode "GET", Text.encode (targetOf version path), Text.encode "HTTP/1.1"]
  fields := [(Text.encode "Host", Text.encode "localhost")]
  body := []

variable {client : Client} {path : String} {request : Http.Request}

private theorem no_fragment_digits (n : Nat) : '#' ∉ (toString n).toList := by
  intro member
  exact absurd ((Text.decimal_toString n).figures '#' member) (by decide)

/-- A request is built from no path but as one that gets the path below the version from the local address. -/
theorem build_uriOf (built : Http.Request.build "GET" (client.uriOf path) [] [] = .ok request) :
    request = ⟨.get, ⟨some "http+docker", some "localhost", some (targetOf client.settings.version path)⟩, .empty, []⟩ := by
  obtain ⟨method, -, parsed, headers, body⟩ := Http.Request.build_eq_ok built
  let versioned := 'v' :: ((toString client.settings.version.major).toList ++
    '.' :: (toString client.settings.version.minor).toList)
  have below : (client.uriOf path).toList = "http+docker://localhost/".toList ++ (versioned ++ path.toList) := by
    simp [uriOf, defaultPoolKey, ApiVersion.pathPrefix, ApiVersion.text, versioned]
  have free : '#' ∉ versioned := by
    simp only [versioned, List.mem_cons, List.mem_append, not_or]
    exact ⟨by decide, no_fragment_digits _, by decide, no_fragment_digits _⟩
  have target : String.ofList ('/' :: (versioned ++ Http.Uri.beforeFragment path.toList)) =
      targetOf client.settings.version path := by
    apply String.toList_injective
    simp [targetOf, versioned]
  have uri := Http.Uri.parse_local below parsed
  rw [Http.Uri.beforeFragment_of_free free, target] at uri
  have none : Http.Headers.empty = request.headers := Except.ok.inj headers
  obtain ⟨method', uri', headers', body'⟩ := request
  simp only at method uri none body
  rw [method, uri, ← none, body]
  rfl

/-- The request that is built for a path. -/
theorem requestBytes_uriOf (built : Http.Request.build "GET" (client.uriOf path) [] [] = .ok request) :
    Http.requestBytes request request.target = wireOf client.settings.version path ∧
      Dispatcher.poolKey request.uri = defaultPoolKey := by
  obtain rfl := build_uriOf built
  refine ⟨?_, show "http+docker" ++ "://" ++ "localhost" = defaultPoolKey by decide⟩
  have host : Http.Uri.hostOf "localhost" = "localhost" := by decide
  have line : "GET " ++ targetOf client.settings.version path ++ " HTTP/1.1\r\nHost: localhost\r\n\r\n" =
      "GET" ++ " " ++ targetOf client.settings.version path ++ " HTTP/1.1\r\n" ++ ("Host: " ++ "localhost" ++ "\r\n") ++
        "\r\n" := by
    apply String.toList_injective
    simp
  simp [Http.requestBytes, Http.requestHead, Http.Request.target, Http.hostLine, Http.lengthLine, Http.Uri.host, host,
    wireOf, line, Text.encode_append, Http.Headers.empty, Http.Headers.contains, Http.Headers.values,
    Http.Headers.lines, Http.Method.get, Http.Method.sendsBody]

theorem dissect_wireOf (built : Http.Request.build "GET" (client.uriOf path) [] [] = .ok request) :
    Http.dissect (wireOf client.settings.version path) = some (dissectionOf client.settings.version path) := by
  have dissected := Http.dissect_requestBytes built
  rw [(requestBytes_uriOf built).1] at dissected
  obtain rfl := build_uriOf built
  rw [dissected]
  rfl

end Client

/-! ## What changes no connection -/

theorem World.channels_start (w : World) (path : String) (arguments : List String) (env : Environment)
    (input : Option Bytes) (hasDeadline : Bool) :
    (w.start path arguments env input hasDeadline).2.channels = w.channels := by
  unfold World.start
  split_ifs
  · rfl
  · split
    · rfl
    · split
      · split
        · rfl
        · split_ifs <;> rfl
      all_goals rfl

theorem HelperStore.channels_execute (store : HelperStore) (operation : String) (input : Option Bytes) (w : World) :
    (store.execute operation input w).2.channels = w.channels := by
  unfold HelperStore.execute
  cases store.executable with
  | none => rfl
  | some path => exact w.channels_start ..

theorem Client.channels_registryCredentials (client : Client) (registry : String) (file : RegistryFile)
    (process : Environment) (w : World) :
    (client.registryCredentials registry file process w).2.channels = w.channels := by
  unfold Client.registryCredentials
  cases client.helperFor registry file with
  | none => rfl
  | some helper =>
    let store := HelperStore.create helper process client.helperEnvironment w.files
    have ran : (store.get registry w).2.channels = w.channels := by
      have executed := store.channels_execute "get" (some (Text.encode registry)) w
      unfold HelperStore.get
      split
      · rename_i ended
        rwa [ended] at executed
      · rename_i ended
        rwa [ended] at executed
    simp only
    split
    · rename_i ended
      rwa [ended] at ran
    · rename_i ended
      split_ifs <;> rwa [ended] at ran

/-! ## The one pool -/

namespace Dispatcher

/-- All pools ever made, and all addresses kept, are those for one address. -/
structure Shelf.Only (url : String) (shelf : Shelf) : Prop where
  cache : ∀ entry ∈ shelf.cache, entry.1 = url
  pools : ∀ pool ∈ shelf.pools, pool.baseUrl = url

theorem Finds.only {d d' : Dispatcher} {url : String} {w w' : World} {i : Nat} (finds : d.Finds url w i d' w')
    (only : d.shelf.Only url) : d'.shelf.Only url := by
  cases finds with
  | kept cached =>
    refine ⟨?_, only.pools⟩
    intro entry kept
    rcases List.mem_cons.mp kept with rfl | old
    · rfl
    · exact only.cache entry (List.mem_filter.mp old).1
  | made absent room =>
    refine ⟨?_, ?_⟩
    · exact List.forall_mem_cons.mpr ⟨rfl, only.cache⟩
    · have pools : (d.extended url d.cache).shelf.pools = d.shelf.pools ++ [(d.poolFor url).asMade] := by
        simp [shelf, extended]
      rw [pools]
      exact List.forall_mem_append.mpr ⟨only.pools, by simp [poolFor, Pool.create, Pool.asMade]⟩
  | @replaced rest oldest absent full last =>
    -- What is kept is kept for this address, which would have been found.
    have listed : oldest ∈ d.cache := last ▸ List.mem_append_right rest List.mem_cons_self
    have same := only.cache oldest listed
    have differs := List.lookup_eq_none_iff.mp absent oldest listed
    simp [same] at differs

/-- With one address, a pool that is open is the one that is kept. -/
theorem Shelf.Only.cache_eq {d : Dispatcher} {url : String} (only : d.shelf.Only url) (tidy : d.Tidy) {i : Nat}
    (kept : i ∈ d.cache.map (·.2)) : d.cache = [(url, i)] := by
  have urls : d.cache.map (·.1) = List.replicate d.cache.length url := by
    rw [List.eq_replicate_iff]
    refine ⟨List.length_map .., ?_⟩
    intro other listed
    obtain ⟨entry, member, rfl⟩ := List.mem_map.mp listed
    exact only.cache entry member
  have alone : d.cache.length ≤ 1 := List.nodup_replicate.mp (urls ▸ tidy.urls)
  obtain ⟨entry, member, rfl⟩ := List.mem_map.mp kept
  obtain ⟨first, whole⟩ := List.length_eq_one_iff.mp
    (Nat.le_antisymm alone (List.length_pos_of_mem member))
  rw [whole, List.mem_singleton] at member
  subst member
  rw [whole, ← only.cache entry (by rw [shelf, whole]; exact List.mem_cons_self)]

end Dispatcher

/-! ## What a step does -/

namespace ClientSession

/-- The dispatcher of a client with the connections around it. -/
def dispatching (s : ClientSession) : DispatchSession := ⟨s.client.dispatcher, [], [], s.world⟩

/-- What a step comes to, with the bytes that the daemon received in it: a request that was built for the path it asks
for is sent; or the client is closed; or the daemon does something to a connection; or nothing changes but the world
apart from the connections. -/
inductive Acts (s : ClientSession) (step : ClientStep) : Option (Nat × Bytes) → ClientSession → Prop
  | sent {path : String} {request : Http.Request} {reply : Reply} (asked : step.path = some path)
      (built : Http.Request.build "GET" (s.client.uriOf path) [] [] = .ok request) :
      Acts s step (s.client.dispatcher.send request reply s.world).1.received
        ⟨{ s.client with dispatcher := (s.client.dispatcher.send request reply s.world).2.1 },
          (s.client.dispatcher.send request reply s.world).2.2⟩
  | closed :
      Acts s step none
        ⟨{ s.client with dispatcher := (s.client.dispatcher.close s.world).1 }, (s.client.dispatcher.close s.world).2⟩
  | peer {theirs : DispatchStep}
      (kind : (∃ channel, theirs = .peerClose channel) ∨ ∃ channel data, theirs = .peerSend channel data) :
      Acts s step none ⟨s.client, (s.dispatching.step theirs).2.world⟩
  | quiet {world : World} (channels : world.channels = s.world.channels) : Acts s step none ⟨s.client, world⟩

theorem get_acts {s : ClientSession} {step : ClientStep} {path : String} (asked : step.path = some path) (reply : Reply) :
    s.Acts step (ofCall (s.client.get path reply s.world)).1 (ofCall (s.client.get path reply s.world)).2 := by
  unfold ofCall Client.get
  cases built : Http.Request.build "GET" (s.client.uriOf path) [] [] with
  | error fault => exact .quiet rfl
  | ok request => exact .sent asked built

theorem ofCall_getJson (client : Client) (shape : Json.Shape) (path : String) (reply : Reply) (w : World) :
    ofCall (client.getJson shape path reply w) = ofCall (client.get path reply w) := by
  unfold Client.getJson
  rcases client.get path reply w with ⟨call, client', w'⟩
  rfl

theorem ofCall_ping (client : Client) (reply : Reply) (w : World) :
    ofCall (client.ping reply w) = ofCall (client.get "/_ping" reply w) := by
  unfold Client.ping
  rcases client.get "/_ping" reply w with ⟨call, client', w'⟩
  rfl

theorem step_acts (s : ClientSession) (step : ClientStep) : s.Acts step (s.step step).1 (s.step step).2 := by
  unfold ClientSession.step
  cases step with
  | ping reply =>
    simp only [ofCall_ping]
    exact get_acts rfl reply
  | version reply =>
    simp only [Client.version, ofCall_getJson]
    exact get_acts rfl reply
  | info reply =>
    simp only [Client.info, ofCall_getJson]
    exact get_acts rfl reply
  | containers all reply =>
    simp only [Client.containers, ofCall_getJson]
    exact get_acts rfl reply
  | getJson shape path reply =>
    simp only [ofCall_getJson]
    exact get_acts rfl reply
  | diskUsage reply =>
    simp only [Client.diskUsage]
    cases s.client.settings.version.require Client.diskUsageVersion "df" with
    | error error => exact .quiet rfl
    | ok =>
      simp only [ofCall_getJson]
      exact get_acts rfl reply
  | registryCredentials registry file process => exact .quiet (s.client.channels_registryCredentials ..)
  | close => exact .closed
  | peerClose channel => exact .peer (.inl ⟨channel, rfl⟩)
  | peerSend channel data =>
    have acts : s.Acts (.peerSend channel data) none ⟨s.client, (s.dispatching.step (.peerSend channel data)).2.world⟩ :=
      .peer (.inr ⟨channel, data, rfl⟩)
    simp only [DispatchSession.step, dispatching] at acts
    simp only
    cases wrote : (s.world.channel channel).peerWrite data with
    | error cause => simpa only [wrote] using acts
    | ok after => simpa only [wrote] using acts
  | files files => exact .quiet rfl

/-- What all steps of a session keep: the settings, the pools for the local address and no others, of which only the one
that is kept is open, and no byte that waits for the daemon. -/
structure Local (settings : Settings) (s : ClientSession) : Prop where
  settings : s.client.settings = settings
  tidy : s.dispatching.Tidy
  only : s.client.dispatcher.shelf.Only defaultPoolKey
  goneClosed : s.dispatching.GoneClosed
  unsent : ∀ i, (s.world.connection i).Unsent

theorem dispatching_tidy {d : Dispatcher} (tidy : d.Tidy) (w : World) : DispatchSession.Tidy ⟨d, [], [], w⟩ where
  dispatcher := tidy
  names := by simp
  guards := List.nodup_nil
  lenders := by simp

theorem Acts.local {settings : Settings} {s s' : ClientSession} {step : ClientStep} {received : Option (Nat × Bytes)}
    (acts : s.Acts step received s') (before : s.Local settings) : s'.Local settings := by
  obtain ⟨same, tidy, only, goneClosed, unsent⟩ := before
  cases acts with
  | @sent path request reply asked built =>
    have key := (Client.requestBytes_uriOf built).2
    have shelf := s.dispatching.step_shelf (.send request reply)
    have found := (Dispatcher.lookup_finds tidy.dispatcher defaultPoolKey s.world).only only
    exact
      { settings := same
        tidy := DispatchSession.step_tidy tidy (.send request reply)
        only := by
          simp only [key] at shelf
          exact shelf ▸ found
        goneClosed := DispatchSession.step_goneClosed tidy goneClosed (.send request reply)
        unsent := fun i => DispatchSession.step_lasting unsent_lasting (s := s.dispatching) (unsent i) (.send request reply) }
  | closed =>
    have shelf := s.dispatching.step_shelf .close
    exact
      { settings := same
        tidy := DispatchSession.step_tidy tidy .close
        only := shelf ▸ ⟨by simp, only.pools⟩
        goneClosed := DispatchSession.step_goneClosed tidy goneClosed .close
        unsent := fun i => DispatchSession.step_lasting unsent_lasting (s := s.dispatching) (unsent i) .close }
  | @peer theirs kind =>
    exact
      { settings := same
        tidy := dispatching_tidy tidy.dispatcher _
        only := only
        goneClosed := goneClosed
        unsent := fun i => DispatchSession.step_lasting unsent_lasting (s := s.dispatching) (unsent i) theirs }
  | @quiet world channels =>
    refine ⟨same, dispatching_tidy tidy.dispatcher _, only, goneClosed, ?_⟩
    intro i
    have still : world.connection i = s.world.connection i := by simp only [World.connection, channels]
    exact still ▸ unsent i

theorem run_local {settings : Settings} {s : ClientSession} (before : s.Local settings) (steps : List ClientStep) :
    (s.run steps).Local settings := by
  induction steps generalizing s with
  | nil => exact before
  | cons step rest ih => exact ih ((s.step_acts step).local before)

theorem start_local {settings : Settings} {client : Client} (created : Client.create settings = .ok client)
    (helperEnvironment : Environment) (files : Files) : (start { client with helperEnvironment } files).Local settings := by
  unfold Client.create at created
  split at created
  · cases created
  · split at created
    · cases created
    · cases created
      exact
        { settings := rfl
          tidy := dispatching_tidy (.of_empty rfl) _
          only := ⟨by simp [start, Dispatcher.create, Dispatcher.shelf], by simp [start, Dispatcher.create, Dispatcher.shelf]⟩
          goneClosed := by intro i made; simp [start, dispatching, Dispatcher.create] at made
          unsent := fun _ => rfl }
    · cases created
    · cases created

/-- A call for a path no request can be built for does nothing. -/
theorem getJson_of_refused {client : Client} {path : String} {fault : Http.BuildFault}
    (refused : Http.Request.build "GET" (client.uriOf path) [] [] = .error fault) (shape : Json.Shape) (reply : Reply)
    (w : World) :
    client.getJson shape path reply w = (⟨.error (.transport (.http fault)), none⟩, client, w) := by
  simp only [Client.getJson, Client.get, refused]

/-- A call that gets no connection fails with the reason, and the daemon receives nothing; one that gets a connection
brings the daemon its own bytes. -/
theorem getJson_of_built {client : Client} {path : String} {request : Http.Request} {w : World}
    (unsent : ∀ i, (w.connection i).Unsent)
    (built : Http.Request.build "GET" (client.uriOf path) [] [] = .ok request) (shape : Json.Shape) (reply : Reply) :
    (∀ error, client.dispatcher.lendFor request w = .error error →
      (client.getJson shape path reply w).1 = ⟨.error (.transport error), none⟩) ∧
    ∀ guard, client.dispatcher.lendFor request w = .ok guard →
      (client.getJson shape path reply w).1.received =
        some (guard.channel, Client.wireOf client.settings.version path) := by
  have sent := Dispatcher.send_eq unsent client.dispatcher request reply
  have bytes := (Client.requestBytes_uriOf built).1
  refine ⟨?_, ?_⟩
  · intro error none
    rw [none] at sent
    simp only [Client.getJson, Client.get, built, sent, Dispatcher.ownDelivery]
  · intro guard lent
    rw [lent] at sent
    simp only [Client.getJson, Client.get, built, sent, Dispatcher.ownDelivery, bytes]

/-- The daemon receives nothing in a step, or the request for the path that the step asks for. -/
theorem Acts.received_eq {s s' : ClientSession} {step : ClientStep} {received : Option (Nat × Bytes)}
    (acts : s.Acts step received s') (unsent : ∀ i, (s.world.connection i).Unsent) {channel : Nat} {wire : Bytes}
    (brought : received = some (channel, wire)) :
    ∃ path ∈ step.path, wire = Client.wireOf s.client.settings.version path ∧
      Http.dissect wire = some (Client.dissectionOf s.client.settings.version path) := by
  cases acts with
  | @sent path request reply asked built =>
    rw [Dispatcher.send_eq unsent] at brought
    cases lent : s.client.dispatcher.lendFor request s.world with
    | error error => simp [lent, Dispatcher.ownDelivery] at brought
    | ok guard =>
      simp only [lent, Dispatcher.ownDelivery, Option.some.injEq, Prod.mk.injEq] at brought
      rw [(Client.requestBytes_uriOf built).1] at brought
      obtain ⟨-, rfl⟩ := brought
      exact ⟨path, asked, rfl, Client.dissect_wireOf built⟩
  | closed => cases brought
  | peer kind => cases brought
  | quiet channels => cases brought

/-- Whatever was done with a client before, all its pools are those for the local address, and only one is open; and what
the daemon receives in a step is one request that gets the path the step asks for, below the configured version, with
the local host as its only field. A call for a path no request can be built for leaves the client and the world as they
are. Any other one asks the pool for the local address for a connection: it fails with the pool's reason and the daemon
receives nothing, or the daemon receives this request, and no byte of another one is under way to it. -/
theorem run_calls {settings : Settings} {client : Client} (created : Client.create settings = .ok client)
    (helperEnvironment : Environment) (files : Files) (before : List ClientStep) :
    let s := (start { client with helperEnvironment } files).run before
    let d := s.client.dispatcher
    ((∀ pool ∈ d.pools, pool.baseUrl = defaultPoolKey) ∧
      ∀ i < d.pools.length, (d.pool i).closed = false → d.cache = [(defaultPoolKey, i)]) ∧
    (∀ (step : ClientStep) (channel : Nat) (wire : Bytes), (s.step step).1 = some (channel, wire) →
      ∃ path ∈ step.path, wire = Client.wireOf settings.version path ∧
        Http.dissect wire = some (Client.dissectionOf settings.version path)) ∧
    ∀ (shape : Json.Shape) (path : String) (reply : Reply),
      let called := s.client.getJson shape path reply s.world
      (∃ fault, Http.Request.build "GET" (s.client.uriOf path) [] [] = .error fault ∧
        called = (⟨.error (.transport (.http fault)), none⟩, s.client, s.world)) ∨
      ∃ request, Http.Request.build "GET" (s.client.uriOf path) [] [] = .ok request ∧
        Dispatcher.poolKey request.uri = defaultPoolKey ∧
        Http.dissect (Client.wireOf settings.version path) = some (Client.dissectionOf settings.version path) ∧
        (∀ error, d.lendFor request s.world = .error error → called.1 = ⟨.error (.transport error), none⟩) ∧
        (∀ guard, d.lendFor request s.world = .ok guard →
          called.1.received = some (guard.channel, Client.wireOf settings.version path)) ∧
        ∀ i, (called.2.2.connection i).Unsent := by
  intro s d
  have all : s.Local settings := run_local (start_local created helperEnvironment files) before
  obtain ⟨same, tidy, only, goneClosed, unsent⟩ := all
  refine ⟨⟨?_, ?_⟩, ?_, ?_⟩
  · intro pool listed
    have asMade : pool.asMade ∈ s.client.dispatcher.shelf.pools := List.mem_map_of_mem listed
    exact only.pools pool.asMade asMade
  · intro i made isOpen
    refine only.cache_eq tidy.dispatcher ?_
    by_contra gone
    have closed := goneClosed i made gone
    exact absurd (isOpen.symm.trans closed) (by decide)
  · intro step channel wire brought
    have found := (s.step_acts step).received_eq unsent brought
    rwa [same] at found
  · intro shape path reply called
    cases built : Http.Request.build "GET" (s.client.uriOf path) [] [] with
    | error fault => exact .inl ⟨fault, rfl, getJson_of_refused built shape reply s.world⟩
    | ok request =>
      right
      obtain ⟨none, some⟩ := getJson_of_built unsent built shape reply
      have after := (s.step_acts (.getJson shape path reply)).local ⟨same, tidy, only, goneClosed, unsent⟩
      refine ⟨request, rfl, (Client.requestBytes_uriOf built).2, ?_, none, ?_, after.unsent⟩
      · rw [← same]
        exact Client.dissect_wireOf built
      · intro guard lent
        rw [← same]
        exact some guard lent

/-- The client that the usual settings make. -/
def standardClient : Client :=
  ⟨.standard, .create "/var/run/docker.sock" Settings.standard.dispatchSettings, []⟩

theorem create_standardClient : Client.create .standard = .ok standardClient := by decide +kernel

/-- The files with the daemon that the usual settings mean. -/
def standardDaemon : Files := .listening (.outside ["var", "run", "docker.sock"])

private def hungUp : Reply := ⟨[], true⟩

private def pingedSession : ClientSession :=
  (start standardClient standardDaemon).run [.ping hungUp]

/-- A path that looks like an address and goes on behind a fragment, and one with a line end in it. -/
theorem run_calls_oddPaths :
    Client.create .standard = .ok standardClient ∧
    (pingedSession.client.getJson .any "@x:1//?a=/#\r\nX: y" hungUp pingedSession.world).1.received =
      some (1, Text.encode "GET /v1.45@x:1//?a=/ HTTP/1.1\r\nHost: localhost\r\n\r\n") ∧
    ∃ fault, pingedSession.client.getJson .any "/a\r\nX: y" hungUp pingedSession.world =
      (⟨.error (.transport (.http fault)), none⟩, pingedSession.client, pingedSession.world) := by
  obtain ⟨-, -, calls⟩ := run_calls create_standardClient [] standardDaemon [.ping hungUp]
  have built : Http.Request.build "GET" (pingedSession.client.uriOf "@x:1//?a=/#\r\nX: y") [] [] =
      .ok ⟨.get, ⟨some "http+docker", some "localhost", some "/v1.45@x:1//?a=/"⟩, .empty, []⟩ := by decide +kernel
  have lent : pingedSession.client.dispatcher.lendFor
      ⟨.get, ⟨some "http+docker", some "localhost", some "/v1.45@x:1//?a=/"⟩, .empty, []⟩ pingedSession.world =
        .ok ⟨2, 1, false⟩ := by decide +kernel
  refine ⟨create_standardClient, ?_, ?_⟩
  · rcases calls .any "@x:1//?a=/#\r\nX: y" hungUp with ⟨fault, refused, -⟩ | ⟨request, same, -, -, -, sent, -⟩
    · exact absurd (built.symm.trans refused) (by simp)
    · obtain rfl := Except.ok.inj (built.symm.trans same)
      have received := sent _ lent
      have wire : Client.wireOf Settings.standard.version "@x:1//?a=/#\r\nX: y" =
          Text.encode "GET /v1.45@x:1//?a=/ HTTP/1.1\r\nHost: localhost\r\n\r\n" := by decide +kernel
      rwa [wire] at received
  · rcases calls .any "/a\r\nX: y" hungUp with ⟨fault, -, called⟩ | ⟨request, same, -⟩
    · exact ⟨fault, called⟩
    · have refused : Http.Request.build "GET" (pingedSession.client.uriOf "/a\r\nX: y") [] [] =
          .error (.uri .character) := by
        decide +kernel
      exact absurd (refused.symm.trans same) (by simp)

end ClientSession

end EngineClient
