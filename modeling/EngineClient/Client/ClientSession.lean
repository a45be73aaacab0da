import EngineClient.Client.Calls
/-!
# Working with a client

A client, and everything that can be done with it, by its daemon, and with the files around them.
-/

namespace EngineClient

/-- A client in use. -/
structure ClientSession where
  client : Client
  world : World

/-- What can be done with a client and around it. -/
inductive ClientStep where
  | ping (reply : Reply)
  | version (reply : Reply)
  | info (reply : Reply)
  | containers (all : Bool) (reply : Reply)
  | diskUsage (reply : Reply)
  | getJson (shape : Json.Shape) (path : String) (reply : Reply)
  | registryCredentials (registry : String) (file : RegistryFile) (process : Environment)
  | close
  | peerClose (channel : Nat)
  | peerSend (channel : Nat) (data : Bytes)
  /-- What is in the files from now on. -/
  | files (files : Files)

/-- The path that a step asks the daemon for. -/
def ClientStep.path : ClientStep → Option String
  | .ping _ => some "/_ping"
  | .version _ => some "/version"
  | .info _ => some "/info"
  | .containers all _ => some (Client.containersPath all)
  | .diskUsage _ => some "/system/df"
  | .getJson _ path _ => some path
  | _ => none

namespace ClientSession

/-- A client nothing has been done with. -/
def start (client : Client) (files : Files) : ClientSession := ⟨client, .fresh files⟩

/-- What the daemon received in a call, and what the call leaves. -/
def ofCall {α : Type} (called : Calling α) : Option (Nat × Bytes) × ClientSession :=
  (called.1.received, ⟨called.2.1, called.2.2⟩)

/-- One step, and the bytes that the daemon received in it with the number of their connection. -/
def step (s : ClientSession) : ClientStep → Option (Nat × Bytes) × ClientSession
  | .ping reply => ofCall (s.client.ping reply s.world)
  | .version reply => ofCall (s.client.version reply s.world)
  | .info reply => ofCall (s.client.info reply s.world)
  | .containers all reply => ofCall (s.client.containers all reply s.world)
  | .diskUsage reply => ofCall (s.client.diskUsage reply s.world)
  | .getJson shape path reply => ofCall (s.client.getJson shape path reply s.world)
  | .registryCredentials registry file process =>
    (none, { s with world := (s.client.registryCredentials registry file process s.world).2 })
  | .close => (none, ⟨(s.client.close s.world).1, (s.client.close s.world).2⟩)
  | .peerClose channel => (none, { s with world := s.world.change channel .peerClose })
  | .peerSend channel data =>
    match (s.world.channel channel).peerWrite data with
    | .ok after => (none, { s with world := s.world.change channel fun _ => after })
    | .error _ => (none, s)
  | .files files => (none, { s with world := { s.world with files } })

/-- Steps one after the other. -/
def run (s : ClientSession) (steps : List ClientStep) : ClientSession :=
  steps.foldl (fun s step => (s.step step).2) s

end ClientSession

end EngineClient
