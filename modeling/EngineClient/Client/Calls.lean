import EngineClient.Client.Fault
import EngineClient.Helper.Store
import EngineClient.RegistryFile
import EngineClient.Settings.Variables
/-!
# The client

Calls to one daemon: versioned requests over the dispatcher, their answers as documents, and the credentials for a
registry.
-/

namespace EngineClient

/-- A client of one daemon. -/
structure Client where
  settings : Settings
  dispatcher : Dispatcher
  /-- Variables that credential helpers get beside those of the process. -/
  helperEnvironment : Environment
deriving Repr, DecidableEq

/-- What a request comes to: the answer, and what the daemon received. -/
structure Call (α : Type) where
  outcome : Except ClientError α
  received : Option (Nat × Bytes)

/-- What a request does to a client and the world. -/
abbrev Calling (α : Type) := Call α × Client × World

namespace Client

/-- The first version that can tell of disk usage. -/
def diskUsageVersion : ApiVersion := ⟨1, 25⟩

/-- The client for these settings. Nothing is dialed before the first request. -/
def create (settings : Settings) : Except ClientError Client :=
  match settings.validate with
  | .error error => .error (.config error)
  | .ok () =>
    match settings.endpoint with
    | .error error => .error (.config error)
    | .ok (.unix path) => .ok ⟨settings, .create path settings.dispatchSettings, []⟩
    | .ok (.tcp address) => .error (.unsupportedTransport ("tcp://" ++ address))
    | .ok (.tls address) => .error (.unsupportedTransport ("https://" ++ address))

/-- The client for the usual file of settings and the variables of the process. -/
def ofEnvironment (files : Files) (process : Environment) (home : String) : Except ClientError Client :=
  match Settings.load files process home none with
  | .error error => .error (.config error)
  | .ok settings =>
    match settings.applyEnvironment process home with
    | (.error error, _) => .error (.config error)
    | (.ok (), settings) => create settings

/-- The URI of a versioned path. -/
def uriOf (client : Client) (path : String) : String :=
  defaultPoolKey ++ client.settings.version.pathPrefix ++ path

/-- What the daemon says of an error: the text under `message`, or else the body as text. -/
def errorWords (body : Bytes) : String :=
  let told := match Json.read .any body with
    | .ok value => (value.member "message").bind Json.Value.asText
    | .error _ => none
  told.getD (Text.trim (Text.decodeLossy body))

/-- The body of a response with a good status. -/
def checkStatus (response : Http.Response) : Except ClientError Bytes :=
  if response.head.status.isSuccess then .ok response.body
  else .error (.api response.head.status (errorWords response.body))

/-- A versioned request, when the daemon replies like this: the body of the answer. -/
def get (client : Client) (path : String) (reply : Reply) (w : World) : Calling Bytes :=
  match Http.Request.build "GET" (client.uriOf path) [] [] with
  | .error fault => (⟨.error (.transport (.http fault)), none⟩, client, w)
  | .ok request =>
    let (delivery, dispatcher, w) := client.dispatcher.send request reply w
    let outcome := match delivery.outcome with
      | .error error => .error (.transport error)
      | .ok response => checkStatus response
    (⟨outcome, delivery.received⟩, { client with dispatcher }, w)

/-- A versioned request whose answer is a document of some shape. -/
def getJson (client : Client) (shape : Json.Shape) (path : String) (reply : Reply) (w : World) :
    Calling Json.Value :=
  let (call, client, w) := client.get path reply w
  let outcome := match call.outcome with
    | .error error => .error error
    | .ok body => (Json.read shape body).mapError .json
  (⟨outcome, call.received⟩, client, w)

/-- Whether the daemon says that it is there. -/
def ping (client : Client) (reply : Reply) (w : World) : Calling Bool :=
  let (call, client, w) := client.get "/_ping" reply w
  (⟨call.outcome.map (· == Text.encode "OK"), call.received⟩, client, w)

/-- The version of the daemon. -/
def version (client : Client) : Reply → World → Calling Json.Value := client.getJson .any "/version"

/-- What the daemon tells of its system. -/
def info (client : Client) : Reply → World → Calling Json.Value := client.getJson .any "/info"

/-- The path that lists containers, those that are stopped with the others or not. -/
def containersPath (all : Bool) : String :=
  "/containers/json?all=" ++ (if all then "1" else "0") ++ "&limit=-1&size=0&trunc_cmd=0"

/-- The list of containers. -/
def containers (client : Client) (all : Bool) : Reply → World → Calling Json.Value :=
  client.getJson (.list .any) (containersPath all)

/-- The disk usage, which older versions cannot tell. -/
def diskUsage (client : Client) (reply : Reply) (w : World) : Calling Json.Value :=
  match client.settings.version.require diskUsageVersion "df" with
  | .error error => (⟨.error (.config error), none⟩, client, w)
  | .ok () => client.getJson .any "/system/df" reply w

/-- The helper that serves a registry: its own one, the one of the settings, or the one of the registry
file. -/
def helperFor (client : Client) (registry : String) (file : RegistryFile) : Option String :=
  let file := match client.settings.credentialsStore with
    | some store => { file with credsStore := some store }
    | none => file
  file.helperFor registry

/-- The credentials for a registry: none when no helper serves it, or the helper knows none. -/
def registryCredentials (client : Client) (registry : String) (file : RegistryFile)
    (process : Environment) (w : World) : Except ClientError (Option Credentials) × World :=
  match client.helperFor registry file with
  | none => (.ok none, w)
  | some helper =>
    let store := HelperStore.create helper process client.helperEnvironment w.files
    match store.get registry w with
    | (.ok record, w) => (.ok (some record), w)
    | (.error error, w) =>
      if error.isNotFound then (.ok none, w) else (.error (.credentials error), w)

/-- Closing all connections. -/
def close (client : Client) (w : World) : Client × World :=
  let (dispatcher, w) := client.dispatcher.close w
  ({ client with dispatcher }, w)

end Client

end EngineClient
