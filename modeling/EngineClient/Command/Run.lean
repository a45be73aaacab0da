import EngineClient.Client.Calls
import EngineClient.Command.Resolve
/-!
# Running commands

Every command comes to one document, or to a chain of causes.
-/

namespace EngineClient.Command

/-- What a command meets: the variables of the process, those it was told of, the home directory, its input,
and what the daemon replies. -/
structure Surroundings where
  process : Environment
  env : Environment
  home : String
  stdin : Bytes
  reply : Reply
deriving Repr, DecidableEq

/-- What a command comes to. -/
structure Result where
  outcome : Except Chain Json.Value
  /-- The failure stopped the program before it could report it. -/
  stopped : Bool
  /-- What the daemon received. -/
  received : Option (Nat × Bytes)
  world : World

/-- The result of a command that asked no daemon. -/
def Result.alone (outcome : Except Chain Json.Value) (w : World) : Result := ⟨outcome, false, none, w⟩

/-- The chain of a client error. -/
def clientChain (error : ClientError) : Chain := error.message :: error.causes

/-- The chain of a credential error. -/
def credentialChain (error : CredentialError) : Chain := error.message :: error.causes

/-- A command that asks the daemon: `doing` tells what fails when the request does. -/
def daemon (settings : Settings) (doing : String) (w : World)
    (call : Client → World → Calling Json.Value) : Result :=
  match Client.create settings with
  | .error error => .alone (.error (("cannot use daemon at " ++ settings.baseUrl) :: clientChain error)) w
  | .ok client =>
    let (call, _, w) := call client w
    let stopped := match call.outcome with
      | .ok _ => false
      | .error error => error.isFatal
    ⟨call.outcome.mapError fun error => doing :: clientChain error, stopped, call.received, w⟩

/-- What `ping` tells. -/
def pong (version : ApiVersion) (ok : Bool) : Json.Value :=
  .ofMembers [("ok", .boolean ok), ("api_version", .text version.text)]

/-- Asking whether the daemon is there. -/
def ping (reply : Reply) (client : Client) (w : World) : Calling Json.Value :=
  let (call, after, w) := client.ping reply w
  (⟨call.outcome.map (pong client.settings.version), call.received⟩, after, w)

/-- The helper to use: the one named, the one of the settings, or the one of the registry file. -/
def helperName (named : Option String) (settings : Settings) (s : Surroundings) (files : Files) :
    Except Chain String :=
  match named, settings.credentialsStore with
  | some name, _ => .ok name
  | none, some name => .ok name
  | none, none =>
    match RegistryFile.loadStandard files s.env s.home with
    | .error error => .error (configChain error)
    | .ok file =>
      match file.credsStore with
      | some name => .ok name
      | none => .error ["no credential helper given; pass --helper or set credsStore"]

/-- A command that asks a helper. -/
def withHelper (named : Option String) (settings : Settings) (s : Surroundings) (w : World)
    (use : HelperStore → World → Except Chain Json.Value × World) : Result :=
  match helperName named settings s w.files with
  | .error chain => .alone (.error chain) w
  | .ok name =>
    let (outcome, w) := use (HelperStore.create name s.process s.env w.files) w
    .alone outcome w

/-- What an operation of a helper comes to as the outcome of a command. -/
def told (render : α → Json.Value) : Operation α → Except Chain Json.Value × World
  | (.ok value, w) => (.ok (render value), w)
  | (.error error, w) => (.error (credentialChain error), w)

/-- The secret in the input: without the line ends at its end. -/
def secretOf (text : String) : String :=
  String.ofList (text.toList.reverse.dropWhile fun c => c == '\r' || c == '\n').reverse

/-- Storing the secret that the input has. -/
def storeSecret (server username : String) (stdin : Bytes) (store : HelperStore) (w : World) :
    Except Chain Json.Value × World :=
  match Text.decode stdin with
  | .error _ => (.error ["reading secret from stdin", Failure.notText.message], w)
  | .ok text =>
    told (fun () => .ofMembers [("stored", .text server)]) (store.put server username (secretOf text) w)

/-- Searching the credentials for a registry. -/
def lookup (registry : String) (settings : Settings) (s : Surroundings) (w : World) : Result :=
  match RegistryFile.loadStandard w.files s.env s.home with
  | .error error => .alone (.error (configChain error)) w
  | .ok file =>
    match Client.create settings with
    | .error error => .alone (.error (clientChain error)) w
    | .ok client =>
      let client := { client with helperEnvironment := s.env }
      match client.registryCredentials registry file s.process w with
      | (.error error, w) => .alone (.error (clientChain error)) w
      | (.ok none, w) => .alone (.ok .null) w
      | (.ok (some record), w) => .alone (.ok record.toValue) w

/-- The list of a helper as a document. -/
def listed (servers : List (String × String)) : Json.Value :=
  .ofMembers (servers.map fun (server, user) => (server, .text user))

/-- Running a command. -/
def run (command : Action) (settings : Settings) (s : Surroundings) (w : World) : Result :=
  match command with
  | .ping => daemon settings "ping failed" w (ping s.reply)
  | .version => daemon settings "fetching version" w fun client => client.version s.reply
  | .info => daemon settings "fetching info" w fun client => client.info s.reply
  | .ps all => daemon settings "listing containers" w fun client => client.containers all s.reply
  | .df => daemon settings "fetching disk usage" w fun client => client.diskUsage s.reply
  | .get helper server =>
    withHelper helper settings s w fun store w => told Credentials.toValue (store.get server w)
  | .store helper server username =>
    withHelper helper settings s w (storeSecret server username s.stdin)
  | .erase helper server =>
    withHelper helper settings s w fun store w =>
      told (fun () => .ofMembers [("erased", .text server)]) (store.erase server w)
  | .list helper => withHelper helper settings s w fun store w => told listed (store.list w)
  | .lookup registry => lookup registry settings s w

/-! ## The whole program -/

/-- What a command line comes to. -/
inductive Completion where
  | usage (fault : Usage)
  | unresolved (chain : Chain)
  | ran (result : Result)

/-- Reading the command line, resolving the settings, and running the command. -/
def complete (words : List String) (s : Surroundings) (w : World) : Completion :=
  match Arguments.parse words with
  | .error fault => .usage fault
  | .ok a =>
    match resolve w.files s.process s.env s.home a.config a.overrides with
    | .error chain => .unresolved chain
    | .ok settings => .ran (run a.command settings s w)

/-- The name of the program and its version. -/
def programVersion : String := "dockwire 0.1.0"

/-- What a process leaves behind. -/
structure Exit where
  code : Nat
  stdout : String
  /-- The report of a failure. -/
  report : Option String
deriving Repr, DecidableEq

/-- A cause in a report: lines after the first are indented like it. -/
def indentCause (number : Option Nat) (cause : String) : String :=
  let lead := match number with
    | some n =>
      let shown := toString n
      String.ofList (List.replicate (5 - shown.length) ' ') ++ shown ++ ": "
    | none => "    "
  let indent := if number.isSome then "       " else "    "
  lead ++ ("\n" ++ indent).intercalate ((Text.splitAt '\n' cause.toList).map String.ofList)

/-- The report of a failure: what failed, and the causes below it, numbered when there are several. -/
def report : Chain → String
  | [] => "Error: \n"
  | [only] => "Error: " ++ only ++ "\n"
  | [first, cause] => "Error: " ++ first ++ "\n\nCaused by:\n" ++ indentCause none cause ++ "\n"
  | first :: causes =>
    "Error: " ++ first ++ "\n\nCaused by:\n" ++
      "\n".intercalate (causes.zipIdx.map fun (cause, n) => indentCause (some n) cause) ++ "\n"

/-- The exit code of a program that was stopped. -/
def stoppedCode : Nat := 101

/-- What the process leaves behind for a command line. -/
def exitOf : Completion → Exit
  | .usage .displayVersion => ⟨0, programVersion ++ "\n", none⟩
  | .usage .displayHelp => ⟨0, "", none⟩
  | .usage _ => ⟨2, "", none⟩
  | .unresolved chain => ⟨1, "", some (report chain)⟩
  | .ran result =>
    match result.outcome with
    | .ok value => ⟨0, Json.pretty value ++ "\n", none⟩
    | .error chain =>
      if result.stopped then ⟨stoppedCode, "", none⟩ else ⟨1, "", some (report chain)⟩

end EngineClient.Command
