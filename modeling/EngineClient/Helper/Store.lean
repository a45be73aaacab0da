import EngineClient.Helper.Credentials
import EngineClient.Helper.Fault
import EngineClient.System.Programs
/-!
# Credential helpers

Credentials kept by another program. Every operation starts it once, with the name of the operation as its
argument and the payload as its input; nothing is kept between two operations.
-/

namespace EngineClient

/-- What the names of all helpers start with. -/
def helperPrefix : String := "docker-credential-"

/-- What a helper says that knows nothing of a server, whatever its exit code is. -/
def notFoundMarker : String := "credentials not found in native keychain"

/-- A store of credentials behind a helper. -/
structure HelperStore where
  program : String
  /-- Where the helper was found when the store was made. -/
  executable : Option String
  environment : Environment
  timeout : Option Duration
deriving Repr, DecidableEq

/-- What an operation answers, and the world after it. -/
abbrev Operation (α : Type) := Except CredentialError α × World

namespace HelperStore

/-- The store for a helper, with these variables over those of the process. The helper is searched for now,
and only now. -/
def create (name : String) (process overrides : Environment) (files : Files) : HelperStore :=
  let environment := process.overlay overrides
  let program := helperPrefix ++ name
  let executable := (environment.value "PATH").bind fun path => files.findProgram path program
  ⟨program, executable, environment, none⟩

/-- Whether the helper was found. -/
def isAvailable (store : HelperStore) : Bool := store.executable.isSome

/-- The error of a helper that could not be started. -/
def launchError (program : String) (cause : Failure) : StoreError :=
  if cause.isNotFound then .notInstalled program
  else
    match cause with
    | .numbered code => .launch program code cause.message
    | _ => .launch program 0 cause.message

/-- What a helper that failed has to say: on its output, or else among its errors. -/
def complaint (stdout stderr : Bytes) : String :=
  let said := Text.trim (Text.decodeLossy stdout)
  if said.isEmpty then Text.trim (Text.decodeLossy stderr) else said

/-- The error of a helper that failed. -/
def failureError (program : String) (exitCode : Option Int) (stdout stderr : Bytes) : CredentialError :=
  let said := complaint stdout stderr
  if Text.holds notFoundMarker.toList said.toList then .notFound program
  else .store (.helperFailed program exitCode said)

/-- What comes of a helper that was started. -/
def judge (store : HelperStore) : Launch → Except CredentialError Bytes
  | .failed cause => .error (.store (launchError store.program cause))
  | .overdue => .error (.store (.timeout store.program (store.timeout.getD ⟨0⟩)))
  | .ended outcome =>
    match outcome.ended with
    | .exited 0 => .ok outcome.stdout
    | .exited code => .error (failureError store.program (some code) outcome.stdout outcome.stderr)
    | .signalled => .error (failureError store.program none outcome.stdout outcome.stderr)

/-- Writing the input to a helper. One that ends without reading it is judged by how it ends. -/
def feed (pipe : Option Sink) (input : Option Bytes) : Except Failure Unit :=
  match pipe, input with
  | some pipe, some data =>
    match (pipe.writeAll data).1 with
    | .error cause => if cause.isBrokenPipe then .ok () else .error cause
    | .ok () => .ok ()
  | _, _ => .ok ()

/-- What comes of a helper that was started and of writing its input: a failure to write counts when the helper ended
in time, before how it ended does. -/
def conclude (store : HelperStore) (fed : Except Failure Unit) : Launch → Except CredentialError Bytes
  | .ended outcome =>
    match fed with
    | .error cause => .error (.store (.io store.program cause))
    | .ok () => store.judge (.ended outcome)
  | launch => store.judge launch

/-- Running the helper for an operation. -/
def execute (store : HelperStore) (operation : String) (input : Option Bytes) (w : World) :
    Operation Bytes :=
  match store.executable with
  | none => (.error (.store (.notInstalled store.program)), w)
  | some path =>
    let fed := feed (w.inlet path) input
    let (launch, w) := w.start path [operation] store.environment input store.timeout.isSome
    (store.conclude fed launch, w)

/-- The error of an output that is not the expected document. -/
def malformed (store : HelperStore) (fault : Json.Fault) : CredentialError :=
  .store (.malformedOutput store.program fault)

/-- The record in the output of a helper; an empty one is none. -/
def readRecord (store : HelperStore) (output : Bytes) : Except CredentialError Credentials :=
  match Credentials.read output with
  | .error fault => .error (store.malformed fault)
  | .ok record => if record.isEmpty then .error (.notFound store.program) else .ok record

/-- The credentials for a server. -/
def get (store : HelperStore) (server : String) (w : World) : Operation Credentials :=
  match store.execute "get" (some (Text.encode server)) w with
  | (.error error, w) => (.error error, w)
  | (.ok output, w) => (store.readRecord output, w)

/-- What the helper is given to store. -/
def payload (server username secret : String) : Bytes :=
  Text.encode (Credentials.json ⟨server, username, secret⟩)

/-- Storing credentials. -/
def put (store : HelperStore) (server username secret : String) (w : World) : Operation Unit :=
  match store.execute "store" (some (payload server username secret)) w with
  | (.error error, w) => (.error error, w)
  | (.ok _, w) => (.ok (), w)

/-- Removing the credentials for a server. -/
def erase (store : HelperStore) (server : String) (w : World) : Operation Unit :=
  match store.execute "erase" (some (Text.encode server)) w with
  | (.error error, w) => (.error error, w)
  | (.ok _, w) => (.ok (), w)

/-- What the list of servers is expected to be. -/
def listShape : Json.Shape := .map .text

/-- The servers in the output of a helper, with their user names. -/
def readList (store : HelperStore) (output : Bytes) : Except CredentialError (List (String × String)) :=
  match Json.read listShape output with
  | .error fault => .error (store.malformed fault)
  | .ok (.object members) => .ok (members.map fun (server, user) => (server, user.asText.getD ""))
  | .ok _ => .ok []

/-- The servers the helper knows, with their user names. -/
def list (store : HelperStore) (w : World) : Operation (List (String × String)) :=
  match store.execute "list" none w with
  | (.error error, w) => (.error error, w)
  | (.ok output, w) => (store.readList output, w)

end HelperStore

end EngineClient
