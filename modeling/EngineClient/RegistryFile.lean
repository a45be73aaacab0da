import EngineClient.Json.Reader
import EngineClient.Settings.Document
/-!
# The registry file

Which credential helper serves which registry. Of the file only that is read.
-/

namespace EngineClient

/-- Credentials written into the file itself. -/
structure AuthEntry where
  auth : Option String
  identityToken : Option String
deriving Repr, DecidableEq

/-- What the file says of credentials; names are in their order. -/
structure RegistryFile where
  /-- The helper for every registry without one of its own. -/
  credsStore : Option String
  credHelpers : List (String × String)
  auths : List (String × AuthEntry)
deriving Repr, DecidableEq

namespace RegistryFile

/-- A file that says nothing. -/
def empty : RegistryFile := ⟨none, [], []⟩

/-- What a document in the file is expected to be. -/
def shape : Json.Shape :=
  .record
    [("credsStore", .optional .text), ("credHelpers", .map .text),
      ("auths", .map (.record [("auth", .optional .text), ("identitytoken", .optional .text)]))]

/-- The text under a name, if there is one. -/
def textUnder (value : Json.Value) (name : String) : Option String :=
  (value.member name).bind Json.Value.asText

/-- The members of the object under a name. -/
def membersUnder (value : Json.Value) (name : String) : List (String × Json.Value) :=
  match value.member name with
  | some (.object members) => members
  | _ => []

/-- What a document of the expected shape says. -/
def ofValue (value : Json.Value) : RegistryFile :=
  ⟨textUnder value "credsStore",
    (membersUnder value "credHelpers").map fun (name, helper) => (name, helper.asText.getD ""),
    (membersUnder value "auths").map fun (name, entry) =>
      (name, ⟨textUnder entry "auth", textUnder entry "identitytoken"⟩)⟩

/-- What a text says; a blank one says nothing. -/
def ofJson (text : String) : Except ConfigError RegistryFile :=
  if Text.isBlankText text then .ok empty
  else
    match Json.read shape (Text.encode text) with
    | .ok value => .ok (ofValue value)
    | .error _ => .error (.parse Settings.inlinePath parserDetail)

/-- What a file says. -/
def load (files : Files) (path : String) : Except ConfigError RegistryFile :=
  match files.readText path with
  | .error cause => .error (.io path cause)
  | .ok text => (ofJson text).mapError (·.inFile path)

/-- Where the file usually is. -/
def standardPath (env : Environment) (home : String) : String :=
  match env.filled "DOCKER_CONFIG" with
  | some directory => Files.join directory "config.json"
  | none => Files.join (Files.join (env.home home) ".docker") "config.json"

/-- What the file at its usual place says; one that is missing says nothing. -/
def loadStandard (files : Files) (env : Environment) (home : String) : Except ConfigError RegistryFile :=
  let path := standardPath env home
  if files.isFile path then load files path else .ok empty

/-- The host in the address of a registry: without the scheme and from the first slash on. -/
def hostOf (registry : String) : String :=
  let rest := (Text.afterLead "https://" registry).getD
    ((Text.afterLead "http://" registry).getD registry)
  String.ofList (rest.toList.takeWhile (· != '/'))

/-- The helper that serves a registry: its own, by its address as written or by its host, or the one for
all. -/
def helperFor (file : RegistryFile) (registry : String) : Option String :=
  match file.credHelpers.lookup registry with
  | some helper => some helper
  | none =>
    match file.credHelpers.lookup (hostOf registry) with
    | some helper => some helper
    | none => file.credsStore

end RegistryFile

end EngineClient
