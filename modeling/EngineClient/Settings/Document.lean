import EngineClient.Settings.Basic
import EngineClient.System.Environment
import EngineClient.Toml.Reader
/-!
# Settings of a file

The settings a document gives, in a text, in a named file or in the usual one.
-/

namespace EngineClient.Settings

/-- A field of a record: by name in a table, by place in a list. -/
def fieldOf (value : Toml.Value) (place : Nat) (name : String) : Option Toml.Value :=
  match value with
  | .table _ entries => entries.lookup name
  | .array elements _ => elements[place]?
  | _ => none

/-- A text. -/
def asText : Option Toml.Value → Option (Option String)
  | none => some none
  | some (.text content) => some (some content)
  | some _ => none

/-- A truth value. -/
def asBoolean : Option Toml.Value → Option (Option Bool)
  | none => some none
  | some (.boolean value) => some (some value)
  | some _ => none

/-- An unsigned number of 64 bits. -/
def asNumber : Option Toml.Value → Option (Option Nat)
  | none => some none
  | some (.integer value) =>
    if 0 ≤ value ∧ value < (Text.limit64 : Int) then some (some value.toNat) else none
  | some _ => none

/-- A version. -/
def asVersion (value : Option Toml.Value) : Option (Option ApiVersion) :=
  match asText value with
  | none => none
  | some none => some none
  | some (some source) => (ApiVersion.parse source).map some

/-- Whether a value can stand for a record: a table, a list, or a date, of which no field is known. -/
def canBeRecord : Toml.Value → Bool
  | .table .. => true
  | .array .. => true
  | .dateTime => true
  | _ => false

/-- Certificates. -/
def asTls : Option Toml.Value → Option (Option TlsSettings)
  | none => some none
  | some value =>
    if canBeRecord value then do
      let caCert ← asText (fieldOf value 0 "ca_cert")
      let clientCert ← asText (fieldOf value 1 "client_cert")
      let clientKey ← asText (fieldOf value 2 "client_key")
      let verify ← asBoolean (fieldOf value 3 "verify")
      some (some ⟨caCert, clientCert, clientKey, verify.getD true⟩)
    else none

/-- The settings a document gives; fields that are missing are as usual. -/
def ofDocument (entries : Toml.Entries) : Option Settings := do
  let baseUrl ← asText (entries.lookup "base_url")
  let version ← asVersion (entries.lookup "version")
  let timeoutSeconds ← asNumber (entries.lookup "timeout_secs")
  let poolConnections ← asNumber (entries.lookup "pool_connections")
  let maxPoolSize ← asNumber (entries.lookup "max_pool_size")
  let poolBlock ← asBoolean (entries.lookup "pool_block")
  let tls ← asTls (entries.lookup "tls")
  let credentialsStore ← asText (entries.lookup "credentials_store")
  some ⟨baseUrl.getD standard.baseUrl, version.getD standard.version,
    timeoutSeconds.getD standard.timeoutSeconds, poolConnections.getD standard.poolConnections,
    maxPoolSize.getD standard.maxPoolSize, poolBlock.getD standard.poolBlock, tls, credentialsStore⟩

/-- What stands for the path of a document that is in no file. -/
def inlinePath : String := "<inline>"

/-- The settings a text gives. -/
def ofToml (text : String) : Except ConfigError Settings :=
  match (Toml.parse text).bind ofDocument with
  | none => .error (.parse inlinePath parserDetail)
  | some settings => settings.validate.map fun () => settings

/-- The settings of a file. -/
def ofFile (files : Files) (path : String) : Except ConfigError Settings :=
  match files.readText path with
  | .error cause => .error (.io path cause)
  | .ok text => (ofToml text).mapError (·.inFile path)

/-- The file of settings that is read when no other is named. -/
def standardPath (env : Environment) (home : String) : String :=
  Files.join (Files.join (env.configHome home) "dockwire") "config.toml"

/-- The settings of a named file, which must be there, or of the usual one, which need not. `env` has the
variables of the process. -/
def load (files : Files) (env : Environment) (home : String) (path : Option String) :
    Except ConfigError Settings :=
  match path with
  | some path => ofFile files path
  | none =>
    let usual := standardPath env home
    if files.isFile usual then ofFile files usual else .ok standard

end EngineClient.Settings
