import EngineClient.Settings.Basic
import EngineClient.System.Environment
/-!
# Settings of variables

What the environment says of the daemon, laid above the settings there are.
-/

namespace EngineClient.Settings

/-- The variable for the address of the daemon. -/
def hostVariable : String := "DOCKER_HOST"
/-- The variable for the version. -/
def versionVariable : String := "DOCKER_API_VERSION"
/-- The variable that asks for certificates to be checked. -/
def verifyVariable : String := "DOCKER_TLS_VERIFY"
/-- The variable for the directory of certificates. -/
def certificatesVariable : String := "DOCKER_CERT_PATH"

/-- The settings with the address of the variables. -/
def applyHost (s : Settings) (env : Environment) : Settings :=
  match env.trimmed hostVariable with
  | some host => { s with baseUrl := host }
  | none => s

/-- The settings with the version of the variables. -/
def applyVersion (s : Settings) (env : Environment) : Except ConfigError Settings :=
  match env.trimmed versionVariable with
  | some source => (ApiVersion.ofSetting source).map fun version => { s with version }
  | none => .ok s

/-- The settings with the timeout of the variables. -/
def applyTimeout (s : Settings) (env : Environment) : Except ConfigError Settings :=
  match env.trimmed timeoutVariable with
  | some source =>
    match Text.decimal Text.limit64 source with
    | some seconds => .ok { s with timeoutSeconds := seconds }
    | none => .error (.invalid (.timeout source))
  | none => .ok s

/-- The settings with the certificates of the variables. -/
def applyTls (s : Settings) (env : Environment) (home : String) : Settings :=
  let verify := (env.trimmed verifyVariable).isSome
  match env.trimmed certificatesVariable with
  | some directory => { s with tls := some (.inDirectory directory verify) }
  | none =>
    if verify then
      { s with tls := some (.inDirectory (Files.join (env.home home) ".docker") verify) }
    else s

/-- The settings with what the variables say, and whether all of them could be used. At the first that
cannot, what came before stays. -/
def applyEnvironment (s : Settings) (env : Environment) (home : String) :
    Except ConfigError Unit × Settings :=
  let s := s.applyHost env
  match s.applyVersion env with
  | .error error => (.error error, s)
  | .ok s =>
    match s.applyTimeout env with
    | .error error => (.error error, s)
    | .ok s =>
      let s := s.applyTls env home
      (s.validate, s)

end EngineClient.Settings
