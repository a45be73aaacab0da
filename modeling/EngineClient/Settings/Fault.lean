import EngineClient.Settings.ApiVersion
import EngineClient.Socket.Fault
import EngineClient.System.Failure
/-!
# Configuration errors

Why a configuration cannot be read or is refused.
-/

namespace EngineClient

/-- The variable that holds the timeout in seconds. -/
def timeoutVariable : String := "DOCKWIRE_TIMEOUT"

/-- Why settings are refused. -/
inductive SettingsFault where
  /-- The text is no version. -/
  | version (source : String)
  /-- The text given as timeout is no unsigned 64-bit number. -/
  | timeout (source : String)
  /-- The version is older than the oldest one spoken. -/
  | versionTooOld (version : ApiVersion)
  /-- No pool may be kept. -/
  | noPools
  /-- A pool may hold no connection. -/
  | noConnections
  /-- The address is a socket URL without a path. -/
  | socketUrl (url : String) (reason : SocketUrlFault)
  /-- The address is neither a path nor a URL. -/
  | addressScheme (address : String)
  /-- The address has a scheme and nothing else. -/
  | addressHost (address : String)
  /-- The scheme of the address is none that is known. -/
  | unknownScheme (scheme : String)
  /-- A fault given in words. -/
  | described (words : String)
deriving Repr, DecidableEq

/-- The wording of a refusal. -/
def SettingsFault.message : SettingsFault → String
  | .version source => "invalid API version '" ++ source ++ "', expected MAJOR.MINOR"
  | .timeout source => timeoutVariable ++ " must be a number of seconds, got '" ++ source ++ "'"
  | .versionTooOld found =>
    "API version " ++ found.text ++ " is older than the minimum supported " ++ ApiVersion.oldest.text
  | .noPools => "pool_connections must be at least 1"
  | .noConnections => "max_pool_size must be at least 1"
  | .socketUrl url reason => (TransportError.invalidUrl url reason).message
  | .addressScheme address => "daemon address '" ++ address ++ "' has no scheme"
  | .addressHost address => "daemon address '" ++ address ++ "' has no host"
  | .unknownScheme scheme => "unsupported daemon scheme '" ++ scheme ++ "'"
  | .described words => words

/-- What stands for the wording of a document parser, which is not modelled. -/
def parserDetail : String := "*"

/-- Why a configuration cannot be used. -/
inductive ConfigError where
  /-- The file cannot be read. -/
  | io (path : String) (cause : Failure)
  /-- The content is not a document of the expected form. -/
  | parse (path : String) (detail : String)
  /-- A feature is asked of a version that does not have it. -/
  | versionTooLow (feature : String) (required actual : ApiVersion)
  /-- The settings are refused. -/
  | invalid (fault : SettingsFault)
deriving Repr, DecidableEq

namespace ConfigError

/-- The text shown for an error. -/
def message : ConfigError → String
  | .io path cause => "failed to read " ++ path ++ ": " ++ cause.message
  | .parse path detail => "failed to parse " ++ path ++ ": " ++ detail
  | .versionTooLow feature required _ => feature ++ " is not available for version < " ++ required.text
  | .invalid fault => "invalid configuration: " ++ fault.message

/-- The texts of the causes below an error, nearest first. -/
def causes : ConfigError → List String
  | .io _ cause => [cause.message]
  | _ => []

/-- The same error, told of the file that was parsed. -/
def inFile (path : String) : ConfigError → ConfigError
  | .parse _ detail => .parse path detail
  | other => other

end ConfigError

namespace ApiVersion

/-- A version read from a setting. -/
def ofSetting (source : String) : Except ConfigError ApiVersion :=
  match parse source with
  | some version => .ok version
  | none => .error (.invalid (.version source))

/-- Success when the version is at least `minimum`; `feature` names what needs that. -/
def require (version minimum : ApiVersion) (feature : String) : Except ConfigError Unit :=
  if version.isBefore minimum then .error (.versionTooLow feature minimum version) else .ok ()

end ApiVersion

end EngineClient
