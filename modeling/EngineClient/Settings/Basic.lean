import EngineClient.Pooling.Dispatcher
import EngineClient.Settings.Fault
/-!
# Settings

How the daemon is reached, the values used when nothing is given, and what the address of the daemon comes
to.
-/

namespace EngineClient

/-- Certificates of a connection over TLS. -/
structure TlsSettings where
  caCert : Option String
  clientCert : Option String
  clientKey : Option String
  verify : Bool
deriving Repr, DecidableEq

/-- The certificates in a directory, under their usual names. -/
def TlsSettings.inDirectory (directory : String) (verify : Bool) : TlsSettings :=
  ⟨some (Files.join directory "ca.pem"), some (Files.join directory "cert.pem"),
    some (Files.join directory "key.pem"), verify⟩

/-- How the daemon is reached. -/
structure Settings where
  baseUrl : String
  version : ApiVersion
  /-- Zero waits for ever. -/
  timeoutSeconds : Nat
  poolConnections : Nat
  maxPoolSize : Nat
  poolBlock : Bool
  tls : Option TlsSettings
  /-- The credential helper that stands above the one of the registry file. -/
  credentialsStore : Option String
deriving Repr, DecidableEq

/-- What the address of the daemon comes to. -/
inductive Endpoint where
  | unix (path : String)
  | tcp (address : String)
  | tls (address : String)
deriving Repr, DecidableEq

namespace Settings

/-- The address used when none is given. -/
def standardBaseUrl : String := "unix:///var/run/docker.sock"

/-- The settings used when nothing is given. -/
def standard : Settings := ⟨standardBaseUrl, .standard, 60, 25, 10, true, none, none⟩

/-- Checking what the form of a file cannot. -/
def validate (s : Settings) : Except ConfigError Unit :=
  if s.version.isBefore .oldest then .error (.invalid (.versionTooOld s.version))
  else if s.poolConnections = 0 then .error (.invalid .noPools)
  else if s.maxPoolSize = 0 then .error (.invalid .noConnections)
  else .ok ()

/-- The timeout; none when it is zero. -/
def timeout (s : Settings) : Option Duration :=
  if s.timeoutSeconds = 0 then none else some (.ofSeconds s.timeoutSeconds)

/-- What the settings say of connections. -/
def dispatchSettings (s : Settings) : DispatchSettings :=
  ⟨s.timeout, s.poolConnections, s.maxPoolSize, s.poolBlock⟩

/-- The characters without the slashes at their end. -/
def withoutSlashes (chars : List Char) : List Char := (chars.reverse.dropWhile (· == '/')).reverse

/-- The characters before the first `://`, and those after it. -/
def splitScheme : List Char → Option (List Char × List Char)
  | [] => none
  | ':' :: '/' :: '/' :: rest => some ([], rest)
  | c :: rest => (splitScheme rest).map fun (scheme, rest) => (c :: scheme, rest)

/-- What the address of the daemon comes to: a socket for socket URLs and paths, a host for others. -/
def endpoint (s : Settings) : Except ConfigError Endpoint :=
  let url := Text.trim s.baseUrl
  if (SocketUrl.afterScheme url).isSome then
    match SocketUrl.path url with
    | .ok path => .ok (.unix path)
    | .error reason => .error (.invalid (.socketUrl url reason))
  else if url.toList.head? = some '/' then .ok (.unix url)
  else
    match splitScheme url.toList with
    | none => .error (.invalid (.addressScheme url))
    | some (scheme, rest) =>
      let address := String.ofList (withoutSlashes rest)
      let scheme := String.ofList scheme
      if address.isEmpty then .error (.invalid (.addressHost url))
      else if scheme = "https" then .ok (.tls address)
      else if scheme = "tcp" ∨ scheme = "http" then
        .ok (if s.tls.isSome then .tls address else .tcp address)
      else .error (.invalid (.unknownScheme scheme))

end Settings

end EngineClient
