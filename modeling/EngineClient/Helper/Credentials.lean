import EngineClient.Json.Reader
/-!
# Credential records

What helpers read and write.
-/

namespace EngineClient

/-- The credentials for a server. -/
structure Credentials where
  serverUrl : String
  username : String
  secret : String
deriving Repr, DecidableEq

namespace Credentials

/-- Whether there is neither a name nor a secret. -/
def isEmpty (c : Credentials) : Bool := c.username.isEmpty && c.secret.isEmpty

/-- Whether the name tells that the secret is an identity token. -/
def isIdentityToken (c : Credentials) : Bool := c.username == "<token>"

/-- The text shown for a record, which keeps the secret. -/
def debug (c : Credentials) : String :=
  "Credentials \x7b server_url: " ++ Text.quote c.serverUrl ++ ", username: " ++ Text.quote c.username ++
    ", secret: " ++ Text.quote "<redacted>" ++ " \x7d"

/-- What a document of a record is expected to be. -/
def shape : Json.Shape := .record [("ServerURL", .text), ("Username", .text), ("Secret", .text)]

/-- The record in a document of the expected shape; what is missing is empty. -/
def ofValue (value : Json.Value) : Credentials :=
  let under (name : String) := ((value.member name).bind Json.Value.asText).getD ""
  ⟨under "ServerURL", under "Username", under "Secret"⟩

/-- The record that bytes write. -/
def read (bytes : Bytes) : Except Json.Fault Credentials := (Json.read shape bytes).map ofValue

/-- The document of a record. -/
def json (c : Credentials) : String :=
  "\x7b\"ServerURL\":" ++ Json.quote c.serverUrl ++ ",\"Username\":" ++ Json.quote c.username ++
    ",\"Secret\":" ++ Json.quote c.secret ++ "\x7d"

/-- The record as a value. -/
def toValue (c : Credentials) : Json.Value :=
  .ofMembers
    [("ServerURL", .text c.serverUrl), ("Username", .text c.username), ("Secret", .text c.secret)]

end Credentials

end EngineClient
