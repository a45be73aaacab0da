import EngineClient.Text.Blank
import EngineClient.Text.Numeral
import EngineClient.Text.Utf8
/-!
# Socket URLs

The file path of a socket, read from a URL whose path may be percent-encoded.
-/

namespace EngineClient

/-- Why a URL names no socket path. -/
inductive SocketUrlFault where
  /-- The URL starts with neither scheme. -/
  | scheme
  /-- The decoded path is not UTF-8. -/
  | notText (fault : Text.Utf8Fault)
  /-- The decoded path has nothing but slashes. -/
  | emptyPath
  /-- A reason given in words. -/
  | described (words : String)
deriving Repr, DecidableEq

/-- The wording of a reason. -/
def SocketUrlFault.message : SocketUrlFault → String
  | .scheme => "expected http+unix:// or unix:// scheme"
  | .notText fault => fault.message
  | .emptyPath => "socket path is empty"
  | .described words => words

namespace SocketUrl

/-- What a socket URL starts with. -/
def schemes : List String := ["http+unix://", "unix://"]

/-- The part of a URL after its scheme. -/
def afterScheme (url : String) : Option String := schemes.findSome? (Text.afterLead · url)

/-- The value of a byte that is a hexadecimal digit. -/
def hexByte (b : UInt8) : Option Nat := Text.hexDigit (Char.ofNat b.toNat)

/-- Bytes with every `%` and two hexadecimal digits replaced by the byte they stand for; any other `%`
stays. -/
def percentDecode : Bytes → Bytes
  | [] => []
  | 0x25 :: first :: second :: rest =>
    match hexByte first, hexByte second with
    | some high, some low => UInt8.ofNat (high * 16 + low) :: percentDecode rest
    | _, _ => 0x25 :: percentDecode (first :: second :: rest)
  | b :: rest => b :: percentDecode rest

/-- The path after the scheme, decoded; a leading slash is added where there is none. -/
def decodePath (rest : String) : Except SocketUrlFault String :=
  match Text.decode (percentDecode (Text.encode rest)) with
  | .error fault => .error (.notText fault)
  | .ok path =>
    if path.toList.all (· == '/') then .error .emptyPath
    else if path.toList.head? = some '/' then .ok path
    else .ok ("/" ++ path)

/-- The socket path a URL names. -/
def path (url : String) : Except SocketUrlFault String :=
  match afterScheme url with
  | none => .error .scheme
  | some rest => decodePath rest

end SocketUrl

end EngineClient
