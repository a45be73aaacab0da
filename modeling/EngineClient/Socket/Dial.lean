import EngineClient.Socket.Fault
import EngineClient.System.World
/-!
# Dialing

New connections to the socket at a path.
-/

namespace EngineClient

/-- The room for a path in a socket address. -/
def socketPathRoom : Nat := 108

/-- A timeout that is set and not zero. -/
def effectiveTimeout (timeout : Option Duration) : Option Duration := timeout.filter (!·.isZero)

namespace World

/-- Why nobody answers at a socket path, if so. A path that starts with a zero byte names no file; any
other one ends before its first zero byte. -/
def dialFault (w : World) (path : String) : Option Failure :=
  let size := path.utf8ByteSize
  match path.toList with
  | [] => some .invalidArgument
  | '\x00' :: _ => if socketPathRoom < size then some .socketPathTooLong else some .refused
  | first =>
    if socketPathRoom ≤ size then some .socketPathTooLong
    else
      match w.files.find (String.ofList (first.takeWhile (· != '\x00'))) with
      | .error cause => some cause
      | .ok (.socket true) => none
      | .ok _ => some .refused

/-- Dialing a socket path: the number of the new connection. -/
def dial (w : World) (path : String) : Except TransportError Nat × World :=
  match w.dialFault path with
  | some cause => (.error (.connect path cause), w)
  | none => (.ok w.channels.length, { w with channels := w.channels ++ [.fresh] })

end World

end EngineClient
