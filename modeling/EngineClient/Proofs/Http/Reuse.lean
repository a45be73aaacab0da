import EngineClient.Proofs.Http.Message
import EngineClient.Proofs.Http.Tokens
/-!
# Reuse of connections

When another request may follow a response on its connection (`reusable_iff`), for every appetite with which chunks
are read.
-/

namespace EngineClient.Http

/-- The verdict on a response that was read: another request may follow exactly when the peer keeps the
connection open, the framing tells where the body ends, and the bytes taken from the source are those of the
response and no more. Where the end of the stream cuts the response short, no byte is left. It is so however many
bytes the reads of chunks ask for, past the buffer or into it: that decides what is taken, and not what the verdict
says about it. -/
theorem reusable_iff {method : Method} {source rest : Source} {exchange : Exchange} {appetite : Appetite}
    (read : readResponse method source appetite = (.ok exchange, rest)) :
    exchange.reusable = true ↔
      Persistent exchange.response.head ∧
      (∃ form, framing method exchange.response.head = .ok form ∧ form ≠ .toEnd) ∧
      ∃ form cut taken, Message method form cut taken exchange.response ∧
        source.allBytes = taken ++ rest.allBytes ∧ (cut = true → rest.allBytes = [] ∧ rest.ending = .closed) := by
  obtain ⟨form, cut, wire, surplus, message, takes, verdict⟩ := readResponse_sound read
  have framed := message.framed
  rw [verdict, keepsAlive_iff]
  refine and_congr_right fun _ => ⟨?_, ?_⟩
  · rintro ⟨selfEnding, rfl⟩
    have bytes := Source.allBytes_of_takes takes
    refine ⟨⟨form, framed, selfEnding⟩, form, cut, wire, message, by simpa using bytes, ?_⟩
    intro isCut
    obtain ⟨none, closed⟩ := takes.ends isCut
    exact rest.allBytes_of_ended none closed
  · rintro ⟨⟨form', framed', selfEnding⟩, form'', cut', taken, longer, bytes, -⟩
    rw [framed] at framed'
    cases framed'
    refine ⟨selfEnding, ?_⟩
    cases cut with
    | true => exact (List.append_eq_nil_iff.mp (takes.ends rfl).1).1
    | false =>
      have same : taken = wire ++ surplus := List.append_cancel_right (bytes.symm.trans (Source.allBytes_of_takes takes))
      exact message.prefixFree (same ▸ longer)

/-- A response of the old version that asks to be kept alive, in chunks, with the next one behind it. -/
private def keptAlive : Source :=
  .inPieces [Text.encode "HTTP/1.0 200 OK\r\nConnection: x, Keep-Alive\r\nTransfer-Encoding: chunked\r\n\r\n2\r",
    Text.encode "\nhi\r\n0\r\n\r\n", Text.encode "HTTP/1.0"] .closed

private def keptAliveResponse : Response :=
  ⟨⟨.http10, ⟨200⟩, ⟨[("connection", [Text.encode "x, Keep-Alive"]), ("transfer-encoding", [Text.encode "chunked"])]⟩⟩,
    Text.encode "hi"⟩

theorem reusable_iff_keptAlive :
    readResponse .get keptAlive = (.ok ⟨keptAliveResponse, true⟩, .inPieces [Text.encode "HTTP/1.0"] .closed) ∧
    Persistent keptAliveResponse.head ∧
    (∃ form, framing .get keptAliveResponse.head = .ok form ∧ form ≠ .toEnd) ∧
    ∃ form cut taken, Message .get form cut taken keptAliveResponse ∧
      keptAlive.allBytes = taken ++ Text.encode "HTTP/1.0" ∧
      (cut = true → Text.encode "HTTP/1.0" = [] ∧ (Source.inPieces [Text.encode "HTTP/1.0"] .closed).ending = .closed) := by
  have read : readResponse .get keptAlive =
      (.ok ⟨keptAliveResponse, true⟩, .inPieces [Text.encode "HTTP/1.0"] .closed) := by decide +kernel
  have left : (Source.inPieces [Text.encode "HTTP/1.0"] .closed).allBytes = Text.encode "HTTP/1.0" := by
    decide +kernel
  exact ⟨read, left ▸ (reusable_iff read).mp rfl⟩

end EngineClient.Http
