import EngineClient.Proofs.Http.HeadLimit
import EngineClient.Proofs.Http.Reuse
import EngineClient.Proofs.Pooling.Sending
/-!
# Responses before the final one

A response of a status from 100 to 199 is followed by another one to the same request. The reader answers with it all
the same, as with every response that has no body, and whether its connection may carry another request is told by
where a read ended: only bytes that came along with the head speak against it (`reusable_bodiless_iff`). So a request
that was answered in this way alone may leave its connection parked (`parked_after_interim_iff`).
-/

namespace EngineClient.Http

theorem ReadEnds.pos {pieces : List Bytes} {position : Nat} (ends : ReadEnds pieces position) : 0 < position := by
  obtain ⟨before, piece, after, blocks, -, filled, positive, rfl⟩ := ends
  have length := List.length_pos_iff.mpr filled
  have block : headReadSize ≤ blocks * headReadSize := Nat.le_mul_of_pos_left _ positive
  rw [headReadSize] at *
  omega

/-- A read ends behind the buffer at this position of what is being read. -/
private theorem readHeadFor_exact_iff {pieces : List Bytes} {ending : Ending} {buffer lead leftover : Bytes}
    {reads : Nat} {rest : Source} (headless : headEnd buffer = none)
    (read : readHeadFor (.inPieces pieces ending) buffer reads = (.ok (lead, leftover), rest)) :
    buffer.length < lead.length ∧
      (leftover = [] ↔ ∃ position, ReadEnds pieces position ∧ lead.length = buffer.length + position) := by
  induction reads generalizing pieces buffer with
  | zero => simp [readHeadFor] at read
  | succ reads ih =>
    rw [readHeadFor, headless] at read
    dsimp only at read
    split_ifs at read
    · simp at read
    · by_cases more : pieces.flatten = []
      · rw [Source.read_inPieces_nil more] at read
        cases ending <;> simp at read
      · obtain ⟨piece, pieces', got, ends⟩ := exists_read more ending
        simp only [got] at read
        have positive : 0 < piece.length := List.length_pos_iff.mpr (Source.read_stream (by decide) got).1
        simp only [ends]
        cases found : headEnd (buffer ++ piece) with
        | none =>
          obtain ⟨longer, exact⟩ := ih found read
          rw [List.length_append] at longer exact
          refine ⟨by omega, exact.trans ⟨?_, ?_⟩⟩
          · rintro ⟨further, endsLater, length⟩
            exact ⟨_, .inr ⟨further, endsLater, rfl⟩, by omega⟩
          · rintro ⟨position, rfl | ⟨further, endsLater, rfl⟩, length⟩
            · omega
            · exact ⟨further, endsLater, by omega⟩
        | some length =>
          -- The head is complete with this read, and what is left of it came along.
          obtain ⟨lead', more', isLead, parts, rfl⟩ := headEnd_eq_some_iff.mp found
          have longer : buffer.length < lead'.length := isLead.longer headless parts
          cases reads with
          | zero => simp [readHeadFor] at read
          | succ reads =>
            rw [readHeadFor, found] at read
            simp only [parts, List.take_left, List.drop_left, Prod.mk.injEq, Except.ok.injEq] at read
            obtain ⟨⟨rfl, rfl⟩, -⟩ := read
            have lengths := congrArg List.length parts
            rw [List.length_append, List.length_append] at lengths
            refine ⟨longer, fun none => ⟨piece.length, .inl rfl, ?_⟩, ?_⟩
            · rw [none, List.length_nil] at lengths
              omega
            · rintro ⟨position, rfl | ⟨further, endsLater, rfl⟩, length⟩
              · exact List.length_eq_zero_iff.mp (by omega)
              · have := endsLater.pos
                omega

/-- No byte comes along with a head exactly when a read ends where the head does. -/
theorem readHead_exact_iff {pieces : List Bytes} {ending : Ending} {lead leftover : Bytes} {rest : Source}
    (read : readHead (.inPieces pieces ending) = (.ok (lead, leftover), rest)) :
    leftover = [] ↔ ReadEnds pieces lead.length := by
  have exact := (readHeadFor_exact_iff rfl read).2
  simpa using exact

/-- After a response without a body another request may follow exactly when the peer keeps the connection open and a
read ended where the head does. -/
theorem reusable_bodiless_iff {method : Method} {pieces : List Bytes} {ending : Ending} {exchange : Exchange}
    {rest : Source} (read : readResponse method (.inPieces pieces ending) = (.ok exchange, rest))
    (framed : framing method exchange.response.head = .ok .none) :
    exchange.reusable = true ↔
      Persistent exchange.response.head ∧ ∃ lead, Lead lead ∧ lead <+: pieces.flatten ∧ ReadEnds pieces lead.length := by
  obtain ⟨lead, leftover, middle, -, form, exact, found, -, framed', carried, reusable⟩ := readResponse_cases read
  rw [framed] at framed'
  cases framed'
  obtain ⟨-, rfl⟩ : [] = exchange.response.body ∧ leftover.isEmpty = exact := by
    simpa [readBody] using (congrArg Prod.fst carried)
  obtain ⟨isLead, same⟩ := readHead_sound found
  have bytes : pieces.flatten = lead ++ (leftover ++ middle.stream.bytes) := by
    have bytes := congrArg Stream.bytes same
    rwa [Source.inPieces_stream, Stream.prepend, List.append_assoc] at bytes
  rw [reusable, Bool.and_eq_true, keepsAlive_iff, List.isEmpty_iff, readHead_exact_iff found, and_comm]
  refine and_congr_right fun _ => ⟨fun ends => ⟨lead, isLead, bytes ▸ List.prefix_append .., ends⟩, ?_⟩
  rintro ⟨lead', isLead', ⟨more, parts⟩, ends⟩
  obtain ⟨rfl, -⟩ := isLead.unique isLead' (bytes.symm.trans parts.symm)
  exact ends

theorem framing_informational {head : Head} (informational : head.status.isInformational = true) (method : Method) :
    framing method head = .ok .none := by
  rw [framing, if_pos]
  simp [Status.isBodiless, informational]

end EngineClient.Http

namespace EngineClient.DispatchSession

open Http (Lead ReadEnds Persistent framing readResponse)

/-- When a connection may carry another request though the one before it was only answered by a response of a status
from 100 to 199. The reader says so of every response of such a status after which the peer keeps the connection open,
if a read ended where its head does, whatever comes behind it; where a byte behind it came along it says no. A
dispatcher parks the connection after such an answer exactly when the reader says so and it is not transient. -/
theorem parked_after_interim_iff {exchange : Http.Exchange}
    (informational : exchange.response.head.status.isInformational = true) :
    (∀ (method : Http.Method) (pieces : List Bytes) (ending : Ending) (rest : Source),
      readResponse method (.inPieces pieces ending) = (.ok exchange, rest) →
      (exchange.reusable = true ↔ Persistent exchange.response.head ∧
        ∃ lead, Lead lead ∧ lead <+: pieces.flatten ∧ ReadEnds pieces lead.length)) ∧
    ∀ (socketPath : String) (settings : DispatchSettings) (files : Files) (steps : List DispatchStep)
        (request : Http.Request) (reply : Reply) (guard : Guard) (rest : Source),
      let s := (start (.create socketPath settings) files).run steps
      let after := (s.step (.send request reply)).2
      let i := (s.dispatcher.lookup (Dispatcher.poolKey request.uri) s.world).1
      s.lendFor request = .ok guard → readResponse request.method reply.source = (.ok exchange, rest) →
      (s.step (.send request reply)).1 =
        .sent ⟨.ok exchange.response, some (guard.channel, Http.requestBytes request request.target)⟩ ∧
      ∃ loan, (s.dispatcher.lenderFor request s.world).lent = (s.dispatcher.pool i).lent ++ [loan] ∧
        loan.key = guard.key ∧
        (guard.channel ∈ (after.dispatcher.pool i).idle ↔
          loan.transient = false ∧ Persistent exchange.response.head ∧
            ∃ lead, Lead lead ∧ lead <+: reply.data ∧ ReadEnds [reply.data] lead.length) := by
  refine ⟨fun method pieces ending rest read =>
    Http.reusable_bodiless_iff read (Http.framing_informational informational method), ?_⟩
  intro socketPath settings files steps request reply guard rest s after i lent read
  have ready : s.dispatcher.Ready s.world := run_ready socketPath settings files steps
  have pieces : readResponse request.method (.inPieces [reply.data] _) = (.ok exchange, rest) := read
  have reusable := Http.reusable_bodiless_iff pieces (Http.framing_informational informational request.method)
  rw [List.flatten_singleton] at reusable
  obtain ⟨loan, stale, rest, -, listed, key, -, apart, -, -, -, idle, -⟩ := ready.send_lent request reply lent
  refine ⟨?_, loan, listed, key, ?_⟩
  · have answered := Dispatcher.send_eq ready.unsent s.dispatcher request reply
    have lent : s.dispatcher.lendFor request s.world = .ok guard := lent
    rw [lent] at answered
    simp only [Dispatcher.ownDelivery, Http.answer, read] at answered
    exact congrArg DispatchAnswer.sent answered
  · rw [← reusable]
    rw [read] at idle
    cases verdict : exchange.reusable <;> cases transient : loan.transient <;>
      simp only [Dispatcher.leavesReusable, verdict, transient] at idle
    all_goals
      change (after.dispatcher.pool i).idle = _ at idle
      simp [idle, apart]

private def upload : Http.Request := ⟨⟨"POST"⟩, ⟨none, none, some "/build"⟩, .empty, Text.encode "hi"⟩

private def goOn : Reply := ⟨Text.encode "HTTP/1.1 100 Continue\r\n\r\n", false⟩

private def continueHead : Http.Head := ⟨.http11, ⟨100⟩, .empty⟩

/-- The connection of a request that was told to go on is parked. -/
theorem parked_after_interim_iff_goOn :
    let s := (start (.create "d.sock" .standard) (.listening daemonPlace)).run []
    continueHead.status.isInformational = true ∧ s.lendFor upload = .ok ⟨1, 0, false⟩ ∧
    readResponse upload.method goOn.source = (.ok ⟨⟨continueHead, []⟩, true⟩, ⟨[], .failing .tryAgain⟩) ∧
    (s.step (.send upload goOn)).1 =
      .sent ⟨.ok ⟨continueHead, []⟩, some (0, Http.requestBytes upload upload.target)⟩ ∧
    0 ∈ ((s.step (.send upload goOn)).2.dispatcher.pool 0).idle := by
  have read : readResponse upload.method goOn.source =
      (.ok ⟨⟨continueHead, []⟩, true⟩, ⟨[], .failing .tryAgain⟩) := by decide +kernel
  have interim := (@parked_after_interim_iff ⟨⟨continueHead, []⟩, true⟩ rfl).2 "d.sock" .standard
    (.listening daemonPlace) [] upload goOn ⟨1, 0, false⟩ ⟨[], .failing .tryAgain⟩
  generalize first : (start _ _).run [] = s at interim ⊢
  have lent : s.lendFor upload = .ok ⟨1, 0, false⟩ := by
    rw [← first]
    decide +kernel
  have known : (s.dispatcher.lookup (Dispatcher.poolKey upload.uri) s.world).1 = 0 ∧
      (s.dispatcher.lenderFor upload s.world).lent = (s.dispatcher.pool 0).lent ++ [⟨1, 0, false, true⟩] := by
    rw [← first]
    decide +kernel
  obtain ⟨found, listed⟩ := known
  obtain ⟨answered, loan, listed', -, parks⟩ := interim lent read
  rw [found] at listed' parks
  obtain rfl : loan = ⟨1, 0, false, true⟩ := by simpa [listed] using listed'.symm
  refine ⟨rfl, lent, read, answered, parks.mpr ⟨rfl, ?_, goOn.data, ?_, List.prefix_rfl, ?_⟩⟩
  · exact Http.keepsAlive_iff.mp (by decide +kernel)
  · exact ⟨by decide +kernel, by decide +kernel⟩
  · exact ⟨[], goOn.data, [], 1, rfl, by decide +kernel, Nat.one_pos, by decide +kernel⟩

/-- Another request may follow a response that is not the final one: the final one is still to come, and a dispatcher
lends the connection to the next request. -/
theorem interim_response_parks :
    (¬ ∀ (method : Http.Method) (pieces : List Bytes) (ending : Ending) (exchange : Http.Exchange) (rest : Source),
      readResponse method (.inPieces pieces ending) = (.ok exchange, rest) → exchange.reusable = true →
        exchange.response.head.status.isInformational = false) ∧
    let s := start (.create "d.sock" .standard) (.listening daemonPlace)
    s.lendFor upload = .ok ⟨1, 0, false⟩ ∧ (s.step (.send upload goOn)).2.lendFor upload = .ok ⟨2, 0, false⟩ := by
  refine ⟨fun final => ?_, by decide +kernel⟩
  have isFinal := final upload.method
    [goOn.data, Text.encode "HTTP/1.1 200 OK\r\nContent-Length: 2\r\n\r\nOK"] .closed ⟨⟨continueHead, []⟩, true⟩
    (.inPieces [Text.encode "HTTP/1.1 200 OK\r\nContent-Length: 2\r\n\r\nOK"] .closed) (by decide +kernel) rfl
  exact absurd isFinal (by decide)

end EngineClient.DispatchSession
