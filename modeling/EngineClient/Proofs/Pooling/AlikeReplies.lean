import EngineClient.Proofs.Http.Lockstep
import EngineClient.Proofs.Http.StatusDigits
import EngineClient.Proofs.Pooling.Lending
import EngineClient.Proofs.Pooling.OwnReply
/-!
# Replies that leave the same behind

What a response says in the digits of its status and in the content of a body of some length is no matter to the pools:
two replies that differ in nothing else (`Http.Alike`) leave all pools in the same state, and all connections but for
bytes on one that is closed (`Dispatcher.send_alike`).
-/

namespace EngineClient

open Dispatcher (leavesReusable)

theorem Source.allBytes_inPieces (pieces : List Bytes) (ending : Ending) :
    (inPieces pieces ending).allBytes = pieces.flatten := by
  rw [allBytes_eq, inPieces_stream, List.append_nil]

namespace Http

/-- Streams with a response that differ in the digits of the status alone, of which neither is one of a response without
a body, and in the content of a body whose length is announced. -/
inductive Alike (method : Method) : Bytes → Bytes → Prop
  | digits {front rest : Bytes} {status status' : Status} (starts : StatusFront front) (bodied : status.Bodied)
      (bodied' : status'.Bodied) : Alike method (front ++ (status.digits ++ rest)) (front ++ (status'.digits ++ rest))
  | content {front middle body body' rest surplus : Bytes} {status status' : Status} {head : Head} {length : Nat}
      (starts : StatusFront front) (bodied : status.Bodied) (bodied' : status'.Bodied)
      (isLead : Lead (front ++ (status.digits ++ middle)))
      (parsed : Head.parse (front ++ (status.digits ++ middle)) = .ok (head, surplus))
      (framed : framing method head = .ok (.length length)) (same : body.length = body'.length)
      (inside : body.length ≤ length) :
      Alike method (front ++ (status.digits ++ middle) ++ (body ++ rest))
        (front ++ (status'.digits ++ middle) ++ (body' ++ rest))

/-- Readings after which another request may follow on both connections, with the same bytes still to come, or on
neither. -/
def SameUse (read read' : Except TransportError Exchange × Source) : Prop :=
  leavesReusable read.1 = leavesReusable read'.1 ∧
    (leavesReusable read.1 = true → read.2.allBytes = read'.2.allBytes)

/-- Readings of two bodies that both fail, or both take bytes beyond, or both do not and leave the same. -/
def SameBody (read read' : Except TransportError (Bytes × Bool) × Source) : Prop :=
  (∃ error error' rest rest', read = (.error error, rest) ∧ read' = (.error error', rest')) ∨
  ∃ body body' exact rest rest', read = (.ok (body, exact), rest) ∧ read' = (.ok (body', exact), rest') ∧
    (exact = true → rest.allBytes = rest'.allBytes)

theorem SameBody.refl (read : Except TransportError (Bytes × Bool) × Source) : SameBody read read := by
  obtain ⟨result, rest⟩ := read
  cases result with
  | error error => exact .inl ⟨error, error, rest, rest, rfl, rfl⟩
  | ok found => exact .inr ⟨found.1, found.1, found.2, rest, rest, rfl, rfl, fun _ => rfl⟩

section
variable {method : Method} {source source' rest rest' : Source} {lead lead' leftover leftover' : Bytes}

theorem sameUse_of_errors {read read' : Except TransportError Exchange × Source} {error error' : TransportError}
    (failed : read.1 = .error error) (failed' : read'.1 = .error error') : SameUse read read' := by
  rw [SameUse, failed, failed']
  refine ⟨rfl, ?_⟩
  intro reusable
  cases reusable

theorem sameUse_of_headless {error error' : TransportError} (failed : (readHead source).1 = .error error)
    (failed' : (readHead source').1 = .error error') : SameUse (readResponse method source) (readResponse method source') := by
  have fails {source : Source} {error : TransportError} (failed : (readHead source).1 = .error error) :
      (readResponse method source).1 = .error error := by
    rw [readResponse]
    generalize readHead source = read at failed ⊢
    obtain ⟨result, rest⟩ := read
    cases failed
    rfl
  exact sameUse_of_errors (fails failed) (fails failed')

theorem sameUse_of_garbled {fault fault' : ResponseFault} (found : readHead source = (.ok (lead, leftover), rest))
    (found' : readHead source' = (.ok (lead', leftover'), rest')) (garbled : Head.parse lead = .error fault)
    (garbled' : Head.parse lead' = .error fault') : SameUse (readResponse method source) (readResponse method source') := by
  have fails {source rest : Source} {lead leftover : Bytes} {fault : ResponseFault}
      (found : readHead source = (.ok (lead, leftover), rest)) (garbled : Head.parse lead = .error fault) :
      (readResponse method source).1 = .error (.protocol fault) := by
    simp only [readResponse, found, garbled]
  exact sameUse_of_errors (fails found garbled) (fails found' garbled')

/-- Where two heads differ in the status alone, the bodies decide. -/
theorem sameUse_of_bodies {status status' : Status} {version : Version} {headers : Headers} {surplus surplus' : Bytes}
    (bodied : status.Bodied) (bodied' : status'.Bodied) (found : readHead source = (.ok (lead, leftover), rest))
    (found' : readHead source' = (.ok (lead', leftover'), rest'))
    (parsed : Head.parse lead = .ok (⟨version, status, headers⟩, surplus))
    (parsed' : Head.parse lead' = .ok (⟨version, status', headers⟩, surplus'))
    (bodies : ∀ form, framing method ⟨version, status, headers⟩ = .ok form →
      SameBody (readBody form leftover rest) (readBody form leftover' rest')) :
    SameUse (readResponse method source) (readResponse method source') := by
  have framed' := framing_bodied bodied bodied' method version headers
  cases framed : framing method ⟨version, status, headers⟩ with
  | error fault =>
    rw [framed] at framed'
    have failed : (readResponse method source).1 = .error (.protocol fault) := by
      simp only [readResponse, found, parsed, framed]
    have failed' : (readResponse method source').1 = .error (.protocol fault) := by
      simp only [readResponse, found', parsed', ← framed']
    exact sameUse_of_errors failed failed'
  | ok form =>
    rw [framed] at framed'
    rcases bodies form framed with
      ⟨error, error', after, after', read, read'⟩ | ⟨body, body', exact, after, after', read, read', same⟩
    · have failed : (readResponse method source).1 = .error error := by
        simp only [readResponse, found, parsed, framed, read]
      have failed' : (readResponse method source').1 = .error error' := by
        simp only [readResponse, found', parsed', ← framed', read']
      exact sameUse_of_errors failed failed'
    · simp only [SameUse, readResponse, found, found', parsed, parsed', framed, ← framed', read, read', leavesReusable]
      refine ⟨rfl, ?_⟩
      intro reusable
      exact same (Bool.and_eq_true_iff.mp reusable).1

/-- Bodies of a length that is announced leave the same behind where what follows them is the same. -/
theorem sameBody_of_length {pieces pieces' : List Bytes} (shaped : Shaped pieces pieces') (ending : Ending)
    (lengths : leftover.length = leftover'.length) {length : Nat} {body body' more : Bytes}
    (bytes : leftover ++ pieces.flatten = body ++ more) (bytes' : leftover' ++ pieces'.flatten = body' ++ more)
    (same : body.length = body'.length) (inside : body.length ≤ length) :
    SameBody (readBody (.length length) leftover (.inPieces pieces ending))
      (readBody (.length length) leftover' (.inPieces pieces' ending)) := by
  rcases readBody_length_shaped ending length lengths shaped with
    failed | ⟨found, found', exact, rest, rest', read, read', taken⟩
  · exact .inl failed
  · right
    refine ⟨found, found', exact, _, _, read, read', ?_⟩
    intro whole
    obtain ⟨enough, equal, parts, parts'⟩ := taken whole
    have behind {front found more rest : Bytes} (parts : front ++ more = found ++ rest) (within : front.length ≤ found.length) :
        rest = more.drop (found.length - front.length) := by
      have dropped := congrArg (List.drop found.length) parts
      rw [List.drop_left, List.drop_append, List.drop_of_length_le within, List.nil_append] at dropped
      exact dropped.symm
    rw [Source.allBytes_inPieces, Source.allBytes_inPieces, behind (bytes.symm.trans parts) (inside.trans enough),
      behind (bytes'.symm.trans parts') (by omega), same, equal]

end

/-- What was read of a head in one piece, and what is left of the piece. -/
private theorem parts_of_head {data lead leftover : Bytes} {after : List Bytes} {ending : Ending}
    (found : readHead (.inPieces [data] ending) = (.ok (lead, leftover), .inPieces after ending)) :
    Lead lead ∧ lead ++ (leftover ++ after.flatten) = data := by
  obtain ⟨isLead, same⟩ := readHead_sound found
  have bytes := congrArg Stream.bytes same
  rw [Source.inPieces_stream, Source.inPieces_stream, List.flatten_singleton, Stream.prepend_bytes, List.append_assoc] at bytes
  exact ⟨isLead, bytes.symm⟩

/-- Every stream that is read as a response starts with the digits of its status. -/
theorem exists_statusFront {method : Method} {data : Bytes} {ending : Ending} {exchange : Exchange} {rest : Source}
    (read : readResponse method (.ofBytes data ending) = (.ok exchange, rest)) :
    ∃ front more, StatusFront front ∧ data = front ++ (exchange.response.head.status.digits ++ more) := by
  obtain ⟨lead, leftover, middle, surplus, form, exact, found, parsed, -⟩ := readResponse_cases read
  obtain ⟨-, same⟩ := readHead_sound found
  have bytes : data = lead ++ leftover ++ middle.stream.bytes := by
    have bytes := congrArg Stream.bytes same
    have pieces := congrArg Stream.bytes (Source.inPieces_stream [data] ending)
    rw [List.flatten_singleton] at pieces
    exact pieces.symm.trans bytes
  obtain ⟨front, more, starts, rfl⟩ := Head.parse_front parsed
  refine ⟨front, more ++ (leftover ++ middle.stream.bytes), starts, ?_⟩
  simp only [bytes, List.append_assoc]

section
variable {method : Method} {front rest : Bytes} {status status' : Status} (starts : StatusFront front)
  (bodied : status.Bodied) (bodied' : status'.Bodied) (ending : Ending)
include starts bodied bodied'

private theorem readResponse_digits :
    SameUse (readResponse method (.inPieces [front ++ (status.digits ++ rest)] ending))
      (readResponse method (.inPieces [front ++ (status'.digits ++ rest)] ending)) := by
  have size := bodied.length_digits
  have size' := bodied'.length_digits
  have shaped : Shaped [front ++ (status.digits ++ rest)] [front ++ (status'.digits ++ rest)] := by
    refine .cons ?_ .nil
    simp only [List.length_append, size, size']
  have ends := headEnd_digits bodied bodied' front rest
  rcases readHead_shaped ending shaped (by simpa using ends) with
    ⟨error, after, after', failed, failed'⟩ |
    ⟨lead, lead', leftover, leftover', after, after', found, found', long, more, shaped'⟩
  · exact sameUse_of_headless (congrArg Prod.fst failed) (congrArg Prod.fst failed')
  · obtain ⟨isLead, bytes⟩ := parts_of_head found
    obtain ⟨isLead', bytes'⟩ := parts_of_head found'
    -- The heads have the same length, so both go beyond the digits or neither does.
    rcases isLead.digits_cases starts bodied bytes with ⟨short, fault, garbled⟩ | ⟨middle, rfl, rfl⟩ <;>
      rcases isLead'.digits_cases starts bodied' bytes' with ⟨short', fault', garbled'⟩ | ⟨middle', rfl, behind⟩
    · exact sameUse_of_garbled found found' garbled garbled'
    · have within := short.length_le
      simp only [List.length_append] at long
      omega
    · have within := short'.length_le
      simp only [List.length_append] at long
      omega
    · simp only [List.length_append] at long
      obtain ⟨rfl, tails⟩ := List.append_inj behind (by omega)
      obtain ⟨rfl, left⟩ := List.append_inj tails more
      obtain rfl := shaped'.eq_of_flatten left
      rcases Head.parse_digits starts middle with ⟨fault, garbled⟩ | ⟨version, headers, surplus, parsed⟩
      · exact sameUse_of_garbled found found' (garbled status bodied) (garbled status' bodied')
      · exact sameUse_of_bodies bodied bodied' found found' (parsed status bodied) (parsed status' bodied')
          fun form _ => .refl _

private theorem readResponse_content {middle body body' surplus : Bytes} {head : Head} {length : Nat}
    (isLead : Lead (front ++ (status.digits ++ middle)))
    (parsed : Head.parse (front ++ (status.digits ++ middle)) = .ok (head, surplus))
    (framed : framing method head = .ok (.length length)) (same : body.length = body'.length)
    (inside : body.length ≤ length) :
    SameUse (readResponse method (.inPieces [front ++ (status.digits ++ middle) ++ (body ++ rest)] ending))
      (readResponse method (.inPieces [front ++ (status'.digits ++ middle) ++ (body' ++ rest)] ending)) := by
  have isLead' := isLead.digits bodied bodied'
  have size : (front ++ (status.digits ++ middle)).length = (front ++ (status'.digits ++ middle)).length := by
    simp only [List.length_append, bodied.length_digits, bodied'.length_digits]
  have shaped : Shaped [front ++ (status.digits ++ middle) ++ (body ++ rest)]
      [front ++ (status'.digits ++ middle) ++ (body' ++ rest)] := by
    refine .cons ?_ .nil
    simp only [List.length_append, bodied.length_digits, bodied'.length_digits, same]
  have ends : headEnd [front ++ (status.digits ++ middle) ++ (body ++ rest)].flatten =
      headEnd [front ++ (status'.digits ++ middle) ++ (body' ++ rest)].flatten := by
    rw [List.flatten_singleton, List.flatten_singleton, headEnd_append isLead, headEnd_append isLead', size]
  rcases readHead_shaped ending shaped ends with
    ⟨error, after, after', failed, failed'⟩ |
    ⟨lead, lead', leftover, leftover', after, after', found, found', long, more, shaped'⟩
  · exact sameUse_of_headless (congrArg Prod.fst failed) (congrArg Prod.fst failed')
  · obtain ⟨isFound, bytes⟩ := parts_of_head found
    obtain ⟨isFound', bytes'⟩ := parts_of_head found'
    obtain ⟨rfl, tail⟩ := isFound.unique isLead bytes
    obtain ⟨rfl, tail'⟩ := isFound'.unique isLead' bytes'
    rcases Head.parse_digits starts middle with ⟨fault, garbled⟩ | ⟨version, headers, surplus', reads⟩
    · exact sameUse_of_garbled found found' (garbled status bodied) (garbled status' bodied')
    · obtain ⟨rfl, rfl⟩ : head = ⟨version, status, headers⟩ ∧ surplus = surplus' := by
        simpa using parsed.symm.trans (reads status bodied)
      refine sameUse_of_bodies bodied bodied' found found' (reads status bodied) (reads status' bodied') ?_
      intro form framed'
      obtain rfl : Framing.length length = form := Except.ok.inj (framed.symm.trans framed')
      exact sameBody_of_length shaped' ending more tail tail' same inside

end

/-- Another request may follow on both connections or on neither, and where it may the same bytes are still to come. -/
theorem readResponse_alike {method : Method} {data data' : Bytes} (alike : Alike method data data') (ending : Ending) :
    SameUse (readResponse method (.ofBytes data ending)) (readResponse method (.ofBytes data' ending)) := by
  cases alike with
  | digits starts bodied bodied' => exact readResponse_digits starts bodied bodied' ending
  | content starts bodied bodied' isLead parsed framed same inside =>
    exact readResponse_content starts bodied bodied' ending isLead parsed framed same inside

end Http

/-! ## Requests -/

/-- A connection with other bytes that the program has not read. -/
def Channel.withUnread (unread : Bytes) (c : Channel) : Channel := { c with toProgram := unread }

namespace World

/-- Worlds that are the same, but for the bytes that were not read of one connection, which is closed. -/
def SameButUnread (w w' : World) : Prop :=
  w' = w ∨ ∃ c unread, (w.channel c).held = false ∧ w' = w.change c (.withUnread unread)

theorem change_withUnread_drop (w : World) (c : Nat) (unread : Bytes) :
    (w.change c (.withUnread unread)).change c .drop = (w.change c .drop).change c (.withUnread unread) := by
  simp only [change, List.modify_modify_eq]
  rfl

theorem held_change_drop (w : World) (c : Nat) : ((w.change c .drop).channel c).held = false := by
  rw [channel_change]
  split
  · rfl
  · rename_i outside
    have unmade : w.channels.length ≤ c := by simpa using outside
    rw [channel_of_le unmade]
    rfl

end World

/-- What is left of a broken connection is closed, and so are bytes that were not read. -/
theorem Pool.release_alike (pool : Pool) {guard : Guard} {w w' : World}
    (left : w' = w ∨ guard.broken = true ∧ ∃ unread, w' = w.change guard.channel (.withUnread unread)) :
    (pool.release guard w').1 = (pool.release guard w).1 ∧ (pool.release guard w).2.SameButUnread (pool.release guard w').2 := by
  rcases left with rfl | ⟨broken, unread, rfl⟩
  · exact ⟨rfl, .inl rfl⟩
  · have drops (w : World) : (pool.release guard w).2 = w.change guard.channel .drop := by
      unfold release
      split
      · rfl
      · rw [if_pos (by simp [broken])]
    refine ⟨?_, .inr ⟨guard.channel, unread, ?_, ?_⟩⟩
    · unfold release
      split
      · rfl
      · rw [if_pos (by simp [broken]), if_pos (by simp [broken])]
    · rw [drops]
      exact w.held_change_drop guard.channel
    · rw [drops, drops, World.change_withUnread_drop]

namespace Dispatcher

theorem write_toProgram {c sent : Channel} {data : Bytes} (wrote : c.write data = .ok sent) :
    sent.toProgram = c.toProgram := by
  unfold Channel.write at wrote
  split at wrote
  · cases wrote
    rfl
  · split at wrote
    · cases wrote
      rfl
    · cases wrote

/-- An exchange over a connection that brought nothing before and could be written to. -/
theorem exchange_of_sent {w : World} {channel : Nat} {request : Http.Request} {sent : Channel}
    (none : (w.channel channel).toProgram = [])
    (wrote : (w.channel channel).write (Http.requestBytes request request.target) = .ok sent) (reply : Reply) :
    let read := Http.readResponse request.method
      (.ofBytes reply.data (if (answered sent reply).isOpen then .failing .tryAgain else .closed))
    exchange request reply channel w =
      (read.1, some (channel, sent.toPeer), w.change channel fun _ => (answered sent reply).withUnread read.2.allBytes) := by
  have fresh : (answered sent reply).toProgram = reply.data := by
    change sent.toProgram ++ reply.data = reply.data
    rw [write_toProgram wrote, none, List.nil_append]
  simp only [exchange, wrote, sourceOf, fresh]
  rfl

section
variable {request : Http.Request} {reply reply' : Reply} (close : reply'.close = reply.close)
  (alike : Http.Alike request.method reply.data reply'.data)
include close alike

/-- The same request with replies that are alike, over one connection. -/
theorem exchange_alike {channel : Nat} {w : World} (usable : (w.channel channel).isDropped = false) :
    let done := exchange request reply channel w
    let done' := exchange request reply' channel w
    leavesReusable done'.1 = leavesReusable done.1 ∧
      (done'.2.2 = done.2.2 ∨
        leavesReusable done.1 = false ∧ ∃ unread, done'.2.2 = done.2.2.change channel (.withUnread unread)) := by
  intro done done'
  have none : (w.channel channel).toProgram = [] := by
    simp only [Channel.isDropped, Bool.or_eq_false_iff, Bool.not_eq_false', List.isEmpty_iff] at usable
    exact usable.2
  cases wrote : (w.channel channel).write (Http.requestBytes request request.target) with
  | error cause =>
    have failed : done = (.error (.io cause), .none, w) := by
      simp only [done, exchange, wrote]
    have failed' : done' = (.error (.io cause), .none, w) := by
      simp only [done', exchange, wrote]
    rw [failed, failed']
    exact ⟨rfl, .inl rfl⟩
  | ok sent =>
    have isOpen : (answered sent reply').isOpen = (answered sent reply).isOpen := by
      simp only [answered, Channel.isOpen, close]
    obtain ⟨same, rest⟩ :=
      Http.readResponse_alike alike (if (answered sent reply).isOpen then .failing .tryAgain else .closed)
    have read : done = _ := exchange_of_sent none wrote reply
    have read' : done' = _ := exchange_of_sent none wrote reply'
    rw [isOpen] at read'
    rw [read, read']
    refine ⟨same.symm, ?_⟩
    generalize Http.readResponse request.method (.ofBytes reply.data _) = first at same rest ⊢
    generalize Http.readResponse request.method (.ofBytes reply'.data _) = second at same rest ⊢
    have unread (bytes : Bytes) : (answered sent reply').withUnread bytes = (answered sent reply).withUnread bytes := by
      simp only [Channel.withUnread, answered, close]
    simp only [unread]
    cases reusable : leavesReusable first.1 with
    | true => exact .inl (by rw [rest reusable])
    | false =>
      refine .inr ⟨rfl, second.2.allBytes, ?_⟩
      simp only [World.change, List.modify_modify_eq]
      rfl

/-- Replies that are alike leave the pools the same, and the world but for bytes that were not read. -/
theorem send_alike (d : Dispatcher) (w : World) :
    (d.send request reply' w).2.1 = (d.send request reply w).2.1 ∧
      (d.send request reply w).2.2.SameButUnread (d.send request reply' w).2.2 := by
  rw [send, send]
  generalize d.lookup (poolKey request.uri) w = looked
  obtain ⟨i, d', w'⟩ := looked
  simp only
  rcases acquired : (d'.pool i).acquire w' with ⟨result, pool, lentWorld⟩
  cases result with
  | error error => exact ⟨rfl, .inl rfl⟩
  | ok guard =>
    simp only
    have usable := Pool.acquire_lends acquired
    obtain ⟨same, left⟩ := exchange_alike close alike usable
    generalize exchange request reply guard.channel lentWorld = done at same left ⊢
    generalize exchange request reply' guard.channel lentWorld = done' at same left ⊢
    obtain ⟨result, received, after⟩ := done
    obtain ⟨result', received', after'⟩ := done'
    have alikeAfter : after' = after ∨ (!leavesReusable result) = true ∧
        ∃ unread, after' = after.change guard.channel (.withUnread unread) := by
      simpa using left
    have pools := @Pool.release_alike pool { guard with broken := !leavesReusable result } after after' alikeAfter
    change d'.setPool i (pool.release { guard with broken := !leavesReusable result' } after').1 =
        d'.setPool i (pool.release { guard with broken := !leavesReusable result } after).1 ∧
      (pool.release { guard with broken := !leavesReusable result } after).2.SameButUnread
        (pool.release { guard with broken := !leavesReusable result' } after').2
    have verdict : leavesReusable result' = leavesReusable result := same
    rw [verdict]
    exact ⟨congrArg (d'.setPool i) pools.1, pools.2⟩

end

end Dispatcher

end EngineClient
