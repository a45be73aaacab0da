import EngineClient.Proofs.Http.ChunkedCoding
import EngineClient.Proofs.Http.HeadReading
/-!
# Messages

The bytes of a response (`Message`): a head, and a body as its framing tells. The reader answers with a
message its source begins with and says whether it took more (`readResponse_sound`), and a source that
begins with a message is answered with it (`answer_complete`). How much the reads of chunks ask for does not
change the answer (`readResponse_response`).
-/

namespace EngineClient.Http

/-- The bytes that carry a body under a framing. Where the end of the stream cuts them short or ends them,
`cut` is true. -/
inductive Carries : Framing → (cut : Bool) → (wire body : Bytes) → Prop
  | none : Carries .none false [] []
  | chunked {cut : Bool} {wire body : Bytes} (coded : Chunked.Coded cut 0 wire body) :
      Carries .chunked cut wire body
  | length {length : Nat} {body : Bytes} (exact : body.length = length) : Carries (.length length) false body body
  | toEnd (body : Bytes) : Carries .toEnd true body body

/-- The bytes of the response to a request of this method. -/
inductive Message (method : Method) (form : Framing) (cut : Bool) : Bytes → Response → Prop
  | mk {lead surplus wire body : Bytes} {head : Head} (isLead : Lead lead)
      (parsed : Head.parse lead = .ok (head, surplus)) (framed : framing method head = .ok form)
      (carried : Carries form cut wire body) : Message method form cut (lead ++ wire) ⟨head, body⟩

section
variable {method : Method} {form : Framing} {cut : Bool} {wire : Bytes} {response : Response}

theorem Message.framed (message : Message method form cut wire response) :
    framing method response.head = .ok form := by
  obtain ⟨-, -, framed, -⟩ := message
  exact framed

theorem Message.parts (message : Message method form cut wire response) :
    ∃ lead surplus body, Lead lead ∧ Head.parse lead = .ok (response.head, surplus) ∧ wire = lead ++ body ∧
      Carries form cut body response.body := by
  obtain ⟨isLead, parsed, -, carried⟩ := message
  exact ⟨_, _, _, isLead, parsed, rfl, carried⟩

/-- The messages that the same bytes begin with have one head, and their bodies are framed alike. -/
theorem Message.sameHead {form' : Framing} {cut' : Bool} {wire' rest rest' : Bytes} {response' : Response}
    (message : Message method form cut wire response) (message' : Message method form' cut' wire' response')
    (same : wire ++ rest = wire' ++ rest') :
    response.head = response'.head ∧ form = form' ∧
    ∃ lead body body', Lead lead ∧ wire = lead ++ body ∧ wire' = lead ++ body' ∧
      Carries form cut body response.body ∧ Carries form cut' body' response'.body := by
  obtain ⟨lead, _, body, isLead, parsed, rfl, carried⟩ := message.parts
  obtain ⟨lead', _, body', isLead', parsed', rfl, carried'⟩ := message'.parts
  rw [List.append_assoc, List.append_assoc] at same
  obtain ⟨rfl, -⟩ := isLead.unique isLead' same
  rw [parsed, Except.ok.injEq, Prod.mk.injEq] at parsed'
  have framed := message.framed
  rw [parsed'.1, message'.framed] at framed
  cases framed
  exact ⟨parsed'.1, rfl, lead, body, body', isLead, rfl, rfl, carried, carried'⟩

end

/-! ## Where a message ends -/

private theorem coded_prefixFree {cut : Bool} {wire more body body' : Bytes} (whole : Chunked.Coded false 0 wire body)
    (longer : Chunked.Coded cut 0 (wire ++ more) body') : more = [] := by
  -- The reader takes one coding, and what it leaves tells which.
  let intake : Intake := { buffer := wire ++ more, source := ⟨[], .closed⟩ }
  have both : intake.stream.Takes (wire ++ more) cut ⟨[], .closed, []⟩ :=
    ⟨by simp [intake, Intake.stream, Source.stream, Source.streamFrom, Stream.prepend], by simp⟩
  obtain ⟨rest, read, same⟩ := Chunked.read_complete whole both.first
  obtain ⟨rest', read', same'⟩ := Chunked.read_complete longer both
  rw [read] at read'
  simp only [Prod.mk.injEq] at read'
  rw [read'.2, same'] at same
  simpa using (congrArg Stream.bytes same).symm

theorem Carries.prefixFree {form : Framing} {cut : Bool} {wire more body body' : Bytes}
    (whole : Carries form false wire body) (longer : Carries form cut (wire ++ more) body') : more = [] := by
  cases whole with
  | none =>
    generalize all : [] ++ more = bytes at longer
    cases longer
    simpa using all
  | chunked coded =>
    cases longer with
    | chunked coded' => exact coded_prefixFree coded coded'
  | length exact =>
    generalize all : wire ++ more = bytes at longer
    cases longer with
    | length exact' =>
      rw [← all, List.length_append, exact] at exact'
      exact List.length_eq_zero_iff.mp (by omega)

/-- No message begins a longer one. -/
theorem Message.prefixFree {method : Method} {form form' : Framing} {cut : Bool} {wire more : Bytes}
    {response response' : Response} (whole : Message method form false wire response)
    (longer : Message method form' cut (wire ++ more) response') : more = [] := by
  obtain ⟨-, -, lead, body, body', -, rfl, parts, carried, carried'⟩ :=
    whole.sameHead longer (List.append_nil (wire ++ more)).symm
  rw [List.append_assoc, List.append_cancel_left_eq] at parts
  exact carried.prefixFree (parts ▸ carried')

/-! ## The reader of bodies -/

/-- The reader takes the bytes of a body, and tells whether it took no more. -/
theorem readBody_sound {form : Framing} {leftover body : Bytes} {exact : Bool} {source rest : Source}
    {appetite : Appetite} (read : readBody form leftover source appetite = (.ok (body, exact), rest)) :
    ∃ cut wire surplus, Carries form cut wire body ∧
      (source.stream.prepend leftover).Takes wire cut (rest.stream.prepend surplus) ∧
      (exact = true ↔ form ≠ .toEnd ∧ surplus = []) := by
  cases form with
  | none =>
    simp only [readBody, Prod.mk.injEq, Except.ok.injEq] at read
    obtain ⟨⟨rfl, rfl⟩, rfl⟩ := read
    exact ⟨false, [], leftover, .none, .of_eq (by simp), by simp⟩
  | chunked =>
    simp only [readBody] at read
    split at read
    · rename_i body' intake found
      simp only [Prod.mk.injEq, Except.ok.injEq] at read
      obtain ⟨⟨rfl, rfl⟩, rfl⟩ := read
      obtain ⟨cut, wire, coded, takes⟩ := Chunked.read_sound found
      exact ⟨cut, wire, intake.buffer, .chunked coded, takes, by simp⟩
    · simp at read
  | length length =>
    simp only [readBody] at read
    split_ifs at read with less
    · simp only [Prod.mk.injEq, Except.ok.injEq] at read
      obtain ⟨⟨rfl, rfl⟩, rfl⟩ := read
      refine ⟨false, _, leftover.drop length, .length (by simp; omega), .of_eq (by simp), ?_⟩
      simp
      omega
    · rcases Stream.outcome_cases (source.gather_outcome (Nat.le_of_not_lt less)) with
        ⟨cause, next, found, -⟩ | ⟨body', next, found, block⟩
      · simp [found] at read
      · simp only [found] at read
        split_ifs at read with short
        · simp at read
        · simp only [Prod.mk.injEq, Except.ok.injEq] at read
          obtain ⟨⟨rfl, rfl⟩, rfl⟩ := read
          rcases Stream.block_eq_ok_iff.mp block with ⟨exact, takes⟩ | ⟨less', -⟩
          · exact ⟨false, body', [], .length exact, takes, by simp⟩
          · omega
  | toEnd =>
    simp only [readBody] at read
    rcases Stream.outcome_cases (source.drain_outcome leftover) with ⟨cause, next, found, -⟩ | ⟨body', next, found, all⟩
    · simp [found] at read
    · simp only [found, Prod.mk.injEq, Except.ok.injEq] at read
      obtain ⟨⟨rfl, rfl⟩, rfl⟩ := read
      exact ⟨true, body', [], .toEnd body', Stream.all_eq_ok_iff.mp all, by simp⟩

/-- The reader answers with the body whose bytes its stream begins with. -/
theorem readBody_complete {form : Framing} {cut : Bool} {wire body : Bytes} (carried : Carries form cut wire body)
    {leftover : Bytes} {source : Source} {after : Stream}
    (takes : (source.stream.prepend leftover).Takes wire cut after) (appetite : Appetite) :
    ∃ exact rest, readBody form leftover source appetite = (.ok (body, exact), rest) := by
  cases carried with
  | none => exact ⟨_, _, rfl⟩
  | chunked coded =>
    have begins : (Intake.stream { buffer := leftover, source, appetite }).Takes wire cut after := takes
    obtain ⟨intake, read, -⟩ := Chunked.read_complete coded begins
    exact ⟨intake.buffer.isEmpty, intake.source, by simp only [readBody, read]⟩
  | length exact =>
    subst exact
    by_cases less : wire.length < leftover.length
    · obtain ⟨more, rfl⟩ : wire <+: leftover := by
        refine List.prefix_of_prefix_length_le ⟨after.bytes, ?_⟩ (List.prefix_append leftover source.stream.bytes)
          (by omega)
        exact (congrArg Stream.bytes takes.begins).symm
      refine ⟨false, source, ?_⟩
      simp only [readBody, if_pos less, List.take_left]
    · have block := (source.gather_outcome (Nat.le_of_not_lt less)).trans
        (Stream.block_eq_ok_iff.mpr (.inl ⟨rfl, takes⟩))
      obtain ⟨rest, found, -⟩ := Stream.outcome_eq_ok block
      refine ⟨true, rest, ?_⟩
      simp only [readBody, if_neg less, found, Nat.lt_irrefl, ↓reduceIte]
  | toEnd =>
    have all := (source.drain_outcome leftover).trans (Stream.all_eq_ok_iff.mpr takes)
    obtain ⟨rest, found, -⟩ := Stream.outcome_eq_ok all
    exact ⟨false, rest, by simp only [readBody, found]⟩

section
variable {leftover leftover' : Bytes} {source source' : Source}

private theorem gather_congr (same : source.stream.prepend leftover = source'.stream.prepend leftover') {length : Nat}
    (less : ¬ length < leftover.length) (less' : ¬ length < leftover'.length) :
    Stream.outcome Source.stream (source.gather leftover length) =
      Stream.outcome Source.stream (source'.gather leftover' length) := by
  rw [source.gather_outcome (Nat.le_of_not_lt less), source'.gather_outcome (Nat.le_of_not_lt less'), same]

/-- A body of which more than all came along with the head is found in every other cut of the stream. -/
private theorem readBody_surplus (same : source.stream.prepend leftover = source'.stream.prepend leftover')
    {length : Nat} (less : length < leftover.length) (appetite : Appetite) :
    (readBody (.length length) leftover' source' appetite).1.map (·.1) = .ok (leftover.take length) := by
  have carried : Carries (.length length) false (leftover.take length) (leftover.take length) :=
    .length (by simp; omega)
  have takes : (source'.stream.prepend leftover').Takes (leftover.take length) false
      (source.stream.prepend (leftover.drop length)) := .of_eq (by simp [← same])
  obtain ⟨exact, rest, read⟩ := readBody_complete carried takes appetite
  rw [read]
  rfl

/-- The body depends on the stream alone, and not on the appetite. -/
theorem readBody_congr (same : source.stream.prepend leftover = source'.stream.prepend leftover') (form : Framing)
    (appetite appetite' : Appetite) :
    (readBody form leftover source appetite).1.map (·.1) = (readBody form leftover' source' appetite').1.map (·.1) := by
  cases form with
  | none => rfl
  | chunked =>
    have reads := Chunked.read_congr (a := { buffer := leftover, source, appetite })
      (b := { buffer := leftover', source := source', appetite := appetite' }) same
    rcases Stream.outcome_congr_cases reads with
      ⟨error, intake, intake', read, read'⟩ | ⟨body, intake, intake', read, read', -⟩
    · simp [readBody, read, read', Except.map]
    · simp [readBody, read, read', Except.map]
  | length length =>
    by_cases less : length < leftover.length
    · rw [readBody_surplus same less, readBody_surplus rfl less]
    · by_cases less' : length < leftover'.length
      · rw [readBody_surplus same.symm less', readBody_surplus rfl less']
      · simp only [readBody, if_neg less, if_neg less']
        rcases Stream.outcome_congr_cases (gather_congr same less less') with
          ⟨cause, rest, rest', found, found'⟩ | ⟨body, rest, rest', found, found', -⟩
        · simp [found, found', Except.map]
        · simp only [found, found']
          split_ifs <;> rfl
  | toEnd =>
    have drains := (source.drain_outcome leftover).trans (same ▸ (source'.drain_outcome leftover').symm)
    rcases Stream.outcome_congr_cases drains with
      ⟨cause, rest, rest', found, found'⟩ | ⟨body, rest, rest', found, found', -⟩
    · simp [readBody, found, found', Except.map]
    · simp [readBody, found, found', Except.map]

end

/-! ## The reader of responses -/

/-- What the reader does when it answers. -/
theorem readResponse_cases {method : Method} {source rest : Source} {exchange : Exchange} {appetite : Appetite}
    (read : readResponse method source appetite = (.ok exchange, rest)) :
    ∃ lead leftover middle surplus form exact, readHead source = (.ok (lead, leftover), middle) ∧
      Head.parse lead = .ok (exchange.response.head, surplus) ∧
      framing method exchange.response.head = .ok form ∧
      readBody form leftover middle appetite = (.ok (exchange.response.body, exact), rest) ∧
      exchange.reusable = (exact && exchange.response.head.keepsAlive) := by
  rw [readResponse] at read
  split at read
  · simp at read
  · rename_i lead leftover middle found
    split at read
    · simp at read
    · rename_i head surplus parsed
      split at read
      · simp at read
      · rename_i form framed
        split at read
        · simp at read
        · rename_i body exact last carried
          simp only [Prod.mk.injEq, Except.ok.injEq] at read
          obtain ⟨rfl, rfl⟩ := read
          exact ⟨lead, leftover, middle, surplus, form, exact, found, parsed, framed, carried, rfl⟩

/-- The reader answers with a message, and the verdict of the body's reader counts. -/
theorem readResponse_sound {method : Method} {source rest : Source} {exchange : Exchange} {appetite : Appetite}
    (read : readResponse method source appetite = (.ok exchange, rest)) :
    ∃ form cut wire surplus, Message method form cut wire exchange.response ∧
      source.stream.Takes wire cut (rest.stream.prepend surplus) ∧
      (exchange.reusable = true ↔
        exchange.response.head.keepsAlive = true ∧ form ≠ .toEnd ∧ surplus = []) := by
  obtain ⟨lead, leftover, middle, _, form, exact, found, parsed, framed, carried, reusable⟩ := readResponse_cases read
  obtain ⟨isLead, bytes⟩ := readHead_sound found
  obtain ⟨cut, wire, surplus, carries, takes, verdict⟩ := readBody_sound carried
  have first : source.stream.Takes lead false (middle.stream.prepend leftover) :=
    .of_eq (by rw [bytes, Stream.prepend_prepend])
  refine ⟨form, cut, lead ++ wire, surplus, .mk isLead parsed framed carries, first.append takes, ?_⟩
  rw [reusable, Bool.and_eq_true, verdict]
  exact And.comm

/-- What the reader answers, whether or not another request may follow on the connection. -/
def answer (method : Method) (source : Source) : Except TransportError Response :=
  (readResponse method source).1.map (·.response)

/-- The response that is read does not depend on the appetite, though the verdict does. -/
theorem readResponse_response (method : Method) (source : Source) (appetite : Appetite) :
    (readResponse method source appetite).1.map (·.response) = answer method source := by
  rw [answer, readResponse, readResponse]
  rcases readHead source with ⟨_ | ⟨lead, leftover⟩, rest⟩
  · rfl
  · simp only
    cases Head.parse lead with
    | error fault => rfl
    | ok parsed =>
      cases framed : framing method parsed.1 with
      | error fault => simp only [framed]
      | ok form =>
        have bodies : (readBody form leftover rest appetite).1.map (·.1) = (readBody form leftover rest).1.map (·.1) :=
          readBody_congr rfl form appetite .standard
        simp only [framed]
        revert bodies
        rcases readBody form leftover rest appetite with ⟨_ | read, last⟩ <;>
          rcases readBody form leftover rest with ⟨_ | read', last'⟩ <;> simp +contextual [Except.map]

/-- What the reader answers once it has read a head. -/
def answerAfter (method : Method) (lead leftover : Bytes) (source : Source) : Except TransportError Response :=
  match Head.parse lead with
  | .error fault => .error (.protocol fault)
  | .ok (head, _) =>
    match framing method head with
    | .error fault => .error (.protocol fault)
    | .ok form => (readBody form leftover source).1.map fun read => ⟨head, read.1⟩

private theorem answer_of_head {method : Method} {source rest : Source} {lead leftover : Bytes}
    (found : readHead source = (.ok (lead, leftover), rest)) :
    answer method source = answerAfter method lead leftover rest := by
  rw [answer, readResponse, answerAfter]
  simp only [found]
  cases Head.parse lead with
  | error fault => rfl
  | ok parsed =>
    cases framed : framing method parsed.1 with
    | error fault => simp only [framed]; rfl
    | ok form =>
      simp only [framed]
      obtain ⟨result, last⟩ := readBody form leftover rest
      cases result <;> rfl

theorem answer_of_headless {method : Method} {source : Source} {error : TransportError}
    (failed : (readHead source).1 = .error error) : answer method source = .error error := by
  rw [answer, readResponse]
  generalize readHead source = read at failed ⊢
  obtain ⟨result, rest⟩ := read
  simp only at failed
  simp only [failed]
  rfl

private theorem answerAfter_congr {leftover leftover' : Bytes} {source source' : Source}
    (same : source.stream.prepend leftover = source'.stream.prepend leftover') (method : Method) (lead : Bytes) :
    answerAfter method lead leftover source = answerAfter method lead leftover' source' := by
  rw [answerAfter, answerAfter]
  cases Head.parse lead with
  | error fault => rfl
  | ok parsed =>
    cases framed : framing method parsed.1 with
    | error fault => simp only [framed]
    | ok form =>
      have bodies := congrArg (Except.map (Response.mk parsed.1)) (readBody_congr same form .standard .standard)
      simp only [framed]
      revert bodies
      cases (readBody form leftover source).1 <;> cases (readBody form leftover' source').1 <;> simp [Except.map]

section
variable {pieces : List Bytes}

/-- The answer to a stream that begins with a head is that of the body's reader on what follows, in any
pieces, unless the head is too long. -/
theorem answer_lead (method : Method) (ending : Ending) {lead rest : Bytes} (isLead : Lead lead) (bytes : pieces.flatten = lead ++ rest) :
    answer method (.inPieces pieces ending) = answerAfter method lead [] (.inPieces [rest] ending) ∨
    (headLimit < lead.length ∧ answer method (.inPieces pieces ending) = .error (.protocol .headTooLong)) := by
  rcases readHead_lead ending isLead bytes with ⟨leftover, pieces', parts, found⟩ | ⟨long, failed⟩
  · refine .inl ((answer_of_head found).trans (answerAfter_congr ?_ method lead))
    simp [Source.inPieces_stream, Stream.prepend, parts]
  · exact .inr ⟨long, answer_of_headless failed⟩

/-- An answer is a message that the stream begins with. -/
theorem answer_sound {method : Method} {ending : Ending} {response : Response}
    (answered : answer method (.inPieces pieces ending) = .ok response) :
    ∃ form cut wire rest, Message method form cut wire response ∧ pieces.flatten = wire ++ rest ∧
      (cut = true → rest = []) := by
  rcases read : readResponse method (.inPieces pieces ending) with ⟨result, after⟩
  rw [answer, read] at answered
  cases result with
  | error => contradiction
  | ok exchange =>
    cases answered
    obtain ⟨form, cut, wire, surplus, message, takes, -⟩ := readResponse_sound read
    refine ⟨form, cut, wire, surplus ++ after.stream.bytes, message, ?_, fun isCut => (takes.ends isCut).1⟩
    have bytes := congrArg Stream.bytes takes.begins
    rwa [Source.inPieces_stream] at bytes

/-- The reader answers with the message its stream begins with, unless the head is too long. -/
theorem answer_complete {method : Method} (ending : Ending) {form : Framing} {cut : Bool} {wire more : Bytes}
    {response : Response} (message : Message method form cut wire response) (bytes : pieces.flatten = wire ++ more)
    (ends : cut = true → more = [] ∧ ending = .closed) :
    answer method (.inPieces pieces ending) = .ok response ∨
    (∃ lead, Lead lead ∧ lead <+: wire ∧ headLimit < lead.length ∧
      answer method (.inPieces pieces ending) = .error (.protocol .headTooLong)) := by
  obtain ⟨isLead, parsed, framed, carried⟩ := message
  rename_i lead _ wire body head
  rcases answer_lead method ending isLead (bytes.trans (List.append_assoc ..)) with
    answered | ⟨long, failed⟩
  · have takes : ((Source.inPieces [wire ++ more] ending).stream.prepend []).Takes wire cut ⟨more, ending, []⟩ :=
      ⟨by simp [Source.inPieces_stream, Stream.prepend], ends⟩
    obtain ⟨exact, rest, read⟩ := readBody_complete carried takes .standard
    rw [answered, answerAfter]
    simp only [parsed, framed, read]
    exact .inl rfl
  · exact .inr ⟨lead, isLead, List.prefix_append lead wire, long, failed⟩

end

end EngineClient.Http
