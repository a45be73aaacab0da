import EngineClient.Proofs.Http.Faults
import EngineClient.Proofs.Http.ResponseWire
/-!
# The limit of heads

The reader of heads looks at the limit only between two reads (`ReadEnds`). So a head that is too long is refused
exactly when a read ends behind the limit and before the head does (`readHead_headTooLong_iff`). No other part of a
response is refused for its size (`answer_headTooLong_iff`).
-/

namespace EngineClient.Http

/-- A read of the reader of heads ends at this position of the pieces: every block but the last of a piece is as long
as a read can be. -/
def ReadEnds (pieces : List Bytes) (position : Nat) : Prop :=
  ∃ before piece after blocks, pieces = before ++ piece :: after ∧ piece ≠ [] ∧ 0 < blocks ∧
    position = before.flatten.length + min (blocks * headReadSize) piece.length

/-! ## Where reads end -/

theorem not_readEnds_nil (position : Nat) : ¬ ReadEnds [] position := by
  rintro ⟨before, piece, after, blocks, parts, -⟩
  simp at parts

theorem readEnds_cons_iff {piece : Bytes} {pieces : List Bytes} {position : Nat} :
    ReadEnds (piece :: pieces) position ↔
      (∃ blocks, piece ≠ [] ∧ 0 < blocks ∧ position = min (blocks * headReadSize) piece.length) ∨
      ∃ further, ReadEnds pieces further ∧ position = piece.length + further := by
  constructor
  · rintro ⟨before, part, after, blocks, parts, filled, positive, rfl⟩
    cases before with
    | nil =>
      cases parts
      exact .inl ⟨blocks, filled, positive, by simp⟩
    | cons first before =>
      cases parts
      refine .inr ⟨_, ⟨before, part, after, blocks, rfl, filled, positive, rfl⟩, ?_⟩
      rw [List.flatten_cons, List.length_append]
      omega
  · rintro (⟨blocks, filled, positive, rfl⟩ | ⟨_, ⟨before, part, after, blocks, rfl, filled, positive, rfl⟩, rfl⟩)
    · exact ⟨[], piece, pieces, blocks, rfl, filled, positive, by simp⟩
    · refine ⟨piece :: before, part, after, blocks, rfl, filled, positive, ?_⟩
      rw [List.flatten_cons, List.length_append]
      omega

theorem ReadEnds.le {pieces : List Bytes} {position : Nat} (ends : ReadEnds pieces position) :
    position ≤ pieces.flatten.length := by
  obtain ⟨before, piece, after, blocks, rfl, -, -, rfl⟩ := ends
  rw [List.flatten_append, List.flatten_cons, List.length_append, List.length_append]
  omega

/-- Behind every position with a byte after it a read ends before another whole read could. -/
theorem exists_readEnds {pieces : List Bytes} {position : Nat} (more : position < pieces.flatten.length) :
    ∃ further, ReadEnds pieces further ∧ position < further ∧ further ≤ position + headReadSize := by
  induction pieces generalizing position with
  | nil => simp at more
  | cons piece pieces ih =>
    rw [List.flatten_cons, List.length_append] at more
    by_cases within : position < piece.length
    · refine ⟨_, readEnds_cons_iff.mpr (.inl ⟨position / headReadSize + 1, ?_, Nat.succ_pos _, rfl⟩), ?_⟩
      · rintro rfl
        simp at within
      · rw [headReadSize]
        omega
    · have more' : position - piece.length < pieces.flatten.length := by omega
      obtain ⟨further, ends, later, near⟩ := ih more'
      exact ⟨_, readEnds_cons_iff.mpr (.inr ⟨further, ends, rfl⟩), by omega, by omega⟩

private theorem readEnds_block {piece : Bytes} {pieces : List Bytes} (left : piece.drop headReadSize ≠ [])
    (position : Nat) :
    ReadEnds (piece :: pieces) position ↔
      position = headReadSize ∨
      ∃ further, ReadEnds (piece.drop headReadSize :: pieces) further ∧ position = headReadSize + further := by
  have long : headReadSize < piece.length := by simpa using left
  have filled : piece ≠ [] := List.ne_nil_of_length_pos (by omega)
  simp only [readEnds_cons_iff, List.length_drop]
  constructor
  · rintro (⟨blocks, -, positive, rfl⟩ | ⟨further, ends, rfl⟩)
    · -- The first block is the read; the others are blocks of what is left.
      by_cases first : blocks = 1
      · exact .inl (by rw [first, Nat.one_mul, Nat.min_eq_left (Nat.le_of_lt long)])
      · refine .inr ⟨_, .inl ⟨blocks - 1, left, by omega, rfl⟩, ?_⟩
        rw [Nat.sub_mul, Nat.one_mul]
        have : headReadSize ≤ blocks * headReadSize := Nat.le_mul_of_pos_left _ positive
        omega
    · exact .inr ⟨_, .inr ⟨further, ends, rfl⟩, by omega⟩
  · rintro (rfl | ⟨_, ⟨blocks, -, positive, rfl⟩ | ⟨further, ends, rfl⟩, rfl⟩)
    · exact .inl ⟨1, filled, Nat.one_pos, by rw [Nat.one_mul, Nat.min_eq_left (Nat.le_of_lt long)]⟩
    · refine .inl ⟨blocks + 1, filled, Nat.succ_pos _, ?_⟩
      rw [Nat.add_mul, Nat.one_mul]
      omega
    · exact .inr ⟨further, ends, by omega⟩

/-- The first read takes bytes, and the next ones end where those of the rest do. -/
theorem exists_read {pieces : List Bytes} (more : pieces.flatten ≠ []) (ending : Ending) :
    ∃ piece pieces', (Source.inPieces pieces ending).read headReadSize = (.got piece, .inPieces pieces' ending) ∧
      ∀ position, ReadEnds pieces position ↔
        position = piece.length ∨ ∃ further, ReadEnds pieces' further ∧ position = piece.length + further := by
  simp only [Source.read, Source.inPieces]
  induction pieces with
  | nil => simp at more
  | cons whole others ih =>
    cases whole with
    | nil =>
      obtain ⟨piece, pieces', read, ends⟩ := ih (by simpa using more)
      refine ⟨piece, pieces', by simpa [Source.readEvents] using read, fun position => ?_⟩
      rw [readEnds_cons_iff, ← ends]
      simp
    | cons b tail =>
      simp only [List.map_cons, Source.readEvents]
      split
      · rename_i short
        have fits : (b :: tail).length ≤ headReadSize := by simpa using short
        refine ⟨_, others, rfl, fun position => ?_⟩
        rw [readEnds_cons_iff]
        refine or_congr_left ⟨?_, ?_⟩
        · rintro ⟨blocks, -, positive, rfl⟩
          have : headReadSize ≤ blocks * headReadSize := Nat.le_mul_of_pos_left _ positive
          omega
        · rintro rfl
          exact ⟨1, List.cons_ne_nil b tail, Nat.one_pos, by omega⟩
      · rename_i left
        refine ⟨_, (b :: tail).drop headReadSize :: others, rfl, fun position => ?_⟩
        have long : headReadSize < (b :: tail).length := by simpa using left
        rw [readEnds_block left, List.length_take, Nat.min_eq_left (Nat.le_of_lt long)]

/-! ## The verdict of the reader of heads -/

/-- Bytes are cut before their head ends exactly when no head is found in what the cut leaves. -/
theorem headEnd_take_eq_none_iff {lead rest : Bytes} (isLead : Lead lead) {position : Nat}
    (within : position ≤ (lead ++ rest).length) :
    headEnd ((lead ++ rest).take position) = none ↔ position < lead.length := by
  constructor
  · intro headless
    have longer := isLead.longer headless (List.take_append_drop position (lead ++ rest))
    rwa [List.length_take, Nat.min_eq_left within] at longer
  · intro before
    cases found : headEnd ((lead ++ rest).take position) with
    | none => rfl
    | some length =>
      obtain ⟨lead', more, isLead', parts, -⟩ := headEnd_eq_some_iff.mp found
      have whole : lead' ++ (more ++ (lead ++ rest).drop position) = lead ++ rest := by
        rw [← List.append_assoc, ← parts, List.take_append_drop]
      obtain ⟨rfl, -⟩ := isLead'.unique isLead whole
      have lengths := congrArg List.length parts
      rw [List.length_take, Nat.min_eq_left within, List.length_append] at lengths
      omega

private theorem readHeadFor_headTooLong_iff {pieces : List Bytes} (ending : Ending) {buffer : Bytes} {reads : Nat}
    (room : headLimit + 2 ≤ reads + buffer.length) (some : 0 < reads) :
    (readHeadFor (.inPieces pieces ending) buffer reads).1 = .error (.protocol .headTooLong) ↔
      headEnd buffer = none ∧ headLimit < buffer.length ∨
      ∃ position, ReadEnds pieces position ∧ headLimit < buffer.length + position ∧
        headEnd (buffer ++ pieces.flatten.take position) = none := by
  induction reads generalizing pieces buffer with
  | zero => omega
  | succ reads ih =>
    rw [readHeadFor]
    cases found : headEnd buffer with
    | some length =>
      simp only [reduceCtorEq, false_and, false_or, false_iff]
      rintro ⟨position, -, -, headless⟩
      rw [headEnd_none_of_append headless] at found
      contradiction
    | none =>
      by_cases long : headLimit < buffer.length
      · simp [long]
      · by_cases more : pieces.flatten = []
        · have atEnd : ¬ ∃ position, ReadEnds pieces position ∧ headLimit < buffer.length + position ∧
              headEnd (buffer ++ pieces.flatten.take position) = none := by
            rintro ⟨position, ends, beyond, -⟩
            have within := ends.le
            rw [more, List.length_nil] at within
            omega
          simp only [Source.read_inPieces_nil more, atEnd, long, and_false, or_false]
          cases ending <;> simp
        · obtain ⟨piece, pieces', read, ends⟩ := exists_read more ending
          obtain ⟨filled, same⟩ := Source.read_stream (by decide) read
          rw [Source.inPieces_stream, Source.inPieces_stream] at same
          have bytes : pieces.flatten = piece ++ pieces'.flatten := congrArg Stream.bytes same
          have positive := List.length_pos_iff.mpr filled
          simp only [if_neg long, read]
          rw [ih (by rw [List.length_append]; omega) (by omega)]
          simp only [ends, bytes, long, and_false, false_or, List.length_append, List.append_assoc]
          constructor
          · rintro (⟨headless, beyond⟩ | ⟨further, endsLater, beyond, headless⟩)
            · exact ⟨piece.length, .inl rfl, beyond, by simpa using headless⟩
            · refine ⟨_, .inr ⟨further, endsLater, rfl⟩, by omega, ?_⟩
              rwa [List.take_length_add_append]
          · rintro ⟨_, rfl | ⟨further, endsLater, rfl⟩, beyond, headless⟩
            · exact .inl ⟨by simpa using headless, beyond⟩
            · rw [List.take_length_add_append] at headless
              exact .inr ⟨further, endsLater, by omega, headless⟩

/-- The reader of heads gives up over the size exactly when a read ends behind the limit without a whole head. -/
theorem readHead_headTooLong_iff (pieces : List Bytes) (ending : Ending) :
    (readHead (.inPieces pieces ending)).1 = .error (.protocol .headTooLong) ↔
      ∃ position, ReadEnds pieces position ∧ headLimit < position ∧ headEnd (pieces.flatten.take position) = none := by
  have start : (readHeadFor (.inPieces pieces ending) [] (headLimit + 2)).1 = .error (.protocol .headTooLong) ↔ _ :=
    readHeadFor_headTooLong_iff ending (by simp) (by simp)
  simpa [readHead, headEnd, headEndFrom] using start

/-! ## The verdicts of all readers -/

/-- A response is refused for its size by the reader of heads alone. -/
theorem answer_headTooLong_iff {method : Method} {source : Source} :
    answer method source = .error (.protocol .headTooLong) ↔
      (readHead source).1 = .error (.protocol .headTooLong) := by
  constructor
  · intro refused
    rw [answer, readResponse] at refused
    rcases found : readHead source with ⟨error | ⟨lead, leftover⟩, rest⟩
    · simpa [found, Except.map] using refused
    simp only [found] at refused
    rcases parsed : Head.parse lead with fault | ⟨head, surplus⟩
    · simp only [parsed, Except.map, Except.error.injEq, TransportError.protocol.injEq] at refused
      exact absurd refused (Head.parse_fault parsed)
    simp only [parsed] at refused
    rcases framed : framing method head with fault | form
    · simp only [framed, Except.map, Except.error.injEq, TransportError.protocol.injEq] at refused
      exact absurd refused (framing_fault framed)
    simp only [framed] at refused
    rcases body : readBody form leftover rest with ⟨error | read, last⟩
    · simp only [body, Except.map, Except.error.injEq] at refused
      exact absurd refused (readBody_fails body).ne_headTooLong
    · simp [body, Except.map] at refused
  · exact answer_of_headless

/-! ## Heads and the limit -/

section
variable {pieces : List Bytes} {lead rest : Bytes}

/-- A head is refused exactly when a read ends behind the limit and before the head does. -/
theorem refuses_lead_iff (method : Method) (ending : Ending) (isLead : Lead lead) (bytes : pieces.flatten = lead ++ rest) :
    answer method (.inPieces pieces ending) = .error (.protocol .headTooLong) ↔
      ∃ position, ReadEnds pieces position ∧ headLimit < position ∧ position < lead.length := by
  rw [answer_headTooLong_iff, readHead_headTooLong_iff]
  refine exists_congr fun position => and_congr_right fun ends => and_congr_right fun _ => ?_
  rw [bytes, headEnd_take_eq_none_iff isLead (bytes ▸ ends.le)]

theorem not_refuses_of_le (method : Method) (ending : Ending) (isLead : Lead lead) (bytes : pieces.flatten = lead ++ rest)
    (fits : lead.length ≤ headLimit) :
    answer method (.inPieces pieces ending) ≠ .error (.protocol .headTooLong) := by
  intro refused
  obtain ⟨position, -, beyond, before⟩ := (refuses_lead_iff method ending isLead bytes).mp refused
  omega

theorem refuses_of_lt (method : Method) (ending : Ending) (isLead : Lead lead) (bytes : pieces.flatten = lead ++ rest)
    (long : headLimit + headReadSize < lead.length) :
    answer method (.inPieces pieces ending) = .error (.protocol .headTooLong) := by
  have more : headLimit < pieces.flatten.length := by
    rw [bytes, List.length_append]
    omega
  obtain ⟨position, ends, beyond, near⟩ := exists_readEnds more
  exact (refuses_lead_iff method ending isLead bytes).mpr ⟨position, ends, beyond, by omega⟩

theorem refuses_headless_iff (method : Method) (ending : Ending) (headless : headEnd pieces.flatten = none) :
    answer method (.inPieces pieces ending) = .error (.protocol .headTooLong) ↔ headLimit < pieces.flatten.length := by
  rw [answer_headTooLong_iff, readHead_none ending headless]
  by_cases long : headLimit < pieces.flatten.length
  · rw [if_pos long]
    exact iff_of_true rfl long
  · rw [if_neg long]
    exact iff_of_false (by cases ending <;> simp) long

end

/-- The limit of heads is kept between reads only. Without a whole head the reader gives up exactly when there are more
bytes than the limit. A head is refused exactly when a read ends behind the limit and before the head does: never
when it is within the limit, and always when it is longer than the limit by more than a read. -/
theorem head_limit (method : Method) (pieces : List Bytes) (ending : Ending) :
    (headEnd pieces.flatten = none →
      (answer method (.inPieces pieces ending) = .error (.protocol .headTooLong) ↔
        headLimit < pieces.flatten.length)) ∧
    ∀ lead rest, Lead lead → pieces.flatten = lead ++ rest →
      (answer method (.inPieces pieces ending) = .error (.protocol .headTooLong) ↔
        ∃ position, ReadEnds pieces position ∧ headLimit < position ∧ position < lead.length) ∧
      (lead.length ≤ headLimit → answer method (.inPieces pieces ending) ≠ .error (.protocol .headTooLong)) ∧
      (headLimit + headReadSize < lead.length →
        answer method (.inPieces pieces ending) = .error (.protocol .headTooLong)) :=
  ⟨refuses_headless_iff method ending, fun _ _ isLead bytes =>
    ⟨refuses_lead_iff method ending isLead bytes, not_refuses_of_le method ending isLead bytes,
      refuses_of_lt method ending isLead bytes⟩⟩

/-! ### A head of any length -/

private def padding (count : Nat) : String × Bytes := ("x", List.replicate count 0x61)

/-- A head with a padded field. -/
private def paddedHead (count : Nat) : Bytes :=
  heading (statusLine .http11 200 (Text.encode "OK") :: [padding count].map namedLine)

private def paddedResponse (count : Nat) : Response := ⟨⟨.http11, ⟨200⟩, ⟨gathered [padding count]⟩⟩, []⟩

private theorem sendable_padding (count : Nat) : ∀ field ∈ [padding count], Sendable field := by
  have letter {b : UInt8} (member : b ∈ List.replicate count 0x61) : b = 0x61 := List.eq_of_mem_replicate member
  rintro field listed
  rw [List.mem_singleton.mp listed]
  exact
    { filled := show "x" ≠ "" by decide
      token := List.all_eq_true.mp (show "x".toList.all isTokenChar = true by decide)
      legal := fun b member => letter member ▸ rfl
      first := fun b member => letter (List.mem_of_mem_head? member) ▸ rfl
      last := fun b member => letter (List.mem_of_getLast? member) ▸ rfl }

private theorem length_paddedHead (count : Nat) : (paddedHead count).length = count + 24 := by
  have status : (statusLine .http11 200 (Text.encode "OK")).length = 15 := by decide +kernel
  have name : (Text.encode "x").length = 1 := by decide +kernel
  simp only [paddedHead, heading, namedLine, fieldLine, fieldMark, lineEnd, padding, List.map_cons, List.map_nil,
    List.flatMap_cons, List.flatMap_nil, List.length_append, List.length_cons, List.length_nil, List.length_replicate,
    status, name]
  omega

private theorem lead_paddedHead (count : Nat) : Lead (paddedHead count) :=
  lead_heading (List.cons_ne_nil _ _) (solid_lines (by decide +kernel) (sendable_padding count))

private theorem message_padded (count : Nat) : Message .get .toEnd true (paddedHead count ++ []) (paddedResponse count) := by
  have named : ∀ field ∈ [padding count], Headers.normalName field.1 = some (Text.lower field.1) := by
    intro field listed
    rw [List.mem_singleton.mp listed]
    exact show Headers.normalName "x" = some (Text.lower "x") by decide
  have parsed : Head.parse (paddedHead count) = .ok ((paddedResponse count).head, []) :=
    Head.parse_heading (by decide) (by decide +kernel) (sendable_padding count) (by simp [headerLimit]) named
  refine .mk (lead_paddedHead count) parsed ?_ (.toEnd [])
  have other (name : String) (apart : Text.lower "x" ≠ name) : valuesIn [padding count] name = [] := by
    simp [valuesIn, padding, apart]
  have unchunked : (paddedResponse count).head.isChunked = false := by
    simp [Head.isChunked, Headers.elements, paddedResponse, Headers.values_gathered, other "transfer-encoding" (by decide)]
  have unmeasured : (paddedResponse count).head.contentLength = .ok none := by
    simp [Head.contentLength, paddedResponse, Headers.values_gathered, other "content-length" (by decide)]
  simp only [framing, paddedResponse] at unchunked unmeasured ⊢
  rw [unchunked, unmeasured]
  rfl

/-- Read as fast as can be, a head is taken that is longer than the limit by a whole read. -/
private theorem answer_paddedHead {count : Nat} (shorter : count + 24 ≤ headLimit + headReadSize) :
    answer .get (.inPieces [paddedHead count] .closed) = .ok (paddedResponse count) := by
  have whole : [paddedHead count].flatten = paddedHead count ++ [] := by simp
  have bytes : [paddedHead count].flatten = (paddedHead count ++ []) ++ [] := by simp
  rcases answer_complete .closed (message_padded count) bytes (by simp) with answered | ⟨-, -, -, -, refused⟩
  · exact answered
  · obtain ⟨position, ends, beyond, before⟩ := (refuses_lead_iff .get .closed (lead_paddedHead count) whole).mp refused
    rw [length_paddedHead] at before
    rcases readEnds_cons_iff.mp ends with ⟨blocks, -, -, rfl⟩ | ⟨further, none, -⟩
    · rw [length_paddedHead] at beyond before
      simp only [headLimit, headReadSize] at shorter beyond before
      omega
    · exact absurd none (not_readEnds_nil further)

/-- One head that is longer than the limit by a whole read: it is taken when it comes in one piece, and refused when
its first piece ends a byte behind the limit. -/
theorem head_limit_cuts :
    Lead (paddedHead 69608) ∧ (paddedHead 69608).length = headLimit + headReadSize ∧
    answer .get (.inPieces [paddedHead 69608] .closed) = .ok (paddedResponse 69608) ∧
    answer .get (.inPieces [(paddedHead 69608).take 65537, (paddedHead 69608).drop 65537] .closed) =
      .error (.protocol .headTooLong) := by
  have length := length_paddedHead 69608
  have taken : ((paddedHead 69608).take 65537).length = 65537 := by rw [List.length_take, length]; decide
  have whole : [(paddedHead 69608).take 65537, (paddedHead 69608).drop 65537].flatten = paddedHead 69608 ++ [] := by
    simp only [List.flatten_cons, List.flatten_nil, List.append_nil, List.take_append_drop]
  have ends : ReadEnds [(paddedHead 69608).take 65537, (paddedHead 69608).drop 65537] 65537 := by
    refine readEnds_cons_iff.mpr (.inl ⟨17, List.ne_nil_of_length_pos (by omega), by decide, ?_⟩)
    rw [taken]
    decide
  refine ⟨lead_paddedHead 69608, length, answer_paddedHead (by decide), ?_⟩
  exact (((head_limit .get _ .closed).2 _ _ (lead_paddedHead 69608) whole).1).mpr ⟨65537, ends, by decide, by omega⟩

/-- Not every head that is longer than the limit is refused. -/
theorem head_over_limit_taken :
    ¬ ∀ (method : Method) (pieces : List Bytes) (ending : Ending) (lead rest : Bytes), Lead lead →
      pieces.flatten = lead ++ rest → headLimit < lead.length →
        answer method (.inPieces pieces ending) = .error (.protocol .headTooLong) := by
  intro limited
  have long : headLimit < (paddedHead 69608).length := by
    rw [length_paddedHead]
    decide
  have refused := limited .get [paddedHead 69608] .closed (paddedHead 69608) [] (lead_paddedHead 69608) (by simp) long
  rw [answer_paddedHead (by decide)] at refused
  simp at refused

end EngineClient.Http
