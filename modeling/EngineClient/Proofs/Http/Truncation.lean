import EngineClient.Proofs.Http.Message
/-!
# Truncation

What the reader makes of a response that the end of the stream cuts off. A body of known length is missed,
and so is a chunked one, but for one cut: where the line of a size has zeros in front and only these are left
of it, they read as the size of the last chunk (`ZeroCut`, `truncation_unnoticed_iff`).
-/

namespace EngineClient.Http.Chunked

/-- What the end of the stream leaves of the bytes of a chunked body, when it cuts the line of a chunk that
has data so that what is left of the line announces none. -/
inductive ZeroCut : (whole left : Bytes) → Prop
  | here {size : Nat} {line left more : Bytes} (isSize : SizeLine false size line) (positive : 0 < size)
      (begins : left <+: line) (zero : SizeLine true 0 left) : ZeroCut (line ++ more) left
  | later {line data whole left : Bytes} (isSize : SizeLine false data.length line) (some : data ≠ [])
      (rest : ZeroCut whole left) :
      ZeroCut (line ++ (data ++ ([0x0D, 0x0A] ++ whole))) (line ++ (data ++ ([0x0D, 0x0A] ++ left)))

theorem SizeLine.unique {cut : Bool} {size size' : Nat} {line : Bytes} (isSize : SizeLine cut size line)
    (isSize' : SizeLine cut size' line) : size = size' := by
  obtain ⟨-, text, decoded, announced⟩ := isSize
  obtain ⟨-, text', decoded', announced'⟩ := isSize'
  rw [decoded] at decoded'
  cases decoded'
  rw [announced] at announced'
  exact Except.ok.inj announced'

section
variable {cut : Bool} {start : Nat} {wire body rest line tail : Bytes}

/-- A body whose first line announces the end is empty. -/
theorem Coded.of_last (coded : Coded cut start wire body) (ends : cut = true → rest = [])
    (isSize : SizeLine false 0 line) (same : wire ++ rest = line ++ tail) : body = [] := by
  cases coded with
  | last => rfl
  | lastCut => rfl
  | chunk isSize' some =>
    rw [List.append_assoc] at same
    obtain ⟨rfl, -⟩ := Line.unique isSize'.1 isSize.1 same
    exact absurd (List.length_eq_zero_iff.mp (isSize'.unique isSize)) some

/-- A body whose first line announces data has a chunk of that size, and other bytes of a body behind it. -/
theorem Coded.of_chunk (coded : Coded cut start wire body) (ends : cut = true → rest = []) {size : Nat}
    (isSize : SizeLine false size line) (positive : 0 < size) (same : wire ++ rest = line ++ tail) :
    ∃ data wire' body', data.length = size ∧ start + size < Text.limit64 ∧ Coded cut (start + size) wire' body' ∧
      tail = data ++ ([0x0D, 0x0A] ++ (wire' ++ rest)) ∧ body = data ++ body' := by
  cases coded with
  | last isSize' =>
    rw [List.append_assoc] at same
    obtain ⟨rfl, -⟩ := Line.unique isSize'.1 isSize.1 same
    have := isSize'.unique isSize
    omega
  | lastCut isSize' =>
    -- A line that the end cuts has no line feed in it.
    obtain ⟨text, -, rfl⟩ := isSize.1
    have free := isSize'.1
    rw [ends rfl, List.append_nil] at same
    simp [Line, same] at free
  | chunk isSize' some fits coded' =>
    rw [List.append_assoc] at same
    obtain ⟨rfl, after⟩ := Line.unique isSize'.1 isSize.1 same
    have length := isSize'.unique isSize
    subst length
    exact ⟨_, _, _, rfl, fits, coded', by rw [← after]; simp, rfl⟩

/-- Two readings of bytes of which one is what the end leaves of the other differ only at zeros that are left
of a size. -/
theorem Coded.zeroCut_of_ne {cut' : Bool} {wire' body' rest' more : Bytes} (left : Coded cut start wire body)
    (whole : Coded cut' start wire' body') (ends : cut = true → rest = []) (ends' : cut' = true → rest' = [])
    (same : wire' ++ rest' = wire ++ rest ++ more) (differ : body ≠ body') :
    ZeroCut (wire' ++ rest') (wire ++ rest) := by
  -- The induction is on what is left: each line that is whole there is also the next line of the other coding.
  induction left generalizing wire' body' with
  | last isSize =>
    rw [List.append_assoc, List.append_assoc] at same
    exact absurd (whole.of_last ends' isSize same).symm differ
  | @lastCut start line isSize =>
    rw [ends rfl, List.append_nil] at same ⊢
    cases whole with
    | last => contradiction
    | lastCut => contradiction
    | chunk isSize' some =>
      rw [List.append_assoc] at same ⊢
      obtain ⟨left, -, parts, -⟩ := Line.begins isSize.1 isSize'.1 same.symm
      exact .here isSize' (List.length_pos_iff.mpr some) ⟨left, parts.symm⟩ isSize
  | @chunk cut start line data wire body isSize some fits left ih =>
    simp only [List.append_assoc] at same
    obtain ⟨data', wire'', body'', length, -, whole', tail, rfl⟩ :=
      whole.of_chunk ends' isSize (List.length_pos_iff.mpr some) same
    obtain ⟨rfl, after⟩ := List.append_inj tail length.symm
    rw [same, tail]
    simp only [List.append_assoc]
    refine .later isSize some (ih whole' ends ?_ ?_)
    · rw [← List.append_cancel_left after, List.append_assoc]
    · rintro rfl
      exact differ rfl

/-- Zeros that are left of a size end another body. -/
theorem Coded.of_zeroCut {whole left : Bytes} (zeros : ZeroCut whole left) (coded : Coded cut start wire body)
    (ends : cut = true → rest = []) (same : wire ++ rest = whole) :
    ∃ body', Coded true start left body' ∧ body' ≠ body := by
  induction zeros generalizing start wire body with
  | here isSize positive _ zero =>
    obtain ⟨data, _, body', length, -, -, -, rfl⟩ := coded.of_chunk ends isSize positive same
    refine ⟨[], .lastCut zero, ?_⟩
    intro none
    have := congrArg List.length none
    simp at this
    omega
  | later isSize some _ ih =>
    obtain ⟨data, wire', body', length, fits, coded', tail, rfl⟩ :=
      coded.of_chunk ends isSize (List.length_pos_iff.mpr some) same
    obtain ⟨rfl, after⟩ := List.append_inj tail length.symm
    obtain ⟨body'', left, differ⟩ := ih coded' (List.append_cancel_left after).symm
    exact ⟨_, .chunk isSize some fits left, fun equal => differ (List.append_cancel_left equal)⟩

end

end EngineClient.Http.Chunked

namespace EngineClient.Http

/-- Of a body that ends itself, what the end of the stream leaves is another body only at zeros that are left of
a size. -/
private theorem zeroCut_of_carries_ne {form : Framing} {cut cut' : Bool} {wire wire' rest rest' more body body' : Bytes}
    (left : Carries form cut wire body) (whole : Carries form cut' wire' body') (selfEnding : form ≠ .toEnd)
    (ends : cut = true → rest = []) (ends' : cut' = true → rest' = [])
    (same : wire' ++ rest' = wire ++ rest ++ more) (differ : body ≠ body') :
    form = .chunked ∧ Chunked.ZeroCut (wire' ++ rest') (wire ++ rest) := by
  cases left with
  | none =>
    cases whole
    contradiction
  | toEnd => contradiction
  | length exact =>
    cases whole with
    | length exact' =>
      rw [List.append_assoc] at same
      exact absurd (List.append_inj same (exact'.trans exact.symm)).1.symm differ
  | chunked coded =>
    cases whole with
    | chunked coded' => exact ⟨rfl, coded.zeroCut_of_ne coded' ends ends' same differ⟩

/-- Of a response whose body ends itself the end of the stream leaves a part. The reader finds another body in
it than in the whole exactly when the part ends in zeros of the size of a chunk: these it takes for the last
chunk. Otherwise it fails or finds the same body. -/
theorem truncation_unnoticed_iff {method : Method} {pieces pieces' : List Bytes} {ending : Ending} {rest : Source}
    {exchange : Exchange} {form : Framing} {more : Bytes}
    (read : readResponse method (.inPieces pieces ending) = (.ok exchange, rest))
    (framed : framing method exchange.response.head = .ok form) (selfEnding : form ≠ .toEnd)
    (part : pieces.flatten = pieces'.flatten ++ more) :
    (∃ response, answer method (.inPieces pieces' .closed) = .ok response ∧
        response.body ≠ exchange.response.body) ↔
      form = .chunked ∧ answer method (.inPieces pieces' .closed) ≠ .error (.protocol .headTooLong) ∧
      ∃ lead whole left, Lead lead ∧ pieces.flatten = lead ++ whole ∧ pieces'.flatten = lead ++ left ∧
        Chunked.ZeroCut whole left := by
  have answered : answer method (.inPieces pieces ending) = .ok exchange.response := by
    rw [answer, read]
    rfl
  obtain ⟨form', cut, wire, after, message, bytes, ends⟩ := answer_sound answered
  have sameForm : form' = form := Except.ok.inj (message.framed.symm.trans framed)
  subst sameForm
  constructor
  · rintro ⟨response, found, differ⟩
    obtain ⟨form'', cut', wire', after', message', bytes', ends'⟩ := answer_sound found
    have parts : wire ++ after = wire' ++ (after' ++ more) := by rw [← bytes, part, bytes', List.append_assoc]
    obtain ⟨-, rfl, lead, whole, left, isLead, rfl, rfl, carried, carried'⟩ := message.sameHead message' parts
    simp only [List.append_assoc] at parts bytes bytes'
    obtain ⟨chunked, zeros⟩ := zeroCut_of_carries_ne carried' carried selfEnding ends' ends
      (by rw [List.append_assoc]; exact List.append_cancel_left parts) differ
    exact ⟨chunked, by simp [found], lead, whole ++ after, left ++ after', isLead, bytes, bytes', zeros⟩
  · rintro ⟨rfl, fits, lead, whole, left, isLead, bytes', partBytes, zeros⟩
    obtain ⟨lead', surplus, wire, isLead', parsed, rfl, carried⟩ := message.parts
    rw [bytes', List.append_assoc] at bytes
    obtain ⟨rfl, rfl⟩ := isLead.unique isLead' bytes
    cases carried with
    | chunked coded =>
      obtain ⟨body, coded', differ⟩ := coded.of_zeroCut zeros ends rfl
      have message' := Message.mk isLead parsed framed (.chunked coded')
      rcases answer_complete .closed message' (partBytes.trans (List.append_nil _).symm) (by simp) with
        found | ⟨_, -, -, -, failed⟩
      · exact ⟨_, found, differ⟩
      · exact absurd failed fits

private def chunkedHead : Bytes := Text.encode "HTTP/1.1 200 OK\r\nTransfer-Encoding: chunked\r\n\r\n"

/-- The second size has zeros in front. -/
private def elevenBytes : Bytes := chunkedHead ++ Text.encode "5\r\nhello\r\n0006\r\n world\r\n0\r\n\r\n"

private def fiveBytes : Bytes := chunkedHead ++ Text.encode "5\r\nhello\r\n000"

private def chunkedResponse (body : String) : Response :=
  ⟨⟨.http11, ⟨200⟩, ⟨[("transfer-encoding", [Text.encode "chunked"])]⟩⟩, Text.encode body⟩

theorem truncation_unnoticed_iff_zeros :
    readResponse .get (.inPieces [elevenBytes] .closed) =
      (.ok ⟨chunkedResponse "hello world", true⟩, .inPieces [] .closed) ∧
    framing .get (chunkedResponse "hello world").head = .ok .chunked ∧ Framing.chunked ≠ .toEnd ∧
    [elevenBytes].flatten = [fiveBytes].flatten ++ Text.encode "6\r\n world\r\n0\r\n\r\n" ∧
    ∃ lead whole left, Lead lead ∧ [elevenBytes].flatten = lead ++ whole ∧ [fiveBytes].flatten = lead ++ left ∧
      Chunked.ZeroCut whole left := by
  have read : readResponse .get (.inPieces [elevenBytes] .closed) =
      (.ok ⟨chunkedResponse "hello world", true⟩, .inPieces [] .closed) := by decide +kernel
  have framed : framing .get (chunkedResponse "hello world").head = .ok .chunked := by decide +kernel
  have part : [elevenBytes].flatten = [fiveBytes].flatten ++ Text.encode "6\r\n world\r\n0\r\n\r\n" := by
    decide +kernel
  have shorter : answer .get (.inPieces [fiveBytes] .closed) = .ok (chunkedResponse "hello") := by decide +kernel
  refine ⟨read, framed, by decide, part, ?_⟩
  exact ((truncation_unnoticed_iff read framed (by decide) part).mp ⟨_, shorter, by decide +kernel⟩).2.2

/-- Not every part of a response is missed: a body of eleven bytes is taken for one of five. -/
theorem truncation_goes_unnoticed :
    ¬ ∀ (method : Method) (pieces pieces' : List Bytes) (ending : Ending) (exchange : Exchange) (rest : Source)
        (form : Framing) (more : Bytes),
      readResponse method (.inPieces pieces ending) = (.ok exchange, rest) →
      framing method exchange.response.head = .ok form → (form = .chunked ∨ ∃ length, form = .length length) →
      pieces.flatten = pieces'.flatten ++ more → more ≠ [] →
        (∃ error, answer method (.inPieces pieces' .closed) = .error error) ∨
        (∃ response, answer method (.inPieces pieces' .closed) = .ok response ∧
          response.body = exchange.response.body) := by
  intro noticed
  have shorter : answer .get (.inPieces [fiveBytes] .closed) = .ok (chunkedResponse "hello") := by decide +kernel
  have outcome := noticed .get [elevenBytes] [fiveBytes] .closed ⟨chunkedResponse "hello world", true⟩
    (.inPieces [] .closed) .chunked (Text.encode "6\r\n world\r\n0\r\n\r\n") (by decide +kernel)
    (by decide +kernel) (.inl rfl) (by decide +kernel) (by decide +kernel)
  rw [shorter] at outcome
  rcases outcome with ⟨error, failed⟩ | ⟨response, found, same⟩
  · contradiction
  · cases found
    exact absurd same (by decide +kernel)

end EngineClient.Http
