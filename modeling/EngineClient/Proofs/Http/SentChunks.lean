import EngineClient.Proofs.Http.HeadLines
import EngineClient.Proofs.Http.Message
import EngineClient.Proofs.Text.Cutting
import EngineClient.Proofs.Text.Numerals
import EngineClient.Proofs.Text.Utf8
/-!
# Chunked bodies as they are sent

A body is put together from chunks that are written in any way the coding allows (`SentChunks.wire`). The reader
passes over the chunks one after the other and counts what they hold (`readChunks_chunks`), and what it answers in
the end is what it answers to the bytes behind them: the size that ends the body, a size that is too large, or a
chunk without its line end.
-/

namespace EngineClient.Http

/-! ## Bodies as they are sent -/

/-- The line of a chunk's size: the digits, behind a semicolon the extension if there is one, and the line end. -/
def sizeLine (digits : String) (extension : Option String) : Bytes :=
  Text.encode (digits ++ extension.elim "" (";" ++ ·) ++ "\r\n")

/-- A chunk as it is sent. -/
structure SentChunk where
  digits : String
  extension : Option String
  data : Bytes
deriving Repr, DecidableEq

/-- A body as it is sent: chunks, the size that ends them, and the lines of the trailer. -/
structure SentChunks where
  chunks : List SentChunk
  digits : String
  extension : Option String
  trailer : List String
deriving Repr, DecidableEq

namespace SentChunk

/-- The bytes up to the line end behind the data. -/
def front (c : SentChunk) : Bytes := sizeLine c.digits c.extension ++ c.data

def wire (c : SentChunk) : Bytes := c.front ++ lineEnd

/-- The digits write the number of bytes, of which there is one at least; the extension is within its line. -/
structure WellFormed (c : SentChunk) : Prop where
  size : Text.Hexadecimal c.data.length c.digits
  extension : ∀ text ∈ c.extension, '\n' ∉ text.toList
  filled : c.data ≠ []

end SentChunk

namespace SentChunks

def wire (b : SentChunks) : Bytes :=
  b.chunks.flatMap SentChunk.wire ++
    (sizeLine b.digits b.extension ++ (b.trailer.flatMap (fun line => Text.encode (line ++ "\r\n")) ++ lineEnd))

/-- What all chunks hold. -/
def data (b : SentChunks) : Bytes := b.chunks.flatMap SentChunk.data

structure WellFormed (b : SentChunks) : Prop where
  chunks : ∀ c ∈ b.chunks, c.WellFormed
  size : Text.Hexadecimal 0 b.digits
  extension : ∀ text ∈ b.extension, '\n' ∉ text.toList
  trailer : ∀ line ∈ b.trailer, '\n' ∉ line.toList ∧ Text.isBlankText line = false

end SentChunks

/-! ## Size lines and trailers -/

namespace Chunked

private theorem encode_crlf : Text.encode "\r\n" = [0x0D, 0x0A] := by
  rw [Text.encode_eq_flatMap]
  decide

private theorem line_encode {text : String} (free : '\n' ∉ text.toList) : Line false (Text.encode (text ++ "\r\n")) := by
  have absent : 0x0A ∉ Text.encode text := fun member => free ((Text.mem_encode_iff (c := '\n') (by decide)).mp member)
  refine ⟨Text.encode text ++ [0x0D], ?_, ?_⟩
  · simp [absent]
  · rw [Text.encode_append, encode_crlf, List.append_assoc]
    rfl

variable {n : Nat} {digits : String} {extension : Option String}

/-- The field of a size is its digits, whatever the extension says. -/
theorem sizeField_digits (written : Text.Hexadecimal n digits) (extension : Option String) :
    sizeField (digits ++ extension.elim "" (";" ++ ·) ++ "\r\n") = digits := by
  have solid := written.solid
  have free : ';' ∉ digits.toList := fun member => (solid ';' member).2.1 rfl
  have stripped : Text.strip digits.toList = digits.toList := by
    have word : Text.strip ([] ++ digits.toList ++ []) = digits.toList :=
      Text.strip_of_solid (fun c member => (solid c member).1) (by simp)
    simpa using word
  have ends : Text.dropBlankEnd "\r\n".toList = [] := by decide
  unfold sizeField
  cases extension with
  | none =>
    have bare : Text.dropBlankEnd (digits.toList ++ "\r\n".toList) = digits.toList := by
      obtain ⟨front, last, chars⟩ := (List.eq_nil_or_concat _).resolve_left written.ne_nil
      rw [List.concat_eq_append] at chars
      have lastSolid := (solid last (by simp [chars])).1
      rw [chars, List.append_assoc, List.singleton_append, Text.dropBlankEnd_append lastSolid, ends]
    simp only [Option.elim_none, String.append_empty, String.toList_append, bare, Text.cutAt_of_free free, stripped,
      String.ofList_toList]
  | some text =>
    have semicolon : Text.isBlank ';' = false := by decide
    have parts : (digits ++ (";" ++ text) ++ "\r\n").toList =
        digits.toList ++ ';' :: (text.toList ++ "\r\n".toList) := by simp
    simp only [Option.elim_some]
    rw [parts, Text.dropBlankEnd_append semicolon, Text.cutAt_append free, stripped, String.ofList_toList]

theorem sizeLine_announces (written : Text.Hexadecimal n digits) (extension : Option String) :
    ∃ text, Text.decode (sizeLine digits extension) = .ok text ∧ text.isEmpty = false ∧
      readSize text = if n < Text.limit64 then .ok n else .error (.chunkSize digits) := by
  refine ⟨_, Text.decode_encode _, ?_, ?_⟩
  · rw [String.isEmpty_eq_false_iff]
    simp
  · rw [readSize, sizeField_digits written, written.read]
    by_cases small : n < Text.limit64
    · simp [small]
    · simp [small]

theorem line_sizeLine (written : Text.Hexadecimal n digits) (inLine : ∀ text ∈ extension, '\n' ∉ text.toList) :
    Line false (sizeLine digits extension) := by
  apply line_encode
  rw [String.toList_append, List.mem_append, not_or]
  constructor
  · intro member
    exact (written.solid '\n' member).2.2.2 rfl
  · cases extension with
    | none => simp
    | some text => simp [inLine text rfl]

theorem sizeLine_sizes (written : Text.Hexadecimal n digits) (inLine : ∀ text ∈ extension, '\n' ∉ text.toList)
    (small : n < Text.limit64) : SizeLine false n (sizeLine digits extension) := by
  obtain ⟨text, decoded, -, announced⟩ := sizeLine_announces written extension
  rw [if_pos small] at announced
  exact ⟨line_sizeLine written inLine, text, decoded, announced⟩

theorem trailer_lines {lines : List String} (filled : ∀ line ∈ lines, '\n' ∉ line.toList ∧ Text.isBlankText line = false) :
    Trailer false (lines.flatMap (fun line => Text.encode (line ++ "\r\n")) ++ lineEnd) := by
  induction lines with
  | nil =>
    have blank : Text.isBlankText "\r\n" = true := by decide
    have isLine : Line false (Text.encode "\r\n") := @line_encode "" (by simp)
    have last : Trailer false (Text.encode "\r\n") := .blank isLine (Text.decode_encode _) blank
    rwa [encode_crlf] at last
  | cons line lines ih =>
    obtain ⟨⟨free, written⟩, others⟩ := List.forall_mem_cons.mp filled
    have stays : Text.isBlankText (line ++ "\r\n") = false := by
      rw [Text.isBlankText, String.toList_append, List.all_append, ← Text.isBlankText, written, Bool.false_and]
    rw [List.flatMap_cons, List.append_assoc]
    exact .field (line_encode free) (Text.decode_encode _) stays (ih others)

/-! ## One chunk -/

variable {s : Stream} {intake : Intake}

/-- What a round of the reader does behind a line that announces data. -/
theorem readChunks_sized {line : Bytes} {size : Nat} (isSize : SizeLine false size line) (positive : size ≠ 0)
    (begins : intake.stream = s.prepend line) (rounds start : Nat) :
    ∃ next, next.stream = s ∧ (readChunks (rounds + 1) start intake).1 =
      if Text.limit64 ≤ start + size then .error (.protocol .chunkOverflow)
      else
        match readData next size with
        | (.error error, _) => .error error
        | (.ok data, rest) => (readChunks rounds (start + size) rest).1.map (data ++ ·) := by
  obtain ⟨isLine, text, decoded, announced⟩ := isSize
  obtain ⟨next, read, same⟩ := readLine_of_takes isLine decoded (.of_eq begins)
  refine ⟨next, same, ?_⟩
  obtain ⟨size, rfl⟩ := Nat.exists_eq_succ_of_ne_zero positive
  rw [readChunks]
  simp only [read, not_isEmpty_of_readSize announced, announced, Bool.false_eq_true, ↓reduceIte]
  by_cases exceeds : Text.limit64 ≤ start + size.succ
  · simp only [if_pos exceeds]
  · simp only [if_neg exceeds]
    rcases readData next size.succ with ⟨error | data, middle⟩
    · rfl
    · simp only
      rcases readChunks rounds (start + size.succ) middle with ⟨error | more, last⟩ <;> rfl

/-- A size that takes the body past what a 64-bit number can count is refused, also one that is no such number. -/
theorem readChunks_tooLarge (written : Text.Hexadecimal n digits) (inLine : ∀ text ∈ extension, '\n' ∉ text.toList)
    (begins : intake.stream = s.prepend (sizeLine digits extension)) {start : Nat} (positive : n ≠ 0)
    (exceeds : Text.limit64 ≤ start + n) (rounds : Nat) :
    ∃ fault, (readChunks (rounds + 1) start intake).1 = .error (.protocol fault) := by
  by_cases small : n < Text.limit64
  · have sizes := sizeLine_sizes written inLine small
    obtain ⟨next, -, read⟩ := readChunks_sized sizes positive begins rounds start
    rw [if_pos exceeds] at read
    exact ⟨_, read⟩
  · obtain ⟨text, decoded, filled, announced⟩ := sizeLine_announces written extension
    rw [if_neg small] at announced
    obtain ⟨next, read, -⟩ := readLine_of_takes (line_sizeLine written inLine) decoded (.of_eq begins)
    refine ⟨.chunkSize digits, ?_⟩
    rw [readChunks]
    simp only [read, filled, announced, Bool.false_eq_true, ↓reduceIte]

/-- A chunk that is followed by something else than a line end. -/
theorem readData_misplaced {data ending : Bytes} (two : ending.length = 2) (other : ending ≠ lineEnd)
    (begins : intake.stream = s.prepend (data ++ ending)) :
    (readData intake data.length).1 = .error (.protocol .chunkEnd) := by
  have first : intake.stream.block data.length = .ok (data, s.prepend ending) :=
    Stream.block_eq_ok_iff.mpr (.inl ⟨rfl, .of_eq (by rw [begins, Stream.prepend_prepend])⟩)
  obtain ⟨next, read, same⟩ := Stream.outcome_eq_ok ((intake.readBlock_outcome _).trans first)
  have second : next.stream.block 2 = .ok (ending, s) := Stream.block_eq_ok_iff.mpr (.inl ⟨two, .of_eq same⟩)
  obtain ⟨rest, read', -⟩ := Stream.outcome_eq_ok ((next.readExact_outcome _).trans second)
  have different : ending ≠ [0x0D, 0x0A] := other
  simp [readData, read, read', two, different]

/-! ## Chunk after chunk -/

/-- The reader passes over chunks that are well formed and puts what they hold together, unless that is more than a
64-bit number can count. -/
theorem readChunks_chunks {chunks : List SentChunk} (formed : ∀ c ∈ chunks, c.WellFormed) {rounds : Nat}
    (begins : intake.stream = s.prepend (chunks.flatMap SentChunk.wire)) (room : intake.stream.bytes.length < rounds)
    (start : Nat) :
    (Text.limit64 ≤ start + (chunks.flatMap SentChunk.data).length ∧
      ∃ fault, (readChunks rounds start intake).1 = .error (.protocol fault)) ∨
    ∃ next rounds', next.stream = s ∧ s.bytes.length < rounds' ∧
      (readChunks rounds start intake).1 =
        (readChunks rounds' (start + (chunks.flatMap SentChunk.data).length) next).1.map
          (chunks.flatMap SentChunk.data ++ ·) := by
  induction chunks generalizing intake rounds start with
  | nil =>
    have same : intake.stream = s := begins
    refine .inr ⟨intake, rounds, same, same ▸ room, ?_⟩
    simp only [List.flatMap_nil, List.length_nil, Nat.add_zero, List.nil_append]
    rcases (readChunks rounds start intake).1 with error | body <;> rfl
  | cons c chunks ih =>
    obtain ⟨first, others⟩ := List.forall_mem_cons.mp formed
    obtain ⟨rounds, rfl⟩ : ∃ more, rounds = more + 1 := ⟨rounds - 1, by omega⟩
    have positive : c.data.length ≠ 0 := by simpa using first.filled
    have parts : intake.stream =
        (s.prepend (c.data ++ lineEnd ++ chunks.flatMap SentChunk.wire)).prepend (sizeLine c.digits c.extension) := by
      rw [begins, Stream.prepend_prepend]
      simp [SentChunk.wire, SentChunk.front]
    rw [List.flatMap_cons (f := SentChunk.data), List.length_append]
    by_cases exceeds : Text.limit64 ≤ start + c.data.length
    · exact .inl ⟨by omega, readChunks_tooLarge first.size first.extension parts positive exceeds rounds⟩
    · have sizes := sizeLine_sizes first.size first.extension (by omega)
      obtain ⟨next, same, read⟩ := readChunks_sized sizes positive parts rounds start
      have takes : next.stream.Takes (c.data ++ lineEnd) false (s.prepend (chunks.flatMap SentChunk.wire)) :=
        .of_eq (by rw [same, Stream.prepend_prepend])
      obtain ⟨middle, found, same'⟩ := readData_complete takes
      rw [if_neg exceeds] at read
      simp only [found] at read
      have shorter : middle.stream.bytes.length < rounds := by
        rw [parts] at room
        simp only [same', Stream.prepend_bytes, List.length_append] at room ⊢
        omega
      rcases ih others same' shorter (start + c.data.length) with
            ⟨many, fault, failed⟩ | ⟨last, rounds', reached, room', onward⟩
      · refine .inl ⟨by omega, fault, ?_⟩
        rw [read, failed]
        rfl
      · refine .inr ⟨last, rounds', reached, room', ?_⟩
        rw [read, onward, Nat.add_assoc]
        rcases (readChunks rounds' _ last).1 with error | more
        · rfl
        · simp [Except.map]

/-- Behind the chunks stand the size that ends them and the trailer. -/
theorem readChunks_ends {b : SentChunks} (formed : b.WellFormed) {rounds : Nat}
    (begins : intake.stream = s.prepend (sizeLine b.digits b.extension ++
      (b.trailer.flatMap (fun line => Text.encode (line ++ "\r\n")) ++ lineEnd)))
    (room : intake.stream.bytes.length < rounds) (start : Nat) : (readChunks rounds start intake).1 = .ok [] := by
  have sizes := sizeLine_sizes formed.size formed.extension (by decide)
  have coded : Coded false start _ [] := .last sizes (trailer_lines formed.trailer)
  have short := room
  rw [begins, Stream.prepend_bytes, List.length_append] at short
  have enough : (sizeLine b.digits b.extension ++
      (b.trailer.flatMap (fun line => Text.encode (line ++ "\r\n")) ++ lineEnd)).length < rounds := by omega
  obtain ⟨rest, read, -⟩ := readChunks_complete coded (.of_eq begins) enough
  rw [read]

theorem readChunks_misplaced {c : SentChunk} (formed : c.WellFormed) {ending : Bytes} (two : ending.length = 2)
    (other : ending ≠ lineEnd) (begins : intake.stream = s.prepend (c.front ++ ending))
    (rounds start : Nat) : ∃ fault, (readChunks (rounds + 1) start intake).1 = .error (.protocol fault) := by
  have positive : c.data.length ≠ 0 := by simpa using formed.filled
  have parts : intake.stream = (s.prepend (c.data ++ ending)).prepend (sizeLine c.digits c.extension) := by
    rw [begins, Stream.prepend_prepend, SentChunk.front, List.append_assoc]
  by_cases exceeds : Text.limit64 ≤ start + c.data.length
  · exact readChunks_tooLarge formed.size formed.extension parts positive exceeds rounds
  · have sizes := sizeLine_sizes formed.size formed.extension (by omega)
    obtain ⟨next, same, read⟩ := readChunks_sized sizes positive parts rounds start
    have failed := readData_misplaced two other same
    rw [if_neg exceeds] at read
    rcases found : readData next c.data.length with ⟨error | data, rest⟩
    · simp only [found, Except.error.injEq] at failed read
      subst failed
      exact ⟨.chunkEnd, read⟩
    · simp [found] at failed

end Chunked

/-! ## The response -/

/-- A head that announces a chunked body in the answer to a request of this method. -/
structure AnnouncesChunks (method : Method) (lead : Bytes) (head : Head) : Prop where
  isLead : Lead lead
  short : lead.length ≤ headLimit
  parsed : ∃ surplus, Head.parse lead = .ok (head, surplus)
  notHead : method.name ≠ "HEAD"
  final : 200 ≤ head.status.code
  hasBody : head.status.code ≠ 204 ∧ head.status.code ≠ 304
  coding : Token head.headers "transfer-encoding" "chunked"

section
variable {method : Method} {lead : Bytes} {head : Head}

theorem AnnouncesChunks.framing (announces : AnnouncesChunks method lead head) :
    framing method head = .ok .chunked := by
  have notHead : method.isHead = false := by simpa [Method.isHead] using announces.notHead
  have bodied : head.status.isBodiless = false := by
    have final := announces.final
    have hasBody := announces.hasBody
    simp [Status.isBodiless, Status.isInformational, hasBody.1, hasBody.2]
    omega
  have chunked : head.isChunked = true := (elements_iff (by decide)).mpr announces.coding
  simp [Http.framing, notHead, bodied, chunked]

/-- Behind such a head the answer is what the reader of chunks makes of the other bytes. -/
theorem answer_chunked (announces : AnnouncesChunks method lead head) {pieces : List Bytes} {wire : Bytes}
    (bytes : pieces.flatten = lead ++ wire) (ending : Ending) :
    ∃ intake : Intake, intake.stream = ⟨wire, ending, []⟩ ∧
      answer method (.inPieces pieces ending) = (Chunked.read intake).1.map (Response.mk head) := by
  obtain ⟨surplus, parsed⟩ := announces.parsed
  let intake : Intake := { buffer := [], source := .inPieces [wire] ending }
  have stream : intake.stream = ⟨wire, ending, []⟩ := by
    simp [intake, Intake.stream, Source.inPieces_stream]
  refine ⟨intake, stream, ?_⟩
  rcases answer_lead method ending announces.isLead bytes with answered | ⟨long, -⟩
  · rw [answered, answerAfter]
    simp only [parsed, announces.framing, readBody]
    rcases Chunked.read intake with ⟨error | body, rest⟩ <;> rfl
  · exact absurd announces.short (Nat.not_le_of_lt long)

/-- The answer to chunks with other bytes behind them is a fault, or what the reader makes of those bytes once the
chunks are counted. -/
theorem answer_chunks (announces : AnnouncesChunks method lead head) {chunks : List SentChunk}
    (formed : ∀ c ∈ chunks, c.WellFormed) {pieces : List Bytes} {rest : Bytes}
    (bytes : pieces.flatten = lead ++ (chunks.flatMap SentChunk.wire ++ rest)) (ending : Ending) :
    (Text.limit64 ≤ (chunks.flatMap SentChunk.data).length ∧
      ∃ fault, answer method (.inPieces pieces ending) = .error (.protocol fault)) ∨
    ∃ (intake : Intake) (rounds : Nat), intake.stream = ⟨rest, ending, []⟩ ∧ rest.length < rounds + 1 ∧
      answer method (.inPieces pieces ending) =
        (Chunked.readChunks (rounds + 1) (chunks.flatMap SentChunk.data).length intake).1.map
          fun body => ⟨head, chunks.flatMap SentChunk.data ++ body⟩ := by
  obtain ⟨intake, stream, answered⟩ := answer_chunked announces bytes ending
  have begins : intake.stream = (Stream.mk rest ending []).prepend (chunks.flatMap SentChunk.wire) := stream
  have room := Nat.lt_succ_of_le intake.stream_length_le
  rw [answered, Chunked.read]
  rcases Chunked.readChunks_chunks formed begins room 0 with ⟨many, fault, failed⟩ | ⟨next, rounds, same, room', read⟩
  · refine .inl ⟨by omega, fault, ?_⟩
    rw [failed]
    rfl
  · obtain ⟨rounds, rfl⟩ : ∃ less, rounds = less + 1 := ⟨rounds - 1, by omega⟩
    refine .inr ⟨next, rounds, same, room', ?_⟩
    rw [read, Nat.zero_add]
    rcases (Chunked.readChunks (rounds + 1) _ next).1 with error | body <;> rfl

end

/-- Every way to write a body in chunks is read back: however the bytes are cut into pieces, whatever comes behind
them and however the stream ends, the answer has what the chunks hold, one behind the other. It is a fault of the
protocol where other bytes stand in the place of the line end behind a chunk, whatever follows, and where a size is no
64-bit number or takes the body past the largest one. -/
theorem answer_sentChunks {method : Method} {lead : Bytes} {head : Head} (announces : AnnouncesChunks method lead head)
    (pieces : List Bytes) (ending : Ending) :
    (∀ (b : SentChunks) (more : Bytes), b.WellFormed → b.data.length < Text.limit64 →
      pieces.flatten = lead ++ (b.wire ++ more) → answer method (.inPieces pieces ending) = .ok ⟨head, b.data⟩) ∧
    (∀ (before : List SentChunk) (c : SentChunk) (other more : Bytes), (∀ c ∈ before, c.WellFormed) → c.WellFormed →
      other.length = 2 → other ≠ lineEnd →
      pieces.flatten = lead ++ (before.flatMap SentChunk.wire ++ (c.front ++ (other ++ more))) →
      ∃ fault, answer method (.inPieces pieces ending) = .error (.protocol fault)) ∧
    ∀ (before : List SentChunk) (n : Nat) (digits : String) (extension : Option String) (more : Bytes),
      (∀ c ∈ before, c.WellFormed) → Text.Hexadecimal n digits → (∀ text ∈ extension, '\n' ∉ text.toList) → 0 < n →
      Text.limit64 ≤ (before.flatMap SentChunk.data).length + n →
      pieces.flatten = lead ++ (before.flatMap SentChunk.wire ++ (sizeLine digits extension ++ more)) →
      ∃ fault, answer method (.inPieces pieces ending) = .error (.protocol fault) := by
  refine ⟨?_, ?_, ?_⟩
  · intro b more formed fits bytes
    rw [SentChunks.wire, List.append_assoc] at bytes
    rcases answer_chunks announces formed.chunks bytes ending with ⟨many, -⟩ | ⟨intake, rounds, stream, room, answered⟩
    · exact absurd fits (Nat.not_lt_of_le many)
    · have last := Chunked.readChunks_ends (s := ⟨more, ending, []⟩) formed stream (by rw [stream]; exact room)
      rw [answered, last]
      simp [Except.map, SentChunks.data]
  · intro before c other more formed whole two differ bytes
    rw [← List.append_assoc c.front] at bytes
    rcases answer_chunks announces formed bytes ending with ⟨-, failed⟩ | ⟨intake, rounds, stream, -, answered⟩
    · exact failed
    · obtain ⟨fault, failed⟩ := Chunked.readChunks_misplaced (s := ⟨more, ending, []⟩) whole two differ stream rounds
        (before.flatMap SentChunk.data).length
      refine ⟨fault, ?_⟩
      rw [answered, failed]
      rfl
  · intro before n digits extension more formed written inLine positive exceeds bytes
    rcases answer_chunks announces formed bytes ending with ⟨-, failed⟩ | ⟨intake, rounds, stream, -, answered⟩
    · exact failed
    · obtain ⟨fault, failed⟩ := Chunked.readChunks_tooLarge (s := ⟨more, ending, []⟩) written inLine stream
        (Nat.ne_of_gt positive) exceeds rounds
      refine ⟨fault, ?_⟩
      rw [answered, failed]
      rfl

/-- A chunk with zeros and a capital letter in its size, a quote and a carriage return in its extension, and data that
looks like the end of the body. -/
private def misleading : SentChunk := ⟨"00A", some "x=\"é;\r\"", Text.encode "3\r\n0\r\n\r\n22"⟩

private def twoChunks : SentChunks := ⟨[misleading, ⟨"1", none, [0xFF]⟩], "00", some "last", ["a: b", "é"]⟩

private def codedLead : Bytes :=
  Text.encode "HTTP/1.1 200 OK\r\nContent-Length: x\r\nTransfer-Encoding: gzip, Chunked\r\n\r\n"

private def codedHead : Head :=
  ⟨.http11, ⟨200⟩, ⟨[("content-length", [Text.encode "x"]), ("transfer-encoding", [Text.encode "gzip, Chunked"])]⟩⟩

/-- Read byte by byte; cut off behind the other bytes; and with a size that is one too large behind the first chunk. -/
theorem answer_sentChunks_misleading :
    AnnouncesChunks .get codedLead codedHead ∧ twoChunks.WellFormed ∧
    answer .get (.inPieces ((codedLead ++ twoChunks.wire).map ([·])) (.failing .tryAgain)) =
      .ok ⟨codedHead, Text.encode "3\r\n0\r\n\r\n22" ++ [0xFF]⟩ ∧
    (∃ fault, answer .get (.inPieces [codedLead ++ (misleading.front ++ [0x0A, 0x0D])] .closed) =
      .error (.protocol fault)) ∧
    ∃ fault, answer .get (.inPieces [codedLead, misleading.wire, sizeLine "fffffffffffffFf6" none] .closed) =
      .error (.protocol fault) := by
  have announces : AnnouncesChunks .get codedLead codedHead :=
    { isLead := by unfold Lead; decide +kernel
      short := by decide +kernel
      parsed := ⟨[], by decide +kernel⟩
      notHead := by decide
      final := by decide
      hasBody := by decide
      coding := (elements_iff (by decide)).mp (by decide +kernel) }
  have first : misleading.WellFormed := ⟨⟨2, by decide +kernel⟩, by simp [misleading], by decide +kernel⟩
  have second : SentChunk.WellFormed ⟨"1", none, [0xFF]⟩ := ⟨⟨0, by decide +kernel⟩, by simp, by decide⟩
  have formed : twoChunks.WellFormed :=
    { chunks := by simp [twoChunks, first, second]
      size := ⟨1, by decide +kernel⟩
      extension := by simp [twoChunks]
      trailer := by decide }
  have singles (bytes : Bytes) : (bytes.map ([·])).flatten = bytes := by
    rw [← List.flatMap_def]
    simp
  refine ⟨announces, formed, ?_, ?_, ?_⟩
  · obtain ⟨read, -, -⟩ := answer_sentChunks announces ((codedLead ++ twoChunks.wire).map ([·])) (.failing .tryAgain)
    have data : twoChunks.data = Text.encode "3\r\n0\r\n\r\n22" ++ [0xFF] := rfl
    have fits : twoChunks.data.length < Text.limit64 := by decide +kernel
    rw [← data]
    exact read twoChunks [] formed fits (by rw [singles, List.append_nil])
  · obtain ⟨-, misplaced, -⟩ := answer_sentChunks announces [codedLead ++ (misleading.front ++ [0x0A, 0x0D])] .closed
    exact misplaced [] misleading [0x0A, 0x0D] [] (by simp) first rfl (by decide) (by simp)
  · obtain ⟨-, -, tooLarge⟩ := answer_sentChunks announces
      [codedLead, misleading.wire, sizeLine "fffffffffffffFf6" none] .closed
    exact tooLarge [misleading] 18446744073709551606 "fffffffffffffFf6" none [] (by simp [first])
      ⟨0, by decide +kernel⟩ (by simp) (by decide) (by decide +kernel) (by simp)

end EngineClient.Http
