import EngineClient.Http.Chunked
import EngineClient.Proofs.Http.Intake
/-!
# Chunked coding

What the bytes of a chunked body are (`Coded`), stated without a reader: size lines, data and a trailer. A
coding that the end of the stream cuts short is one that ends in its trailer or in the line that announces
its end. The reader takes exactly a coding (`read_sound`, `read_complete`), and what it answers depends on
the stream alone (`read_congr`).
-/

namespace EngineClient.Http.Chunked

/-- A line that announces a size. -/
def SizeLine (cut : Bool) (size : Nat) (line : Bytes) : Prop :=
  Line cut line ∧ ∃ text, Text.decode line = .ok text ∧ readSize text = .ok size

/-- What follows the last chunk: lines that are not blank, and then a blank one or the end of the stream. -/
inductive Trailer : (cut : Bool) → Bytes → Prop
  | blank {line : Bytes} {text : String} (isLine : Line false line) (decoded : Text.decode line = .ok text)
      (isBlank : Text.isBlankText text = true) : Trailer false line
  | cut {line : Bytes} {text : String} (isLine : Line true line) (decoded : Text.decode line = .ok text) :
      Trailer true line
  | field {cut : Bool} {line more : Bytes} {text : String} (isLine : Line false line)
      (decoded : Text.decode line = .ok text) (filled : Text.isBlankText text = false)
      (rest : Trailer cut more) : Trailer cut (line ++ more)

/-- The bytes of a chunked body, when `start` bytes of it came before. -/
inductive Coded : (cut : Bool) → (start : Nat) → (wire body : Bytes) → Prop
  | last {cut : Bool} {start : Nat} {line trailer : Bytes} (size : SizeLine false 0 line)
      (trails : Trailer cut trailer) : Coded cut start (line ++ trailer) []
  | lastCut {start : Nat} {line : Bytes} (size : SizeLine true 0 line) : Coded true start line []
  | chunk {cut : Bool} {start : Nat} {line data wire body : Bytes} (size : SizeLine false data.length line)
      (some : data ≠ []) (fits : start + data.length < Text.limit64)
      (rest : Coded cut (start + data.length) wire body) :
      Coded cut start (line ++ (data ++ ([0x0D, 0x0A] ++ wire))) (data ++ body)

theorem decode_nil : Text.decode [] = .ok "" := by
  rw [Text.decode, Text.decodeChars, Text.decodeFrom]
  rfl

private theorem readSize_empty : readSize "" = .error (.chunkSize "") := rfl

theorem SizeLine.ne_nil {cut : Bool} {size : Nat} {line : Bytes} (isSize : SizeLine cut size line) : line ≠ [] := by
  rintro rfl
  obtain ⟨-, text, decoded, reads⟩ := isSize
  rw [decode_nil] at decoded
  cases decoded
  simp [readSize_empty] at reads

private theorem ne_nil_of_filled {line : Bytes} {text : String} (decoded : Text.decode line = .ok text)
    (filled : Text.isBlankText text = false) : line ≠ [] := by
  rintro rfl
  rw [decode_nil] at decoded
  cases decoded
  exact absurd filled (by decide)

/-! ## The trailer -/

theorem readLine_of_takes {intake : Intake} {after : Stream} {cut : Bool} {line : Bytes} {text : String}
    (isLine : Line cut line) (decoded : Text.decode line = .ok text) (takes : intake.stream.Takes line cut after) :
    ∃ rest, intake.readLine = (.ok text, rest) ∧ rest.stream = after := by
  apply Stream.outcome_eq_ok
  rw [Intake.readLine_outcome]
  exact Stream.readLine_eq_ok_iff.mpr ⟨cut, line, isLine, decoded, takes⟩

theorem skipTrailer_sound {lines : Nat} {intake rest : Intake} (room : intake.stream.bytes.length < lines)
    (skipped : skipTrailer lines intake = (.ok (), rest)) :
    ∃ cut trailer, Trailer cut trailer ∧ intake.stream.Takes trailer cut rest.stream := by
  induction lines generalizing intake with
  | zero => omega
  | succ lines ih =>
    rw [skipTrailer] at skipped
    rcases Stream.outcome_cases intake.readLine_outcome with ⟨cause, next, read, -⟩ | ⟨text, next, read, ofStream⟩
    · simp [read] at skipped
    · obtain ⟨cut, line, isLine, decoded, takes⟩ := Stream.readLine_eq_ok_iff.mp ofStream
      cases isBlank : Text.isBlankText text with
      | true =>
        simp only [read, isBlank, ↓reduceIte, Prod.mk.injEq, true_and] at skipped
        subst skipped
        cases cut with
        | false => exact ⟨false, line, .blank isLine decoded isBlank, takes⟩
        | true => exact ⟨true, line, .cut isLine decoded, takes⟩
      | false =>
        simp only [read, isBlank, Bool.false_eq_true, ↓reduceIte] at skipped
        have shorter : next.stream.bytes.length < lines := by
          have := List.length_pos_iff.mpr (ne_nil_of_filled decoded isBlank)
          simp only [takes.begins, Stream.prepend_bytes, List.length_append] at room
          omega
        obtain ⟨cut', trailer, trails, takes'⟩ := ih shorter skipped
        cases cut with
        | false => exact ⟨cut', line ++ trailer, .field isLine decoded isBlank trails, takes.append takes'⟩
        | true =>
          -- Nothing follows a line that the end cuts, so the rest of the trailer is empty.
          have none := (takes.ends rfl).1
          rw [takes'.begins, Stream.prepend_bytes, List.append_eq_nil_iff] at none
          refine ⟨true, line, .cut isLine decoded, ?_⟩
          rwa [takes'.begins, none.1, Stream.prepend_nil] at takes

theorem skipTrailer_complete {cut : Bool} {trailer : Bytes} (trails : Trailer cut trailer) {lines : Nat}
    {intake : Intake} {after : Stream} (takes : intake.stream.Takes trailer cut after)
    (room : trailer.length < lines) :
    ∃ rest, skipTrailer lines intake = (.ok (), rest) ∧ rest.stream = after := by
  induction trails generalizing lines intake with
  | blank isLine decoded isBlank =>
    obtain ⟨rest, read, same⟩ := readLine_of_takes isLine decoded takes
    cases lines with
    | zero => omega
    | succ lines => exact ⟨rest, by simp [skipTrailer, read, isBlank], same⟩
  | @cut line text isLine decoded =>
    obtain ⟨rest, read, same⟩ := readLine_of_takes isLine decoded takes
    cases lines with
    | zero => omega
    | succ lines =>
      cases isBlank : Text.isBlankText text with
      | true => exact ⟨rest, by simp [skipTrailer, read, isBlank], same⟩
      | false =>
        -- Another line is read, and it is empty.
        have ended : rest.stream.Takes [] true after := by
          rw [same]
          exact ⟨rfl, takes.ends⟩
        obtain ⟨rest', read', same'⟩ := readLine_of_takes (by simp [Line]) decode_nil ended
        have some := List.length_pos_iff.mpr (ne_nil_of_filled decoded isBlank)
        cases lines with
        | zero => omega
        | succ lines =>
          refine ⟨rest', ?_, same'⟩
          have blankNow : Text.isBlankText "" = true := by decide
          simp [skipTrailer, read, isBlank, read', blankNow]
  | @field cut line more text isLine decoded filled trails ih =>
    obtain ⟨next, read, same⟩ := readLine_of_takes isLine decoded takes.first
    cases lines with
    | zero => omega
    | succ lines =>
      have shorter : more.length < lines := by
        have := List.length_pos_iff.mpr isLine.ne_nil
        simp only [List.length_append] at room
        omega
      have onward : next.stream.Takes more cut after := ⟨same, takes.ends⟩
      obtain ⟨rest, skipped, same'⟩ := ih onward shorter
      exact ⟨rest, by simp [skipTrailer, read, filled, skipped], same'⟩

/-! ## Data -/

theorem readData_sound {intake rest : Intake} {size : Nat} {data : Bytes}
    (read : readData intake size = (.ok data, rest)) :
    data.length = size ∧ intake.stream.Takes (data ++ [0x0D, 0x0A]) false rest.stream := by
  rw [readData] at read
  rcases Stream.outcome_cases (intake.readBlock_outcome size) with ⟨cause, next, first, -⟩ | ⟨found, next, first, block⟩
  · simp [first] at read
  · simp only [first] at read
    split_ifs at read with short
    · simp at read
    · rcases Stream.block_eq_ok_iff.mp block with ⟨exact, takes⟩ | ⟨less, -⟩
      · rcases Stream.outcome_cases (next.readExact_outcome 2) with
          ⟨cause, last, second, -⟩ | ⟨crlf, last, second, block'⟩
        · simp [second] at read
        · simp only [second] at read
          split_ifs at read with short' ends
          · simp at read
          · simp only [Prod.mk.injEq, Except.ok.injEq] at read
            obtain ⟨rfl, rfl⟩ := read
            rcases Stream.block_eq_ok_iff.mp block' with ⟨-, takes'⟩ | ⟨less', -⟩
            · exact ⟨exact, takes.append (ends ▸ takes')⟩
            · omega
          · simp at read
      · omega

theorem readData_complete {intake : Intake} {data : Bytes} {after : Stream}
    (takes : intake.stream.Takes (data ++ [0x0D, 0x0A]) false after) :
    ∃ rest, readData intake data.length = (.ok data, rest) ∧ rest.stream = after := by
  have first : intake.stream.block data.length = .ok (data, after.prepend [0x0D, 0x0A]) :=
    Stream.block_eq_ok_iff.mpr (.inl ⟨rfl, takes.first⟩)
  obtain ⟨next, read, same⟩ := Stream.outcome_eq_ok ((intake.readBlock_outcome _).trans first)
  have second : next.stream.block 2 = .ok ([0x0D, 0x0A], after) :=
    Stream.block_eq_ok_iff.mpr (.inl ⟨rfl, .of_eq same⟩)
  obtain ⟨rest, read', same'⟩ := Stream.outcome_eq_ok ((next.readExact_outcome _).trans second)
  exact ⟨rest, by simp [readData, read, read'], same'⟩

/-! ## Chunks -/

/-- What a round of the reader does when it ends well. -/
private theorem readChunks_cases {chunks start : Nat} {intake rest : Intake} {body : Bytes}
    (read : readChunks (chunks + 1) start intake = (.ok body, rest)) :
    ∃ text next, intake.readLine = (.ok text, next) ∧
      ((readSize text = .ok 0 ∧ body = [] ∧ skipTrailer (next.size + 1) next = (.ok (), rest)) ∨
       ∃ size data middle more, readSize text = .ok size ∧ 0 < size ∧ start + size < Text.limit64 ∧
         readData next size = (.ok data, middle) ∧
         readChunks chunks (start + size) middle = (.ok more, rest) ∧ body = data ++ more) := by
  rw [readChunks] at read
  generalize intake.readLine = line at read ⊢
  obtain ⟨answer, next⟩ := line
  cases answer with
  | error cause => simp at read
  | ok text =>
    refine ⟨text, next, rfl, ?_⟩
    simp only at read
    split at read
    · simp at read
    · split at read
      · simp at read
      · rename_i announced
        split at read
        · rename_i skipped
          simp only [Prod.mk.injEq, Except.ok.injEq] at read
          exact .inl ⟨announced, read.1.symm, by rw [skipped, read.2]⟩
        · simp at read
      · rename_i size positive announced
        split at read
        · simp at read
        · rename_i fits
          split at read
          · simp at read
          · rename_i data middle found
            split at read
            · simp at read
            · rename_i more last others
              simp only [Prod.mk.injEq, Except.ok.injEq] at read
              refine .inr ⟨size, data, middle, more, announced, Nat.pos_of_ne_zero ?_, Nat.lt_of_not_le fits,
                found, by rw [others, read.2], read.1.symm⟩
              rintro rfl
              exact positive rfl

/-- The reader takes a coding and nothing more. -/
theorem readChunks_sound {chunks start : Nat} {intake rest : Intake} {body : Bytes}
    (read : readChunks chunks start intake = (.ok body, rest)) :
    ∃ cut wire, Coded cut start wire body ∧ intake.stream.Takes wire cut rest.stream := by
  induction chunks generalizing start intake body with
  | zero => simp [readChunks] at read
  | succ chunks ih =>
    obtain ⟨text, next, line, rounds⟩ := readChunks_cases read
    have ofStream := intake.readLine_outcome
    rw [line] at ofStream
    obtain ⟨cut, bytes, isLine, decoded, takes⟩ := Stream.readLine_eq_ok_iff.mp ofStream.symm
    rcases rounds with ⟨announced, rfl, skipped⟩ | ⟨size, data, middle, more, announced, positive, fits, found, others, rfl⟩
    · have room := next.stream_length_le
      obtain ⟨cut', trailer, trails, takes'⟩ := skipTrailer_sound (by omega) skipped
      cases cut with
      | false => exact ⟨cut', bytes ++ trailer, .last ⟨isLine, text, decoded, announced⟩ trails, takes.append takes'⟩
      | true =>
        -- Nothing follows a line that the end cuts, so there is no trailer.
        have none := (takes.ends rfl).1
        rw [takes'.begins, Stream.prepend_bytes, List.append_eq_nil_iff] at none
        refine ⟨true, bytes, .lastCut ⟨isLine, text, decoded, announced⟩, ?_⟩
        rwa [takes'.begins, none.1, Stream.prepend_nil] at takes
    · obtain ⟨length, takesData⟩ := readData_sound found
      obtain ⟨cut', wire, coded, takesRest⟩ := ih others
      subst length
      cases cut with
      | false =>
        refine ⟨cut', _, .chunk ⟨isLine, text, decoded, announced⟩ (List.length_pos_iff.mp positive) fits coded, ?_⟩
        simpa using takes.append (takesData.append takesRest)
      | true =>
        have none := (takes.ends rfl).1
        simp [takesData.begins] at none

theorem not_isEmpty_of_readSize {text : String} {size : Nat} (announced : readSize text = .ok size) :
    text.isEmpty = false := by
  cases empty : text.isEmpty with
  | false => rfl
  | true =>
    rw [String.isEmpty_iff] at empty
    simp [empty, readSize_empty] at announced

private theorem readChunks_last {chunks start : Nat} {intake next rest : Intake} {text : String}
    (line : intake.readLine = (.ok text, next)) (announced : readSize text = .ok 0)
    (skipped : skipTrailer (next.size + 1) next = (.ok (), rest)) :
    readChunks (chunks + 1) start intake = (.ok [], rest) := by
  simp only [readChunks, line, not_isEmpty_of_readSize announced, announced, skipped, Bool.false_eq_true, ↓reduceIte]

private theorem readChunks_chunk {chunks start size : Nat} {intake next middle rest : Intake} {text : String}
    {data more : Bytes} (line : intake.readLine = (.ok text, next)) (announced : readSize text = .ok size)
    (positive : size ≠ 0) (fits : start + size < Text.limit64) (found : readData next size = (.ok data, middle))
    (others : readChunks chunks (start + size) middle = (.ok more, rest)) :
    readChunks (chunks + 1) start intake = (.ok (data ++ more), rest) := by
  simp only [readChunks, line, not_isEmpty_of_readSize announced, announced, Bool.false_eq_true, ↓reduceIte,
    if_neg (Nat.not_le_of_lt fits), found, others]

/-- The reader takes every coding that its stream begins with. -/
theorem readChunks_complete {cut : Bool} {start : Nat} {wire body : Bytes} (coded : Coded cut start wire body)
    {chunks : Nat} {intake : Intake} {after : Stream} (takes : intake.stream.Takes wire cut after)
    (room : wire.length < chunks) :
    ∃ rest, readChunks chunks start intake = (.ok body, rest) ∧ rest.stream = after := by
  induction coded generalizing chunks intake with
  | @last cut start line trailer size trails =>
    obtain ⟨isLine, text, decoded, announced⟩ := size
    obtain ⟨next, read, same⟩ := readLine_of_takes isLine decoded takes.first
    have enough : trailer.length < next.size + 1 := by
      have bound := next.stream_length_le
      simp only [same, Stream.prepend_bytes, List.length_append] at bound
      omega
    have onward : next.stream.Takes trailer cut after := ⟨same, takes.ends⟩
    obtain ⟨rest, skipped, same'⟩ := skipTrailer_complete trails onward enough
    cases chunks with
    | zero => omega
    | succ chunks => exact ⟨rest, readChunks_last read announced skipped, same'⟩
  | @lastCut start line size =>
    obtain ⟨isLine, text, decoded, announced⟩ := size
    obtain ⟨next, read, same⟩ := readLine_of_takes isLine decoded takes
    -- The trailer is what is left of the stream: nothing.
    have ended : next.stream.Takes [] true after := ⟨same, takes.ends⟩
    obtain ⟨rest, skipped, same'⟩ := skipTrailer_complete (.cut (by simp [Line]) decode_nil) ended
      (Nat.succ_pos next.size)
    cases chunks with
    | zero => omega
    | succ chunks => exact ⟨rest, readChunks_last read announced skipped, same'⟩
  | @chunk cut start line data wire body size some fits coded ih =>
    obtain ⟨isLine, text, decoded, announced⟩ := size
    obtain ⟨next, read, same⟩ := readLine_of_takes isLine decoded takes.first
    have onward : next.stream.Takes ((data ++ [0x0D, 0x0A]) ++ wire) cut after := by
      rw [List.append_assoc]
      exact ⟨same, takes.ends⟩
    obtain ⟨middle, found, same'⟩ := readData_complete onward.first
    cases chunks with
    | zero => omega
    | succ chunks =>
      have shorter : wire.length < chunks := by
        simp only [List.length_append, List.length_cons, List.length_nil] at room
        omega
      have last : middle.stream.Takes wire cut after := ⟨same', takes.ends⟩
      obtain ⟨rest, others, same''⟩ := ih last shorter
      have positive : data.length ≠ 0 := by simpa using some
      exact ⟨rest, readChunks_chunk read announced positive fits found others, same''⟩

theorem read_sound {intake rest : Intake} {body : Bytes} (answered : read intake = (.ok body, rest)) :
    ∃ cut wire, Coded cut 0 wire body ∧ intake.stream.Takes wire cut rest.stream :=
  readChunks_sound answered

theorem read_complete {cut : Bool} {wire body : Bytes} (coded : Coded cut 0 wire body) {intake : Intake}
    {after : Stream} (takes : intake.stream.Takes wire cut after) :
    ∃ rest, read intake = (.ok body, rest) ∧ rest.stream = after := by
  refine readChunks_complete coded takes ?_
  have bound := intake.stream_length_le
  simp only [takes.begins, Stream.prepend_bytes, List.length_append] at bound
  omega

/-! ## The answer of the reader -/

/-- A line that is not empty leaves less to come. -/
private theorem readLine_shorter {intake next : Intake} {text : String} (line : intake.readLine = (.ok text, next))
    (some : text.isEmpty = false) : next.stream.bytes.length < intake.stream.bytes.length := by
  have ofStream := intake.readLine_outcome
  rw [line] at ofStream
  obtain ⟨cut, bytes, -, decoded, takes⟩ := Stream.readLine_eq_ok_iff.mp ofStream.symm
  have positive : bytes ≠ [] := by
    rintro rfl
    rw [decode_nil] at decoded
    cases decoded
    exact absurd some (by decide)
  have := List.length_pos_iff.mpr positive
  simp only [takes.begins, Stream.prepend_bytes, List.length_append]
  omega

section
variable {a b : Intake} (same : a.stream = b.stream)
include same

private theorem readLine_congr :
    Stream.outcome Intake.stream a.readLine = Stream.outcome Intake.stream b.readLine := by
  rw [Intake.readLine_outcome, Intake.readLine_outcome, same]

private theorem skipTrailer_congr {lines lines' : Nat} (room : a.stream.bytes.length < lines)
    (room' : b.stream.bytes.length < lines') :
    Stream.outcome Intake.stream (skipTrailer lines a) = Stream.outcome Intake.stream (skipTrailer lines' b) := by
  induction lines generalizing lines' a b with
  | zero => omega
  | succ lines ih =>
    cases lines' with
    | zero => omega
    | succ lines' =>
      rw [skipTrailer, skipTrailer]
      rcases Stream.outcome_congr_cases (readLine_congr same) with
        ⟨cause, next, next', read, read'⟩ | ⟨text, next, next', read, read', same'⟩
      · simp [read, read']
      · cases isBlank : Text.isBlankText text with
        | true => simp [read, read', isBlank, same']
        | false =>
          have some : text.isEmpty = false := by
            cases empty : text.isEmpty with
            | false => rfl
            | true =>
              rw [String.isEmpty_iff] at empty
              exact absurd isBlank (by rw [empty]; decide)
          have shorter := readLine_shorter read some
          have shorter' := readLine_shorter read' some
          simp only [read, read', isBlank, Bool.false_eq_true, ↓reduceIte]
          exact ih same' (by omega) (by omega)

private theorem readData_congr (size : Nat) :
    Stream.outcome Intake.stream (readData a size) = Stream.outcome Intake.stream (readData b size) := by
  have block := (a.readBlock_outcome size).trans (same ▸ (b.readBlock_outcome size).symm)
  rw [readData, readData]
  rcases Stream.outcome_congr_cases block with
    ⟨cause, next, next', read, read'⟩ | ⟨data, next, next', read, read', same'⟩
  · simp [read, read']
  · simp only [read, read']
    have block' := (next.readExact_outcome 2).trans (same' ▸ (next'.readExact_outcome 2).symm)
    rcases Stream.outcome_congr_cases block' with
      ⟨cause, last, last', end', end''⟩ | ⟨crlf, last, last', end', end'', same''⟩
    · simp only [end', end'']
      split_ifs <;> rfl
    · simp only [end', end'']
      split_ifs <;> simp [same'']

private theorem readChunks_congr {chunks chunks' : Nat} (start : Nat) (room : a.stream.bytes.length < chunks)
    (room' : b.stream.bytes.length < chunks') :
    Stream.outcome Intake.stream (readChunks chunks start a) =
      Stream.outcome Intake.stream (readChunks chunks' start b) := by
  induction chunks generalizing chunks' start a b with
  | zero => omega
  | succ chunks ih =>
    cases chunks' with
    | zero => omega
    | succ chunks' =>
      rw [readChunks, readChunks]
      rcases Stream.outcome_congr_cases (readLine_congr same) with
        ⟨cause, next, next', read, read'⟩ | ⟨text, next, next', read, read', same'⟩
      · simp [read, read']
      · simp only [read, read']
        cases some : text.isEmpty with
        | true => simp
        | false =>
          have shorter := readLine_shorter read some
          have shorter' := readLine_shorter read' some
          simp only [Bool.false_eq_true, ↓reduceIte]
          split
          · rfl
          · have enough := next.stream_length_le
            have enough' := next'.stream_length_le
            have skips := skipTrailer_congr same' (Nat.lt_succ_of_le enough) (Nat.lt_succ_of_le enough')
            rcases Stream.outcome_congr_cases skips with
              ⟨error, last, last', skip, skip'⟩ | ⟨_, last, last', skip, skip', same''⟩
            · simp [skip, skip']
            · simp [skip, skip', same'']
          · rename_i size _ _
            split_ifs
            · rfl
            · rcases Stream.outcome_congr_cases (readData_congr same' size) with
                ⟨error, middle, middle', found, found'⟩ | ⟨data, middle, middle', found, found', same''⟩
              · simp [found, found']
              · have less := congrArg (·.bytes.length) (readData_sound found).2.begins
                have less' := congrArg (·.bytes.length) (readData_sound found').2.begins
                simp only [Stream.prepend_bytes, List.length_append] at less less'
                have room'' : middle'.stream.bytes.length < chunks' := by omega
                have others := ih same'' (start + size) (by omega) room''
                simp only [found, found']
                rcases Stream.outcome_congr_cases others with
                  ⟨error, last, last', more, more'⟩ | ⟨body, last, last', more, more', same'''⟩
                · simp [more, more']
                · simp [more, more', same''']

/-- What the reader answers depends on its stream alone. -/
theorem read_congr : Stream.outcome Intake.stream (read a) = Stream.outcome Intake.stream (read b) :=
  readChunks_congr same 0 (Nat.lt_succ_of_le a.stream_length_le) (Nat.lt_succ_of_le b.stream_length_le)

end

end EngineClient.Http.Chunked
