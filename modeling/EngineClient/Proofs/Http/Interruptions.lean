import EngineClient.Proofs.Http.Message
import EngineClient.Proofs.System.CalmSources
/-!
# Interrupted reads

The readers of bodies make an interrupted read again: they answer as they do on the source without its
interruptions (`readBody_calm`), and no interruption is their answer (`readBody_lasting`). The reader of heads does
not. So an interruption changes what is answered exactly when it comes before the head is complete
(`interruptions_felt_iff`).
-/

namespace EngineClient

/-- A line is not cut off by an interruption. -/
theorem Stream.readLine_lasting {s : Stream} {cause : Failure} (lasting : s.ending.Lasting)
    (failed : s.readLine = .error cause) : cause.isInterrupted = false := by
  rw [readLine, line] at failed
  split at failed
  · rename_i ended
    cases failed
    split at ended
    · contradiction
    · exact all_lasting lasting ended
  · split at failed
    · contradiction
    · cases failed
      rfl

namespace Http

/-- An interruption comes when there are bytes of a head, but not a whole one, and not more of them than the reader
of heads puts up with. -/
def InterruptsFrom (buffer : Bytes) (source : Source) (cause : Failure) : Prop :=
  ∃ front, Source.firstFailure source.events = some (front, cause) ∧ cause.isInterrupted = true ∧
    headEnd (buffer ++ front) = none ∧ (buffer ++ front).length ≤ headLimit

/-- An interruption is the first failure, and it comes before a whole head. -/
def InterruptsHead (source : Source) (cause : Failure) : Prop := InterruptsFrom [] source cause

private theorem not_interruptsFrom {source rest : Source} {most : Nat} {result : Source.Answer}
    (met : ∀ cause, Source.firstFailure source.events = some ([], cause) → cause.isInterrupted = false)
    (read : source.read most = (result, rest)) (none : ∀ piece, result ≠ .got piece) (buffer : Bytes) (cause : Failure) :
    ¬ InterruptsFrom buffer source cause := by
  rintro ⟨front, first, again, -, -⟩
  have noBytes : ∀ piece, (source.read most).1 ≠ .got piece := by rwa [read]
  obtain rfl := Source.firstFailure_of_not_got noBytes first
  rw [met cause first] at again
  contradiction

private theorem interruptsFrom_got {source rest : Source} {buffer piece : Bytes} {most : Nat}
    (read : source.read most = (.got piece, rest)) (cause : Failure) :
    InterruptsFrom buffer source cause ↔ InterruptsFrom (buffer ++ piece) rest cause := by
  simp only [InterruptsFrom, Source.firstFailure_of_got read, Option.map_eq_some_iff, Prod.exists, Prod.mk.injEq]
  constructor
  · rintro ⟨_, ⟨front, _, first, rfl, rfl⟩, again, headless, short⟩
    exact ⟨front, first, again, by rwa [List.append_assoc], by rwa [List.append_assoc]⟩
  · rintro ⟨front, first, again, headless, short⟩
    rw [List.append_assoc] at headless short
    exact ⟨piece ++ front, ⟨front, cause, first, rfl, rfl⟩, again, headless, short⟩

private theorem readHeadFor_calm {source : Source} {buffer : Bytes} {reads : Nat}
    (room : headLimit + 2 ≤ reads + buffer.length) (some : 0 < reads) :
    (∃ cause, InterruptsFrom buffer source cause ∧ (readHeadFor source buffer reads).1 = .error (.io cause)) ∨
    ((∀ cause, ¬ InterruptsFrom buffer source cause) ∧
      readHeadFor source.calm buffer reads =
        ((readHeadFor source buffer reads).1, (readHeadFor source buffer reads).2.calm)) := by
  induction reads generalizing source buffer with
  | zero => omega
  | succ reads ih =>
    cases found : headEnd buffer with
    | some length =>
      refine .inr ⟨?_, by simp only [readHeadFor, found]⟩
      rintro cause ⟨front, -, -, headless, -⟩
      rw [headEnd_none_of_append headless] at found
      contradiction
    | none =>
      by_cases long : headLimit < buffer.length
      · refine .inr ⟨?_, by simp only [readHeadFor, found, if_pos long]⟩
        rintro cause ⟨front, -, -, -, short⟩
        rw [List.length_append] at short
        omega
      · by_cases met : ∀ cause, Source.firstFailure source.events = Option.some ([], cause) → cause.isInterrupted = false
        · have calm := Source.read_calm met headReadSize
          rcases read : source.read headReadSize with ⟨result, rest⟩
          rw [read] at calm
          cases result with
          | got piece =>
            have filled := List.length_pos_iff.mpr (Source.read_stream (by decide) read).1
            simp only [readHeadFor, found, if_neg long, read, calm, interruptsFrom_got read]
            apply ih
            · rw [List.length_append]
              omega
            · omega
          | failed cause =>
            exact .inr ⟨not_interruptsFrom met read (by simp) buffer, by simp only [readHeadFor, found, if_neg long, read, calm]⟩
          | closed =>
            exact .inr ⟨not_interruptsFrom met read (by simp) buffer, by simp only [readHeadFor, found, if_neg long, read, calm]⟩
        · obtain ⟨cause, interrupted⟩ := Classical.not_forall.mp met
          obtain ⟨first, again⟩ := Classical.not_imp.mp interrupted
          rw [Bool.not_eq_false] at again
          obtain ⟨rest, read⟩ := Source.read_of_failure first headReadSize
          refine .inl ⟨cause, ⟨[], first, again, by simpa using found, by simpa using long⟩, ?_⟩
          simp only [readHeadFor, found, if_neg long, read]

private theorem readHead_cases (source : Source) :
    (∃ cause, InterruptsHead source cause ∧ (readHead source).1 = .error (.io cause)) ∨
    ((∀ cause, ¬ InterruptsHead source cause) ∧
      readHead source.calm = ((readHead source).1, (readHead source).2.calm)) :=
  readHeadFor_calm (by simp) (by simp)

/-- An interruption that comes before a whole head is what the reader of heads fails with. -/
theorem readHead_interrupted {source : Source} {cause : Failure} (interrupts : InterruptsHead source cause) :
    (readHead source).1 = .error (.io cause) := by
  rcases readHead_cases source with
    ⟨other, ⟨front, first, -⟩, failed⟩ | ⟨none, -⟩
  · obtain ⟨front', first', -⟩ := interrupts
    rw [first] at first'
    cases first'
    exact failed
  · exact absurd interrupts (none cause)

/-- Without such an interruption the reader of heads answers as on the source without interruptions. -/
theorem readHead_calm {source : Source} (none : ∀ cause, ¬ InterruptsHead source cause) :
    readHead source.calm = ((readHead source).1, (readHead source).2.calm) := by
  rcases readHead_cases source with
    ⟨cause, interrupts, -⟩ | ⟨-, same⟩
  · exact absurd interrupts (none cause)
  · exact same

/-! ## Reading bodies -/

namespace Intake

/-- The intake without the interruptions of its source. -/
def calm (intake : Intake) : Intake := { intake with source := intake.source.calm }

theorem calm_size (intake : Intake) : intake.calm.size = intake.size :=
  congrArg (fun bytes : Bytes => intake.buffer.length + bytes.length) intake.source.calm_allBytes

/-- An answer, and the intake after it without the interruptions. -/
def calmly {α : Type} (answer : α × Intake) : α × Intake := (answer.1, answer.2.calm)

@[simp] theorem calmly_mk {α : Type} (result : α) (rest : Intake) : calmly (result, rest) = (result, rest.calm) := rfl

private theorem lineFor_calm (reads : Nat) (intake : Intake) :
    lineFor reads intake.calm = calmly (lineFor reads intake) := by
  induction reads generalizing intake with
  | zero => rfl
  | succ reads ih =>
    simp only [lineFor, calm, Source.fetch_calm]
    cases splitLine intake.buffer with
    | some split => rfl
    | none =>
      rcases intake.source.fetch bufferSize with ⟨bytes | _ | _, rest⟩
      · have later := ih { intake with buffer := bytes, source := rest }
        simp only [calm] at later
        simp only [later]
        rcases lineFor reads { intake with buffer := bytes, source := rest } with ⟨_ | more, last⟩ <;> rfl
      · rfl
      · rfl

private theorem line_calm (intake : Intake) : intake.calm.line = calmly intake.line := by
  have bytes : intake.calm.source.allBytes = intake.source.allBytes := intake.source.calm_allBytes
  rw [line, line, bytes, lineFor_calm]
  have buffer : intake.calm.buffer = intake.buffer := rfl
  rw [buffer]
  cases splitLine intake.buffer <;> rfl

theorem readLine_calm (intake : Intake) : intake.calm.readLine = calmly intake.readLine := by
  rw [readLine, readLine, line_calm]
  rcases intake.line with ⟨_ | bytes, rest⟩
  · rfl
  · simp only [calmly_mk]
    cases Text.decode bytes <;> rfl

theorem readSome_calm (intake : Intake) (most : Nat) : intake.calm.readSome most = calmly (intake.readSome most) := by
  obtain ⟨buffer, source, room, appetite⟩ := intake
  cases buffer with
  | cons b more => rfl
  | nil =>
    by_cases past : bufferSize ≤ most
    · simp only [readSome, calm, if_pos past, Source.fetch_calm, calmly_mk]
    · simp only [readSome, calm, if_neg past, Source.fetch_calm]
      rcases source.fetch bufferSize with ⟨_ | _ | _, rest⟩ <;> rfl

theorem readPart_calm (intake : Intake) (want : Nat) : intake.calm.readPart want = calmly (intake.readPart want) := by
  have reads := intake.readSome_calm (min (intake.appetite.ask intake.room) want)
  rw [readPart, readPart]
  simp only [calm] at reads ⊢
  simp only [reads]
  rcases intake.readSome (min (intake.appetite.ask intake.room) want) with ⟨_ | _ | _, rest⟩ <;> rfl

/-- Reads that do not notice interruptions collect the same bytes. -/
theorem collect_calm {read : Intake → Nat → Source.Answer × Intake}
    (calms : ∀ (intake : Intake) (want : Nat), read intake.calm want = calmly (read intake want))
    (reads want : Nat) (intake : Intake) :
    collect read reads want intake.calm = calmly (collect read reads want intake) := by
  induction reads generalizing want intake with
  | zero => rfl
  | succ reads ih =>
    cases want with
    | zero => rfl
    | succ want =>
      simp only [collect, calms]
      rcases read intake (want + 1) with ⟨bytes | _ | _, rest⟩
      · simp only [calmly_mk, ih]
        rcases collect read reads (want + 1 - bytes.length) rest with ⟨_ | more, last⟩ <;> rfl
      · rfl
      · rfl

theorem readBlock_calm (intake : Intake) (want : Nat) : intake.calm.readBlock want = calmly (intake.readBlock want) :=
  collect_calm readPart_calm want want { intake with room := intake.room.begin }

theorem readExact_calm (intake : Intake) (want : Nat) : intake.calm.readExact want = calmly (intake.readExact want) :=
  collect_calm readSome_calm want want intake

end Intake

namespace Chunked
open Intake (calmly calmly_mk)

theorem skipTrailer_calm (lines : Nat) (intake : Intake) :
    skipTrailer lines intake.calm = calmly (skipTrailer lines intake) := by
  induction lines generalizing intake with
  | zero => rfl
  | succ lines ih =>
    simp only [skipTrailer, intake.readLine_calm]
    rcases intake.readLine with ⟨_ | line, rest⟩
    · rfl
    · simp only [calmly_mk]
      by_cases blank : Text.isBlankText line = true
      · simp only [if_pos blank, calmly_mk]
      · simp only [if_neg blank, ih]

theorem readData_calm (intake : Intake) (size : Nat) : readData intake.calm size = calmly (readData intake size) := by
  simp only [readData, intake.readBlock_calm]
  rcases intake.readBlock size with ⟨_ | data, rest⟩
  · rfl
  · simp only [calmly_mk, rest.readExact_calm]
    by_cases short : data.length < size
    · simp only [if_pos short, calmly_mk]
    · simp only [if_neg short]
      rcases rest.readExact 2 with ⟨_ | crlf, last⟩
      · rfl
      · simp only [calmly_mk]
        split
        · rfl
        · split <;> rfl

theorem readChunks_calm (chunks start : Nat) (intake : Intake) :
    readChunks chunks start intake.calm = calmly (readChunks chunks start intake) := by
  induction chunks generalizing start intake with
  | zero => rfl
  | succ chunks ih =>
    simp only [readChunks, intake.readLine_calm]
    rcases intake.readLine with ⟨_ | line, rest⟩
    · rfl
    · simp only [calmly_mk]
      by_cases empty : line.isEmpty = true
      · simp only [if_pos empty, calmly_mk]
      · simp only [if_neg empty]
        cases readSize line with
        | error fault => rfl
        | ok size =>
          cases size with
          | zero =>
            simp only [rest.calm_size, skipTrailer_calm]
            rcases skipTrailer (rest.size + 1) rest with ⟨_ | _, last⟩ <;> rfl
          | succ size =>
            by_cases exceeds : Text.limit64 ≤ start + (size + 1)
            · simp only [if_pos exceeds, calmly_mk]
            · simp only [if_neg exceeds, readData_calm]
              rcases readData rest (size + 1) with ⟨_ | data, middle⟩
              · rfl
              · simp only [calmly_mk, ih]
                rcases readChunks chunks (start + (size + 1)) middle with ⟨_ | more, last⟩ <;> rfl

theorem read_calm (intake : Intake) : read intake.calm = calmly (read intake) := by
  rw [read, read, intake.calm_size, readChunks_calm]

end Chunked

/-- The readers of bodies do not notice interruptions. -/
theorem readBody_calm (form : Framing) (leftover : Bytes) (source : Source) :
    (readBody form leftover source.calm).1 = (readBody form leftover source).1 := by
  cases form with
  | none => rfl
  | chunked =>
    have chunks := Chunked.read_calm { buffer := leftover, source }
    simp only [Intake.calm] at chunks
    simp only [readBody, chunks]
    rcases Chunked.read { buffer := leftover, source } with ⟨_ | body, rest⟩ <;> rfl
  | length bytes =>
    by_cases less : bytes < leftover.length
    · simp only [readBody, if_pos less]
    · have gathers := (source.gather_outcome (Nat.le_of_not_lt less)).trans
        (source.calm_stream ▸ (source.calm.gather_outcome (Nat.le_of_not_lt less)).symm)
      rcases Stream.outcome_congr_cases gathers with
        ⟨cause, rest, rest', found, found'⟩ | ⟨body, rest, rest', found, found', -⟩
      · simp only [readBody, if_neg less, found, found']
      · simp only [readBody, if_neg less, found, found']
        split <;> rfl
  | toEnd =>
    have drains := (source.drain_outcome leftover).trans
      (source.calm_stream ▸ (source.calm.drain_outcome leftover).symm)
    rcases Stream.outcome_congr_cases drains with
      ⟨cause, rest, rest', found, found'⟩ | ⟨body, rest, rest', found, found', -⟩
    · simp only [readBody, found, found']
    · simp only [readBody, found, found']

/-! ## Failures of bodies -/

namespace Chunked
variable {intake rest : Intake} {cause : Failure}

theorem skipTrailer_lasting {lines : Nat} (lasting : intake.stream.ending.Lasting)
    (failed : skipTrailer lines intake = (.error (.io cause), rest)) : cause.isInterrupted = false := by
  induction lines generalizing intake with
  | zero => simp [skipTrailer] at failed
  | succ lines ih =>
    rw [skipTrailer] at failed
    rcases Stream.outcome_cases intake.readLine_outcome with ⟨other, next, read, ended⟩ | ⟨text, next, read, found⟩
    · simp only [read, Prod.mk.injEq, Except.error.injEq, TransportError.io.injEq] at failed
      exact failed.1 ▸ Stream.readLine_lasting lasting ended
    · obtain ⟨cut, line, -, -, takes⟩ := Stream.readLine_eq_ok_iff.mp found
      simp only [read] at failed
      split at failed
      · simp at failed
      · exact ih (takes.ending ▸ lasting) failed

theorem readData_lasting {size : Nat} (lasting : intake.stream.ending.Lasting)
    (failed : readData intake size = (.error (.io cause), rest)) : cause.isInterrupted = false := by
  rw [readData] at failed
  rcases Stream.outcome_cases (intake.readBlock_outcome size) with ⟨other, next, read, ended⟩ | ⟨data, next, read, found⟩
  · simp only [read, Prod.mk.injEq, Except.error.injEq, TransportError.io.injEq] at failed
    exact failed.1 ▸ Stream.block_lasting lasting ended
  · simp only [read] at failed
    split at failed
    · simp at failed
    · have lasting' : next.stream.ending.Lasting := by
        rcases Stream.block_eq_ok_iff.mp found with ⟨-, takes⟩ | ⟨-, takes⟩ <;> exact takes.ending ▸ lasting
      rcases Stream.outcome_cases (next.readExact_outcome 2) with ⟨other, last, read', ended⟩ | ⟨crlf, last, read', -⟩
      · simp only [read', Prod.mk.injEq, Except.error.injEq, TransportError.io.injEq] at failed
        exact failed.1 ▸ Stream.block_lasting lasting' ended
      · simp only [read'] at failed
        split at failed
        · cases failed
          rfl
        · split at failed <;> simp at failed

theorem readChunks_lasting {chunks start : Nat} (lasting : intake.stream.ending.Lasting)
    (failed : readChunks chunks start intake = (.error (.io cause), rest)) : cause.isInterrupted = false := by
  induction chunks generalizing start intake rest with
  | zero => simp [readChunks] at failed
  | succ chunks ih =>
    rw [readChunks] at failed
    rcases Stream.outcome_cases intake.readLine_outcome with ⟨other, next, read, ended⟩ | ⟨text, next, read, found⟩
    · simp only [read, Prod.mk.injEq, Except.error.injEq, TransportError.io.injEq] at failed
      exact failed.1 ▸ Stream.readLine_lasting lasting ended
    · obtain ⟨cut, line, -, -, takes⟩ := Stream.readLine_eq_ok_iff.mp found
      have lasting' : next.stream.ending.Lasting := takes.ending ▸ lasting
      simp only [read] at failed
      split at failed
      · simp at failed
      · split at failed
        · simp at failed
        · split at failed
          · simp at failed
          · rename_i trailer
            cases failed
            exact skipTrailer_lasting lasting' trailer
        · split at failed
          · simp at failed
          · split at failed
            · rename_i data
              cases failed
              exact readData_lasting lasting' data
            · rename_i data
              obtain ⟨-, takesData⟩ := readData_sound data
              split at failed
              · rename_i more
                cases failed
                exact ih (takesData.ending ▸ lasting') more
              · simp at failed

end Chunked

/-- No reader of bodies fails with an interruption that does not last. -/
theorem readBody_lasting {form : Framing} {leftover : Bytes} {source rest : Source} {cause : Failure}
    (lasting : source.stream.ending.Lasting) (failed : readBody form leftover source = (.error (.io cause), rest)) :
    cause.isInterrupted = false := by
  have lasting' : (source.stream.prepend leftover).ending.Lasting := lasting
  cases form with
  | none => simp [readBody] at failed
  | chunked =>
    simp only [readBody] at failed
    split at failed
    · simp at failed
    · rename_i chunks
      cases failed
      exact Chunked.readChunks_lasting (by exact lasting') chunks
  | length bytes =>
    simp only [readBody] at failed
    split at failed
    · simp at failed
    · rename_i less
      rcases Stream.outcome_cases (source.gather_outcome (Nat.le_of_not_lt less)) with
        ⟨other, next, found, ended⟩ | ⟨body, next, found, -⟩
      · simp only [found, Prod.mk.injEq, Except.error.injEq, TransportError.io.injEq] at failed
        exact failed.1 ▸ Stream.block_lasting lasting' ended
      · simp only [found] at failed
        split at failed <;> simp at failed
  | toEnd =>
    simp only [readBody] at failed
    rcases Stream.outcome_cases (source.drain_outcome leftover) with ⟨other, next, found, ended⟩ | ⟨body, next, found, -⟩
    · simp only [found, Prod.mk.injEq, Except.error.injEq, TransportError.io.injEq] at failed
      exact failed.1 ▸ Stream.all_lasting lasting' ended
    · simp [found] at failed

/-! ## Reading responses -/

private theorem readHeadFor_lasting {source rest : Source} {buffer : Bytes} {reads : Nat} {cause : Failure}
    (lasting : source.ending.Lasting) (calm : ∀ event ∈ source.events, event.isInterruption = false)
    (failed : readHeadFor source buffer reads = (.error (.io cause), rest)) : cause.isInterrupted = false := by
  induction reads generalizing source buffer with
  | zero => simp [readHeadFor] at failed
  | succ reads ih =>
    rw [readHeadFor] at failed
    split at failed
    · simp at failed
    · split at failed
      · simp at failed
      · split at failed
        · simp at failed
        · rename_i read
          cases failed
          exact (Source.read_lasting lasting calm read).2.2 _ rfl
        · rename_i read
          obtain ⟨lasting', calm', -⟩ := Source.read_lasting lasting calm read
          exact ih lasting' calm' failed

/-- Without interruptions none is the answer. -/
theorem readResponse_lasting {method : Method} {source : Source} {cause : Failure} (lasting : source.ending.Lasting)
    (failed : (readResponse method source.calm).1 = .error (.io cause)) : cause.isInterrupted = false := by
  have calm : ∀ event ∈ source.calm.events, event.isInterruption = false := by
    simp [Source.calm, Source.calmEvents]
  rcases read : readResponse method source.calm with ⟨result, rest⟩
  rw [read] at failed
  cases failed
  rw [readResponse] at read
  split at read
  · rename_i head
    cases read
    have lasting' : source.calm.ending.Lasting := lasting
    exact readHeadFor_lasting lasting' calm head
  · rename_i head
    split at read
    · simp at read
    · split at read
      · simp at read
      · split at read
        · rename_i body
          cases read
          refine readBody_lasting ?_ body
          have same := congrArg Stream.ending (readHead_sound head).2
          rw [Stream.prepend_ending] at same
          have lasting' : source.calm.ending.Lasting := lasting
          exact same ▸ Source.stream_lasting lasting'
        · simp at read

/-- Where no interruption comes before the head is complete, the source is answered as without interruptions. -/
theorem readResponse_calm {source : Source} (none : ∀ cause, ¬ InterruptsHead source cause) (method : Method) :
    (readResponse method source.calm).1 = (readResponse method source).1 := by
  rw [readResponse, readResponse, readHead_calm none]
  rcases readHead source with ⟨_ | ⟨lead, leftover⟩, rest⟩
  · rfl
  · rcases parsed : Head.parse lead with fault | ⟨head, surplus⟩
    · simp only [parsed]
    · cases framed : framing method head with
      | error fault => simp only [parsed, framed]
      | ok form =>
        have body := readBody_calm form leftover rest
        simp only [parsed, framed]
        revert body
        rcases readBody form leftover rest.calm with ⟨_ | read, last⟩ <;>
          rcases readBody form leftover rest with ⟨_ | read', last'⟩ <;> simp +contextual

/-- An interruption is felt if it comes before the head is complete, and then it is the answer; no other changes what
is answered. -/
theorem interruptions_felt_iff {method : Method} {source : Source} (lasting : source.ending.Lasting) :
    (∀ cause, InterruptsHead source cause → (readResponse method source).1 = .error (.io cause)) ∧
    ((readResponse method source).1 ≠ (readResponse method source.calm).1 ↔ ∃ cause, InterruptsHead source cause) := by
  have felt (cause : Failure) (interrupts : InterruptsHead source cause) :
      (readResponse method source).1 = .error (.io cause) := by
    have failed := readHead_interrupted interrupts
    rcases head : readHead source with ⟨result, rest⟩
    rw [head] at failed
    cases failed
    rw [readResponse]
    simp only [head]
  refine ⟨felt, ?_, ?_⟩
  · intro differ
    refine Classical.byContradiction fun none => differ ?_
    exact (readResponse_calm (fun cause interrupts => none ⟨cause, interrupts⟩) method).symm
  · rintro ⟨cause, interrupts⟩ same
    rw [felt cause interrupts] at same
    obtain ⟨-, -, again, -⟩ := interrupts
    rw [readResponse_lasting lasting same.symm] at again
    contradiction

/-- A response of two bytes with an interruption in the middle of its head and one in the middle of its body. -/
private def twiceInterrupted : Source :=
  ⟨[.bytes (Text.encode "HTTP/1.1 200 OK\r\nContent-"), .failure (.ofKind .interrupted),
    .bytes (Text.encode "Length: 2\r\n\r\nO"), .failure (.numbered 4), .bytes (Text.encode "K")], .closed⟩

private def okResponse : Response :=
  ⟨⟨.http11, ⟨200⟩, ⟨[("content-length", [Text.encode "2"])]⟩⟩, Text.encode "OK"⟩

theorem interruptions_felt_iff_inHead :
    twiceInterrupted.ending.Lasting ∧ InterruptsHead twiceInterrupted (.ofKind .interrupted) ∧
    (readResponse .get twiceInterrupted).1 = .error (.io (.ofKind .interrupted)) ∧
    (readResponse .get twiceInterrupted.calm).1 = .ok ⟨okResponse, true⟩ := by
  have lasting : twiceInterrupted.ending.Lasting := by
    rintro cause ⟨⟩
  have interrupts : InterruptsHead twiceInterrupted (.ofKind .interrupted) :=
    ⟨Text.encode "HTTP/1.1 200 OK\r\nContent-", by decide +kernel, rfl, by decide +kernel, by decide +kernel⟩
  exact ⟨lasting, interrupts, (interruptions_felt_iff lasting).1 _ interrupts, by decide +kernel⟩

/-- Not every interruption is passed over: with one in its head a response is not read. -/
theorem interruption_fails_head :
    ¬ ∀ (method : Method) (source interrupted : Source), interrupted.calm = source →
      (readResponse method interrupted).1 = (readResponse method source).1 := by
  intro transparent
  have same := transparent .get twiceInterrupted.calm twiceInterrupted rfl
  exact absurd same (by decide +kernel)

end Http
end EngineClient
