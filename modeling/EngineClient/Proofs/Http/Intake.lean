import EngineClient.Http.Intake
import EngineClient.Proofs.Stream
/-!
# The intake and its stream

The buffer of an intake and the source behind it are one stream (`Intake.stream`). A line and a block are
what stands at its start (`readLine_outcome`, `readBlock_outcome`), wherever the buffer ends and however much each
read asks for.
-/

namespace EngineClient.Http

/-! ## Lines -/

/-- A line with the line feed that ends it, or what the end of a stream leaves of one. -/
def Line : (cut : Bool) → Bytes → Prop
  | false, line => ∃ text, 0x0A ∉ text ∧ line = text ++ [0x0A]
  | true, line => 0x0A ∉ line

namespace Intake

private theorem splitLine_line (text rest : Bytes) (free : 0x0A ∉ text) :
    splitLine (text ++ 0x0A :: rest) = some (text ++ [0x0A], rest) := by
  induction text with
  | nil => simp [splitLine]
  | cons b more ih =>
    simp only [List.mem_cons, not_or] at free
    simp [splitLine, ih free.2, Ne.symm free.1]

private theorem splitLine_eq_some {bytes line rest : Bytes} (found : splitLine bytes = some (line, rest)) :
    Line false line ∧ bytes = line ++ rest := by
  induction bytes generalizing line with
  | nil => simp [splitLine] at found
  | cons b more ih =>
    by_cases feed : b = 0x0A
    · simp only [splitLine, feed, ↓reduceIte, Option.some.injEq, Prod.mk.injEq] at found
      obtain ⟨rfl, rfl⟩ := found
      exact ⟨⟨[], by simp, rfl⟩, by simp [feed]⟩
    · simp only [splitLine, feed, ↓reduceIte, Option.map_eq_some_iff, Prod.exists, Prod.mk.injEq] at found
      obtain ⟨line', rest', found', rfl, rfl⟩ := found
      obtain ⟨⟨text, free, rfl⟩, rfl⟩ := ih found'
      exact ⟨⟨b :: text, by simp [free, Ne.symm feed], rfl⟩, rfl⟩

theorem splitLine_eq_some_iff {bytes line rest : Bytes} :
    splitLine bytes = some (line, rest) ↔ Line false line ∧ bytes = line ++ rest := by
  refine ⟨splitLine_eq_some, ?_⟩
  rintro ⟨⟨text, free, rfl⟩, rfl⟩
  simpa using splitLine_line text rest free

theorem splitLine_eq_none_iff {bytes : Bytes} : splitLine bytes = none ↔ Line true bytes := by
  constructor
  · intro none feed
    obtain ⟨text, rest, rfl, free⟩ := List.eq_append_cons_of_mem feed
    simp [splitLine_line text rest free] at none
  · intro free
    cases found : splitLine bytes with
    | none => rfl
    | some split =>
      obtain ⟨line, rest⟩ := split
      obtain ⟨⟨text, -, rfl⟩, rfl⟩ := splitLine_eq_some found
      simp [Line] at free

end Intake

/-- Bytes have one first line. -/
theorem Line.unique {line line' rest rest' : Bytes} (whole : Line false line) (whole' : Line false line')
    (same : line ++ rest = line' ++ rest') : line = line' ∧ rest = rest' := by
  have first : Intake.splitLine (line ++ rest) = some (line, rest) := Intake.splitLine_eq_some_iff.mpr ⟨whole, rfl⟩
  have second := Intake.splitLine_eq_some_iff.mpr ⟨whole', same⟩
  simpa using first.symm.trans second

/-- Bytes without a line feed that stand where a line stands are a part of that line. -/
theorem Line.begins {text line more rest : Bytes} (cut : Line true text) (whole : Line false line)
    (same : text ++ more = line ++ rest) : ∃ left, left ≠ [] ∧ line = text ++ left ∧ more = left ++ rest := by
  obtain ⟨before, -, rfl⟩ := whole
  rcases List.append_eq_append_iff.mp same with ⟨left, lineIs, rfl⟩ | ⟨left, rfl, -⟩
  · refine ⟨left, ?_, lineIs, rfl⟩
    rintro rfl
    rw [List.append_nil] at lineIs
    simp [Line, ← lineIs] at cut
  · simp [Line] at cut

theorem Line.ne_nil {line : Bytes} (whole : Line false line) : line ≠ [] := by
  obtain ⟨text, -, rfl⟩ := whole
  simp

end EngineClient.Http

namespace EngineClient.Stream
open Http Http.Intake

/-- The next line, or what is left when none ends. -/
def line (s : Stream) : Except Failure (Bytes × Stream) :=
  match splitLine s.bytes with
  | some (line, rest) => .ok (line, { s with bytes := rest })
  | none => s.all

/-- The next line as text. -/
def readLine (s : Stream) : Except Failure (String × Stream) :=
  match s.line with
  | .error cause => .error cause
  | .ok (bytes, rest) =>
    match Text.decode bytes with
    | .ok line => .ok (line, rest)
    | .error _ => .error .notText

theorem line_eq_ok_iff {s rest : Stream} {bytes : Bytes} :
    s.line = .ok (bytes, rest) ↔ ∃ cut, Line cut bytes ∧ s.Takes bytes cut rest := by
  cases found : splitLine s.bytes with
  | some split =>
    obtain ⟨whole, parts⟩ := splitLine_eq_some_iff.mp found
    simp only [line, found, Except.ok.injEq, Prod.mk.injEq]
    constructor
    · rintro ⟨rfl, rfl⟩
      exact ⟨false, whole, .of_eq (by simp [prepend, ← parts])⟩
    · rintro ⟨cut, isLine, begins, ends⟩
      cases cut with
      | false =>
        have same : split.1 ++ split.2 = bytes ++ rest.bytes := by rw [← parts, begins]; rfl
        obtain ⟨rfl, tail⟩ := Line.unique whole isLine same
        exact ⟨rfl, by rw [begins, tail]; rfl⟩
      | true =>
        have onlyLine : s.bytes = bytes := by rw [begins]; simp [(ends rfl).1]
        rw [onlyLine, splitLine_eq_none_iff.mpr isLine] at found
        contradiction
  | none =>
    have free := splitLine_eq_none_iff.mp found
    simp only [line, found, all_eq_ok_iff]
    constructor
    · intro takes
      have onlyLine : s.bytes = bytes := by rw [takes.begins]; simp [(takes.ends rfl).1]
      exact ⟨true, onlyLine ▸ free, takes⟩
    · rintro ⟨cut, isLine, takes⟩
      cases cut with
      | true => exact takes
      | false =>
        have split := splitLine_eq_some_iff.mpr ⟨isLine, congrArg Stream.bytes takes.begins⟩
        rw [found] at split
        contradiction

theorem readLine_eq_ok_iff {s rest : Stream} {text : String} :
    s.readLine = .ok (text, rest) ↔
      ∃ cut bytes, Line cut bytes ∧ Text.decode bytes = .ok text ∧ s.Takes bytes cut rest := by
  constructor
  · intro read
    rw [readLine] at read
    split at read
    · contradiction
    · rename_i bytes _ found
      obtain ⟨cut, isLine, takes⟩ := line_eq_ok_iff.mp found
      split at read
      · rename_i decoded
        simp only [Except.ok.injEq, Prod.mk.injEq] at read
        obtain ⟨rfl, rfl⟩ := read
        exact ⟨cut, bytes, isLine, decoded, takes⟩
      · contradiction
  · rintro ⟨cut, bytes, isLine, decoded, takes⟩
    rw [readLine, line_eq_ok_iff.mpr ⟨cut, isLine, takes⟩]
    simp only [decoded]

private theorem line_prepend_of_some {front first rest : Bytes} (found : splitLine front = some (first, rest))
    (s : Stream) : (s.prepend front).line = .ok (first, s.prepend rest) := by
  obtain ⟨whole, rfl⟩ := splitLine_eq_some_iff.mp found
  exact line_eq_ok_iff.mpr ⟨false, whole, .of_eq (by simp)⟩

private theorem line_prepend_of_none {front : Bytes} (none : splitLine front = none) (s : Stream) :
    (s.prepend front).line = behind front s.line := by
  have free : 0x0A ∉ front := splitLine_eq_none_iff.mp none
  cases found : splitLine s.bytes with
  | some split =>
    obtain ⟨⟨text, free', line⟩, parts⟩ := splitLine_eq_some_iff.mp found
    have whole : Line false (front ++ split.1) := ⟨front ++ text, by simp [free, free'], by simp [line]⟩
    have joined : splitLine (s.prepend front).bytes = some (front ++ split.1, split.2) :=
      splitLine_eq_some_iff.mpr ⟨whole, by simp [parts]⟩
    simp only [Stream.line, found, joined]
    rfl
  | none =>
    have free' : 0x0A ∉ s.bytes := splitLine_eq_none_iff.mp found
    have joined : splitLine (s.prepend front).bytes = .none :=
      splitLine_eq_none_iff.mpr (by simp [Line, free, free'])
    simp only [Stream.line, found, joined, all_prepend]

end EngineClient.Stream

namespace EngineClient.Http.Intake

/-- The stream that is in the buffer and behind it. -/
def stream (intake : Intake) : Stream := intake.source.stream.prepend intake.buffer

theorem stream_length_le (intake : Intake) : intake.stream.bytes.length ≤ intake.size := by
  have bound := Source.stream_length_le intake.source
  simp only [stream, size, Stream.prepend_bytes, List.length_append]
  omega

/-! ## Lines of an intake -/

private theorem lineFor_outcome {reads : Nat} (intake : Intake) (room : intake.source.stream.bytes.length < reads) :
    Stream.outcome stream (lineFor reads intake) = intake.stream.line := by
  induction reads generalizing intake with
  | zero => omega
  | succ reads ih =>
    cases found : splitLine intake.buffer with
    | some split =>
      rw [stream, Stream.line_prepend_of_some found]
      simp [lineFor, found, stream]
    | none =>
      have fetched := intake.source.fetch_reads (by decide : 0 < bufferSize)
      rw [stream, Stream.line_prepend_of_none found]
      rcases read : intake.source.fetch bufferSize with ⟨answer, rest⟩
      rw [read] at fetched
      cases answer with
      | closed =>
        obtain ⟨none, closed, same⟩ := fetched
        simp only at same
        simp [lineFor, found, read, stream, same, Stream.line, none, splitLine, Stream.all_of_ended none closed,
          Stream.behind, Except.map]
      | failed cause =>
        obtain ⟨none, failing⟩ := fetched
        simp [lineFor, found, read, Stream.line, none, splitLine, Stream.all, failing, Stream.behind, Except.map]
      | got bytes =>
        obtain ⟨some, -, begins⟩ := fetched
        have filled := List.length_pos_iff.mpr some
        have left : rest.stream.bytes.length < reads := by
          rw [begins, Stream.prepend_bytes, List.length_append] at room
          simp only at room
          omega
        have later := ih { intake with buffer := bytes, source := rest } left
        have behind : rest.stream.prepend bytes = stream { intake with buffer := bytes, source := rest } := rfl
        simp only [lineFor, found, read]
        rw [begins, behind, ← later]
        rcases lineFor reads { intake with buffer := bytes, source := rest } with ⟨_ | more, last⟩ <;> rfl

/-- An intake reads the line its stream begins with. -/
theorem line_outcome (intake : Intake) : Stream.outcome stream intake.line = intake.stream.line := by
  have room := Nat.lt_succ_of_le (Source.stream_length_le intake.source)
  rw [← lineFor_outcome intake room]
  cases found : splitLine intake.buffer <;> simp only [line, lineFor, found]

/-- An intake reads the line its stream begins with, as text. -/
theorem readLine_outcome (intake : Intake) : Stream.outcome stream intake.readLine = intake.stream.readLine := by
  rw [Stream.readLine, ← line_outcome, readLine]
  obtain ⟨result, rest⟩ := intake.line
  cases result with
  | error cause => rfl
  | ok bytes => cases decoded : Text.decode bytes <;> simp [decoded]

/-! ## Blocks of an intake -/

/-- A read through the buffer comes to what the stream allows. -/
theorem readSome_reads (intake : Intake) {most : Nat} (positive : 0 < most) :
    intake.stream.Reads most (intake.readSome most).1 (intake.readSome most).2.stream := by
  obtain ⟨buffer, source, room, appetite⟩ := intake
  cases buffer with
  | cons b more =>
    refine ⟨by simp [Nat.ne_of_gt positive], List.length_take_le .., ?_⟩
    simp only [readSome, stream, Stream.prepend_prepend, List.take_append_drop]
  | nil =>
    by_cases past : bufferSize ≤ most
    · simp only [readSome, if_pos past]
      exact source.fetch_reads positive
    · have fetched := source.fetch_reads (by decide : 0 < bufferSize)
      rcases read : source.fetch bufferSize with ⟨answer, rest⟩
      rw [read] at fetched
      simp only [readSome, if_neg past, read]
      cases answer with
      | got bytes =>
        obtain ⟨some, -, begins⟩ := fetched
        refine ⟨by simp [some, Nat.ne_of_gt positive], List.length_take_le .., ?_⟩
        simp only [stream, begins, Stream.prepend_prepend, List.take_append_drop, List.nil_append]
      | closed => exact fetched
      | failed cause => exact fetched

/-- A read for a block comes to what the stream allows, whatever the appetite. -/
theorem readPart_reads (intake : Intake) {want : Nat} (positive : 0 < want) :
    intake.stream.Reads want (intake.readPart want).1 (intake.readPart want).2.stream := by
  have granted := Nat.lt_min.mpr ⟨intake.appetite.ask_pos intake.room, positive⟩
  have reads := intake.readSome_reads granted
  rw [readPart]
  rcases read : intake.readSome (min (intake.appetite.ask intake.room) want) with ⟨answer, rest⟩
  rw [read] at reads
  cases answer with
  | got bytes => exact ⟨reads.1, Nat.le_trans reads.2.1 (Nat.min_le_right ..), reads.2.2⟩
  | closed => exact reads
  | failed cause => exact reads

/-- Reads that come to what the stream allows collect the block it begins with. -/
theorem collect_outcome {read : Intake → Nat → Source.Answer × Intake}
    (allowed : ∀ (intake : Intake) (want : Nat), 0 < want →
      intake.stream.Reads want (read intake want).1 (read intake want).2.stream)
    {reads want : Nat} (enough : want ≤ reads) (intake : Intake) :
    Stream.outcome stream (collect read reads want intake) = intake.stream.block want := by
  induction reads generalizing want intake with
  | zero =>
    obtain rfl := Nat.le_zero.mp enough
    simp [collect, Stream.block]
  | succ reads ih =>
    cases want with
    | zero => simp [collect, Stream.block]
    | succ want =>
      have come := allowed intake (want + 1) (Nat.succ_pos want)
      rw [collect]
      rcases found : read intake (want + 1) with ⟨answer, rest⟩
      rw [found] at come
      cases answer with
      | closed =>
        obtain ⟨none, closed, same⟩ := come
        rw [Stream.block_of_short (by simp [none]), Stream.all_of_ended none closed, ← same]
        rfl
      | failed cause =>
        obtain ⟨none, failing⟩ := come
        simp [Stream.block, none, failing]
      | got bytes =>
        obtain ⟨some, short, begins⟩ := come
        have filled := List.length_pos_iff.mpr some
        rw [begins, Stream.block_prepend_of_ge short, ← ih (by omega) rest]
        simp only
        rcases collect read reads (want + 1 - bytes.length) rest with ⟨_ | more, last⟩ <;> rfl

/-- An intake reads the block its stream begins with, whatever its appetite. -/
theorem readBlock_outcome (intake : Intake) (want : Nat) :
    Stream.outcome stream (intake.readBlock want) = intake.stream.block want :=
  collect_outcome (fun intake _ positive => intake.readPart_reads positive) (Nat.le_refl want) _

theorem readExact_outcome (intake : Intake) (want : Nat) :
    Stream.outcome stream (intake.readExact want) = intake.stream.block want :=
  collect_outcome (fun intake _ positive => intake.readSome_reads positive) (Nat.le_refl want) intake

end EngineClient.Http.Intake
