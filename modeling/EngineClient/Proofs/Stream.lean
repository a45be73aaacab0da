import EngineClient.System.Source
import Mathlib.Tactic.SplitIfs
/-!
# Streams

What a source delivers to a reader that makes interrupted reads again, whatever the pieces in which it
arrives: the bytes before the first failure that stays (`Source.stream`). What one read may come to
(`Stream.Reads`), reading a block and reading to the end depend on this stream alone (`fetch_reads`,
`gather_outcome`, `drain_outcome`).
-/

namespace EngineClient

instance decidableEqExcept {ε α : Type} [DecidableEq ε] [DecidableEq α] : DecidableEq (Except ε α)
  | .error a, .error b => decidable_of_iff (a = b) (by simp)
  | .ok a, .ok b => decidable_of_iff (a = b) (by simp)
  | .error _, .ok _ => .isFalse (by simp)
  | .ok _, .error _ => .isFalse (by simp)

/-- The source that delivers these pieces, of which one read takes from one only, and then comes to its
ending. -/
def Source.inPieces (pieces : List Bytes) (ending : Ending) : Source := ⟨pieces.map .bytes, ending⟩

/-- What comes to a reader that makes interrupted reads again. -/
structure Stream where
  /-- The bytes before the first failure that stays. -/
  bytes : Bytes
  /-- How they end. -/
  ending : Ending
  /-- The bytes behind that failure. -/
  beyond : Bytes

namespace Stream

/-- The stream with more bytes in front. -/
def prepend (front : Bytes) (s : Stream) : Stream := { s with bytes := front ++ s.bytes }

@[simp] theorem prepend_bytes (front : Bytes) (s : Stream) : (s.prepend front).bytes = front ++ s.bytes := rfl

@[simp] theorem prepend_beyond (front : Bytes) (s : Stream) : (s.prepend front).beyond = s.beyond := rfl

@[simp] theorem prepend_ending (front : Bytes) (s : Stream) : (s.prepend front).ending = s.ending := rfl

@[simp] theorem prepend_nil (s : Stream) : s.prepend [] = s := rfl

@[simp] theorem prepend_prepend (front more : Bytes) (s : Stream) :
    (s.prepend more).prepend front = s.prepend (front ++ more) := by
  simp [prepend]

/-- What an answer of a reader comes to: its value, and the stream after it. -/
def outcome {ε α σ : Type} (view : σ → Stream) (answer : Except ε α × σ) : Except ε (α × Stream) :=
  answer.1.map fun value => (value, view answer.2)

section
variable {ε α σ : Type} (view : σ → Stream)

@[simp] theorem outcome_ok (value : α) (rest : σ) :
    outcome (ε := ε) view (.ok value, rest) = .ok (value, view rest) := rfl

@[simp] theorem outcome_error (error : ε) (rest : σ) :
    outcome (α := α) view (.error error, rest) = .error error := rfl

/-- An answer fails, or it has a value and a stream after it. -/
theorem outcome_cases {view : σ → Stream} {answer : Except ε α × σ} {spec : Except ε (α × Stream)}
    (outcomes : outcome view answer = spec) :
    (∃ error rest, answer = (.error error, rest) ∧ spec = .error error) ∨
    (∃ value rest, answer = (.ok value, rest) ∧ spec = .ok (value, view rest)) := by
  obtain ⟨result, rest⟩ := answer
  cases result with
  | error error => exact .inl ⟨error, rest, rfl, outcomes.symm⟩
  | ok value => exact .inr ⟨value, rest, rfl, outcomes.symm⟩

theorem outcome_eq_ok {view : σ → Stream} {answer : Except ε α × σ} {value : α} {s : Stream}
    (outcomes : outcome view answer = .ok (value, s)) : ∃ rest, answer = (.ok value, rest) ∧ view rest = s := by
  rcases outcome_cases outcomes with ⟨error, rest, -, failed⟩ | ⟨found, rest, rfl, same⟩
  · contradiction
  · simp only [Except.ok.injEq, Prod.mk.injEq] at same
    exact ⟨rest, by rw [same.1], same.2.symm⟩

/-- Of two answers that come to the same, both fail alike or both have one value and one stream after it. -/
theorem outcome_congr_cases {τ : Type} {view : σ → Stream} {view' : τ → Stream} {answer : Except ε α × σ}
    {answer' : Except ε α × τ} (same : outcome view answer = outcome view' answer') :
    (∃ error rest rest', answer = (.error error, rest) ∧ answer' = (.error error, rest')) ∨
    (∃ value rest rest', answer = (.ok value, rest) ∧ answer' = (.ok value, rest') ∧ view rest = view' rest') := by
  rcases outcome_cases same with ⟨error, rest, rfl, failed⟩ | ⟨value, rest, rfl, found⟩
  · rcases outcome_cases failed with ⟨error', rest', rfl, equal⟩ | ⟨_, _, -, equal⟩
    · cases equal
      exact .inl ⟨_, rest, rest', rfl, rfl⟩
    · contradiction
  · obtain ⟨rest', rfl, after⟩ := outcome_eq_ok found
    exact .inr ⟨value, rest, rest', rfl, rfl, after.symm⟩

end

/-! ## Blocks of a stream -/

/-- The next `want` bytes, or those there are when the stream ends before. -/
def block (want : Nat) (s : Stream) : Except Failure (Bytes × Stream) :=
  if want ≤ s.bytes.length then .ok (s.bytes.take want, { s with bytes := s.bytes.drop want })
  else
    match s.ending with
    | .closed => .ok (s.bytes, { s with bytes := [] })
    | .failing cause => .error cause

/-- All bytes up to the end. -/
def all (s : Stream) : Except Failure (Bytes × Stream) :=
  match s.ending with
  | .closed => .ok (s.bytes, { s with bytes := [] })
  | .failing cause => .error cause

/-- What a read of at most `most` bytes may answer before this stream, and what may follow it. -/
def Reads (s : Stream) (most : Nat) : Source.Answer → Stream → Prop
  | .got bytes, rest => bytes ≠ [] ∧ bytes.length ≤ most ∧ s = rest.prepend bytes
  | .closed, rest => s.bytes = [] ∧ s.ending = .closed ∧ rest = s
  | .failed cause, _ => s.bytes = [] ∧ s.ending = .failing cause

/-- The answer with these bytes in front of its own. -/
def behind (before : Bytes) (answer : Except Failure (Bytes × Stream)) : Except Failure (Bytes × Stream) :=
  answer.map fun (bytes, s) => (before ++ bytes, s)

@[simp] theorem behind_nil (answer : Except Failure (Bytes × Stream)) : behind [] answer = answer := by
  cases answer <;> rfl

@[simp] theorem behind_behind (before more : Bytes) (answer : Except Failure (Bytes × Stream)) :
    behind before (behind more answer) = behind (before ++ more) answer := by
  cases answer <;> simp [behind, Except.map]

theorem block_prepend_of_le {front : Bytes} {want : Nat} (enough : want ≤ front.length) (s : Stream) :
    (s.prepend front).block want = .ok (front.take want, s.prepend (front.drop want)) := by
  have fits : want ≤ (s.prepend front).bytes.length := by simp; omega
  rw [block, if_pos fits]
  simp [prepend, List.take_append_of_le_length enough, List.drop_append_of_le_length enough]

theorem block_prepend_of_ge {front : Bytes} {want : Nat} (less : front.length ≤ want) (s : Stream) :
    (s.prepend front).block want = behind front (s.block (want - front.length)) := by
  by_cases fits : want ≤ (s.prepend front).bytes.length
  · have fits' : want - front.length ≤ s.bytes.length := by simp at fits; omega
    rw [block, block, if_pos fits, if_pos fits']
    simp [behind, Except.map, List.take_append, List.drop_append, List.take_of_length_le less,
      List.drop_of_length_le less]
  · have fits' : ¬ want - front.length ≤ s.bytes.length := by simp at fits; omega
    rw [block, block, if_neg fits, if_neg fits', prepend_ending]
    cases s.ending <;> rfl

theorem block_of_short {s : Stream} {want : Nat} (short : s.bytes.length < want) : s.block want = s.all := by
  rw [block, if_neg (Nat.not_le_of_lt short), all]

/-- A stream begins with `wire`, and `rest` follows it. Where the end of the stream cuts the wire short,
nothing follows. -/
structure Takes (s : Stream) (wire : Bytes) (cut : Bool) (rest : Stream) : Prop where
  begins : s = rest.prepend wire
  ends : cut = true → rest.bytes = [] ∧ rest.ending = .closed

theorem Takes.append {s middle rest : Stream} {wire more : Bytes} {cut : Bool} (first : s.Takes wire false middle)
    (second : middle.Takes more cut rest) : s.Takes (wire ++ more) cut rest :=
  ⟨by rw [first.begins, second.begins, prepend_prepend], second.ends⟩

theorem Takes.of_eq {s rest : Stream} {wire : Bytes} (begins : s = rest.prepend wire) : s.Takes wire false rest :=
  ⟨begins, by simp⟩

theorem Takes.first {s rest : Stream} {wire more : Bytes} {cut : Bool} (takes : s.Takes (wire ++ more) cut rest) :
    s.Takes wire false (rest.prepend more) :=
  .of_eq (by rw [takes.begins, prepend_prepend])

theorem all_eq_ok_iff {s rest : Stream} {bytes : Bytes} : s.all = .ok (bytes, rest) ↔ s.Takes bytes true rest := by
  obtain ⟨whole, ending, beyond⟩ := s
  constructor
  · intro all
    cases ending with
    | failing cause => simp [Stream.all] at all
    | closed =>
      simp only [Stream.all, Except.ok.injEq, Prod.mk.injEq] at all
      obtain ⟨rfl, rfl⟩ := all
      exact ⟨by simp [prepend], by simp⟩
  · rintro ⟨begins, ends⟩
    obtain ⟨none, closed⟩ := ends rfl
    obtain ⟨left, ending', beyond'⟩ := rest
    simp only at none closed
    simp only [prepend, mk.injEq] at begins
    obtain ⟨rfl, rfl, rfl⟩ := begins
    simp [Stream.all, none, closed]

theorem block_eq_ok_iff {s rest : Stream} {want : Nat} {bytes : Bytes} :
    s.block want = .ok (bytes, rest) ↔
      (bytes.length = want ∧ s.Takes bytes false rest) ∨ (bytes.length < want ∧ s.Takes bytes true rest) := by
  by_cases enough : want ≤ s.bytes.length
  · rw [block, if_pos enough]
    constructor
    · intro block
      simp only [Except.ok.injEq, Prod.mk.injEq] at block
      obtain ⟨rfl, rfl⟩ := block
      exact .inl ⟨by simp [enough], by simp [prepend], by simp⟩
    · rintro (⟨rfl, begins, -⟩ | ⟨short, begins, ends⟩)
      · simp [begins, prepend]
      · rw [begins] at enough
        simp [(ends rfl).1] at enough
        omega
  · rw [block_of_short (Nat.lt_of_not_le enough), all_eq_ok_iff]
    constructor
    · intro takes
      refine .inr ⟨?_, takes⟩
      rw [takes.begins] at enough
      simp at enough
      omega
    · rintro (⟨rfl, takes⟩ | ⟨-, takes⟩)
      · rw [takes.begins] at enough
        simp at enough
      · exact takes

theorem all_of_ended {s : Stream} (none : s.bytes = []) (closed : s.ending = .closed) : s.all = .ok ([], s) := by
  obtain ⟨bytes, ending, beyond⟩ := s
  cases none
  cases closed
  rfl

theorem all_prepend (front : Bytes) (s : Stream) : (s.prepend front).all = behind front s.all := by
  rw [all, all, prepend_ending]
  cases s.ending <;> rfl

end Stream

namespace Source

/-- The stream in the reads to come. -/
def streamFrom (ending : Ending) : List Event → Stream
  | [] => ⟨[], ending, []⟩
  | .bytes piece :: rest => (streamFrom ending rest).prepend piece
  | .failure cause :: rest =>
    if cause.isInterrupted then streamFrom ending rest else ⟨[], .failing cause, allBytes ⟨rest, ending⟩⟩

/-- The stream a source delivers. -/
def stream (source : Source) : Stream := streamFrom source.ending source.events

private theorem streamFrom_pieces (pieces : List Bytes) (ending : Ending) (more : List Event) :
    streamFrom ending (pieces.map .bytes ++ more) = (streamFrom ending more).prepend pieces.flatten := by
  induction pieces with
  | nil => rfl
  | cons piece others ih => simp [streamFrom, ih]

theorem inPieces_stream (pieces : List Bytes) (ending : Ending) :
    (inPieces pieces ending).stream = ⟨pieces.flatten, ending, []⟩ := by
  simpa [stream, inPieces, streamFrom, Stream.prepend] using streamFrom_pieces pieces ending []

/-- What comes behind a failure that stays is not in the stream, but it is not lost. -/
theorem allBytes_eq (source : Source) : source.allBytes = source.stream.bytes ++ source.stream.beyond := by
  obtain ⟨events, ending⟩ := source
  simp only [stream]
  induction events with
  | nil => rfl
  | cons event rest ih =>
    cases event with
    | bytes piece =>
      simp only [allBytes, streamFrom, Stream.prepend_bytes, Stream.prepend_beyond, List.flatMap_cons,
        List.append_assoc] at ih ⊢
      rw [ih]
    | failure cause =>
      simp only [streamFrom]
      split_ifs
      · simpa [allBytes] using ih
      · rfl

/-- What was taken from the stream, what was lost of it and what is left make up the source. -/
theorem allBytes_of_takes {source rest : Source} {wire surplus : Bytes} {cut : Bool}
    (takes : source.stream.Takes wire cut (rest.stream.prepend surplus)) :
    source.allBytes = wire ++ surplus ++ rest.allBytes := by
  rw [source.allBytes_eq, rest.allBytes_eq, takes.begins]
  simp

/-- A stream that has come to the end of its source leaves nothing. -/
theorem allBytes_of_ended (source : Source) (none : source.stream.bytes = []) (closed : source.stream.ending = .closed) :
    source.allBytes = [] ∧ source.ending = .closed := by
  obtain ⟨events, ending⟩ := source
  simp only [stream] at none closed ⊢
  induction events with
  | nil => exact ⟨rfl, closed⟩
  | cons event rest ih =>
    cases event with
    | bytes piece =>
      simp only [streamFrom, Stream.prepend_bytes, Stream.prepend_ending, List.append_eq_nil_iff] at none closed
      simpa [allBytes, none.1] using ih none.2 closed
    | failure cause =>
      simp only [streamFrom] at none closed
      split_ifs at none closed
      simpa [allBytes] using ih none closed

theorem stream_length_le (source : Source) : source.stream.bytes.length ≤ source.allBytes.length := by
  rw [allBytes_eq]; simp

/-! ## Reading -/

/-- A read that answers takes the first bytes of the stream, one at least. -/
theorem read_stream {source rest : Source} {most : Nat} {piece : Bytes} (positive : 0 < most)
    (read : source.read most = (.got piece, rest)) :
    piece ≠ [] ∧ source.stream = rest.stream.prepend piece := by
  obtain ⟨events, ending⟩ := source
  simp only [Source.read, stream] at read ⊢
  induction events with
  | nil => cases ending <;> simp [readEvents] at read
  | cons event more ih =>
    cases event with
    | failure cause => simp [readEvents] at read
    | bytes whole =>
      cases whole with
      | nil => simpa [readEvents, streamFrom] using ih read
      | cons b tail =>
        simp only [readEvents] at read
        split at read
        · simp only [Prod.mk.injEq, Answer.got.injEq] at read
          obtain ⟨rfl, rfl⟩ := read
          exact ⟨by simp, rfl⟩
        · simp only [Prod.mk.injEq, Answer.got.injEq] at read
          obtain ⟨rfl, rfl⟩ := read
          refine ⟨by cases most <;> simp_all, ?_⟩
          simp only [streamFrom, Stream.prepend_prepend, List.take_append_drop]

/-- A read that is made again while it is interrupted comes to what the stream allows. -/
theorem fetch_reads (source : Source) {most : Nat} (positive : 0 < most) :
    source.stream.Reads most (source.fetch most).1 (source.fetch most).2.stream := by
  obtain ⟨events, ending⟩ := source
  simp only [fetch, stream]
  induction events with
  | nil => cases ending <;> simp [fetchEvents, readEvents, streamFrom, Stream.Reads]
  | cons event rest ih =>
    cases event with
    | failure cause =>
      by_cases again : cause.isInterrupted
      · simpa only [fetchEvents, streamFrom, again, ↓reduceIte] using ih
      · simp [fetchEvents, streamFrom, again, Stream.Reads]
    | bytes piece =>
      cases piece with
      | nil => exact ih
      | cons b piece =>
        simp only [fetchEvents, readEvents]
        split
        · rename_i fits
          exact ⟨by simp, List.drop_eq_nil_iff.mp fits, rfl⟩
        · refine ⟨by simp [Nat.ne_of_gt positive], List.length_take_le .., ?_⟩
          simp only [streamFrom, Stream.prepend_prepend, List.take_append_drop]

/-- A source that is cut into pieces and has more bytes answers a read with some of them, and is cut into
pieces again. -/
theorem read_inPieces {pieces : List Bytes} (more : pieces.flatten ≠ []) (ending : Ending) (most : Nat) :
    ∃ piece pieces', (inPieces pieces ending).read most = (.got piece, inPieces pieces' ending) := by
  simp only [Source.read, inPieces]
  induction pieces with
  | nil => simp at more
  | cons first others ih =>
    cases first with
    | nil => simpa [readEvents] using ih (by simpa using more)
    | cons b tail =>
      simp only [List.map_cons, readEvents]
      split
      · exact ⟨_, others, rfl⟩
      · exact ⟨_, (b :: tail).drop most :: others, rfl⟩

/-- A source that is cut into pieces and has no more bytes answers a read with its ending. -/
theorem read_inPieces_nil {pieces : List Bytes} (none : pieces.flatten = []) (ending : Ending) (most : Nat) :
    (inPieces pieces ending).read most =
      (match ending with
        | .closed => .closed
        | .failing cause => .failed cause, inPieces [] ending) := by
  simp only [Source.read, inPieces]
  induction pieces with
  | nil => cases ending <;> rfl
  | cons first others ih =>
    simp only [List.flatten_cons, List.append_eq_nil_iff] at none
    rw [none.1]
    simpa [readEvents] using ih none.2

private theorem gatherEvents_outcome (ending : Ending) (want : Nat) (before : Bytes) (events : List Event) :
    Stream.outcome stream (gatherEvents ending want before events) =
      Stream.behind before ((streamFrom ending events).block want) := by
  induction events generalizing want before with
  | nil =>
    by_cases none : want = 0
    · simp [gatherEvents, none, stream, streamFrom, Stream.block, Stream.behind, Except.map]
    · cases ending <;> simp [gatherEvents, none, streamFrom, Stream.block, stream, Stream.behind, Except.map]
  | cons event rest ih =>
    cases event with
    | failure cause =>
      by_cases none : want = 0
      · simp [gatherEvents, none, stream, Stream.block, Stream.behind, Except.map]
      · by_cases again : cause.isInterrupted
        · simp only [gatherEvents, none, again, streamFrom, ↓reduceIte, ih]
        · simp [gatherEvents, none, again, streamFrom, Stream.block, Stream.behind, Except.map]
    | bytes piece =>
      simp only [gatherEvents, streamFrom]
      by_cases enough : piece.length ≤ want
      · simp only [List.drop_of_length_le enough]
        rw [ih, Stream.block_prepend_of_ge enough, Stream.behind_behind]
      · have left : piece.drop want ≠ [] := by simp; omega
        rw [Stream.block_prepend_of_le (by omega)]
        split
        · contradiction
        · simp [stream, streamFrom, Stream.behind, Except.map]

/-- Gathering a body of which some bytes are there takes what is missing from the stream. -/
theorem gather_outcome (source : Source) {before : Bytes} {length : Nat} (less : before.length ≤ length) :
    Stream.outcome stream (source.gather before length) = (source.stream.prepend before).block length := by
  rw [gather, gatherEvents_outcome, Stream.block_prepend_of_ge less, stream]

/-- Draining takes the whole stream. -/
theorem drain_outcome (source : Source) (before : Bytes) :
    Stream.outcome stream (source.drain before) = (source.stream.prepend before).all := by
  obtain ⟨events, ending⟩ := source
  rw [Stream.all_prepend]
  simp only [drain, stream]
  induction events generalizing before with
  | nil => cases ending <;> simp [drainEvents, streamFrom, stream, Stream.all, Stream.behind, Except.map]
  | cons event rest ih =>
    cases event with
    | failure cause =>
      by_cases again : cause.isInterrupted
      · simp only [drainEvents, streamFrom, again, ↓reduceIte, ih]
      · simp [drainEvents, streamFrom, again, Stream.all, Stream.behind, Except.map]
    | bytes piece => rw [drainEvents, ih, streamFrom, Stream.all_prepend, Stream.behind_behind]

end Source

end EngineClient
