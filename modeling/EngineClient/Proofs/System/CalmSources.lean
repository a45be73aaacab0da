import EngineClient.Proofs.Stream
/-!
# Sources without their interruptions

A read that is interrupted fails once, and nothing is lost. The source without these failures (`Source.calm`) has the
same stream (`calm_stream`). A read that meets no interruption answers alike on both (`read_calm`), and one that is
made again while it is interrupted always does (`fetch_calm`).
-/

namespace EngineClient

/-- Whether the read that meets this event is only interrupted. -/
def Event.isInterruption : Event → Bool
  | .bytes _ => false
  | .failure cause => cause.isInterrupted

/-- No read meets an interruption for ever. -/
def Ending.Lasting (ending : Ending) : Prop := ∀ cause, ending = .failing cause → cause.isInterrupted = false

namespace Source

/-- The events without the interruptions. -/
def calmEvents (events : List Event) : List Event := events.filter (!·.isInterruption)

/-- The source without its interruptions. -/
def calm (source : Source) : Source := ⟨calmEvents source.events, source.ending⟩

/-- The bytes that come before the first failure among the events, and that failure. -/
def firstFailure : List Event → Option (Bytes × Failure)
  | [] => none
  | .bytes piece :: rest => (firstFailure rest).map fun (front, cause) => (piece ++ front, cause)
  | .failure cause :: _ => some ([], cause)

@[simp] theorem calmEvents_nil : calmEvents [] = [] := rfl

@[simp] theorem calmEvents_bytes (piece : Bytes) (rest : List Event) :
    calmEvents (.bytes piece :: rest) = .bytes piece :: calmEvents rest := rfl

theorem calmEvents_interrupted {cause : Failure} (again : cause.isInterrupted = true) (rest : List Event) :
    calmEvents (.failure cause :: rest) = calmEvents rest :=
  List.filter_cons_of_neg (by simp [Event.isInterruption, again])

theorem calmEvents_lasting {cause : Failure} (stays : cause.isInterrupted = false) (rest : List Event) :
    calmEvents (.failure cause :: rest) = .failure cause :: calmEvents rest :=
  List.filter_cons_of_pos (by simp [Event.isInterruption, stays])

theorem calm_allBytes (source : Source) : source.calm.allBytes = source.allBytes := by
  obtain ⟨events, ending⟩ := source
  simp only [calm, allBytes]
  induction events with
  | nil => rfl
  | cons event rest ih =>
    cases event with
    | bytes piece => rw [calmEvents_bytes, List.flatMap_cons, List.flatMap_cons, ih]
    | failure cause =>
      cases again : cause.isInterrupted with
      | true => rw [calmEvents_interrupted again, ih, List.flatMap_cons, List.nil_append]
      | false => rw [calmEvents_lasting again, List.flatMap_cons, List.flatMap_cons, ih]

/-- Interruptions are not in the stream. -/
theorem calm_stream (source : Source) : source.calm.stream = source.stream := by
  obtain ⟨events, ending⟩ := source
  simp only [calm, stream]
  induction events with
  | nil => rfl
  | cons event rest ih =>
    cases event with
    | bytes piece => rw [calmEvents_bytes, streamFrom, streamFrom, ih]
    | failure cause =>
      cases again : cause.isInterrupted with
      | true => rw [calmEvents_interrupted again, ih, streamFrom, if_pos again]
      | false =>
        rw [calmEvents_lasting again, streamFrom, streamFrom, if_neg (by simp [again]), if_neg (by simp [again])]
        exact congrArg (Stream.mk [] (.failing cause)) (calm_allBytes ⟨rest, ending⟩)

/-- A stream fails with an interruption only if its source does so for ever. -/
theorem stream_lasting {source : Source} (lasting : source.ending.Lasting) : source.stream.ending.Lasting := by
  obtain ⟨events, ending⟩ := source
  simp only [stream] at lasting ⊢
  induction events with
  | nil => exact lasting
  | cons event rest ih =>
    cases event with
    | bytes piece => simpa only [streamFrom, Stream.prepend_ending] using ih
    | failure cause =>
      cases again : cause.isInterrupted with
      | true => simpa only [streamFrom, if_pos again] using ih
      | false =>
        rintro other ends
        rw [streamFrom, if_neg (by simp [again])] at ends
        cases ends
        exact again

/-! ## Reads -/

/-- A read that meets a failure at once fails with it. -/
theorem read_of_failure {source : Source} {cause : Failure} (first : firstFailure source.events = some ([], cause))
    (most : Nat) : ∃ rest, source.read most = (.failed cause, rest) := by
  obtain ⟨events, ending⟩ := source
  simp only [Source.read] at first ⊢
  induction events with
  | nil => simp [firstFailure] at first
  | cons event rest ih =>
    cases event with
    | failure other =>
      cases first
      exact ⟨_, rfl⟩
    | bytes piece =>
      obtain ⟨⟨front, other⟩, later, same⟩ := Option.map_eq_some_iff.mp first
      simp only [Prod.mk.injEq, List.append_eq_nil_iff] at same
      obtain ⟨⟨rfl, rfl⟩, rfl⟩ := same
      exact ih later

/-- A read that meets no interruption at once answers as on the source without interruptions. -/
theorem read_calm {source : Source}
    (met : ∀ cause, firstFailure source.events = some ([], cause) → cause.isInterrupted = false) (most : Nat) :
    source.calm.read most = ((source.read most).1, (source.read most).2.calm) := by
  obtain ⟨events, ending⟩ := source
  simp only [Source.read, calm] at met ⊢
  induction events with
  | nil => cases ending <;> rfl
  | cons event rest ih =>
    cases event with
    | failure cause => rw [calmEvents_lasting (met cause rfl), readEvents, readEvents]
    | bytes piece =>
      cases piece with
      | nil => exact ih fun cause first => met cause (by rw [firstFailure, first]; rfl)
      | cons b piece =>
        simp only [calmEvents_bytes, readEvents]
        split <;> simp

/-- A read that is made again while it is interrupted answers as on the source without interruptions. -/
theorem fetch_calm (source : Source) (most : Nat) :
    source.calm.fetch most = ((source.fetch most).1, (source.fetch most).2.calm) := by
  obtain ⟨events, ending⟩ := source
  simp only [fetch, calm]
  induction events with
  | nil => cases ending <;> rfl
  | cons event rest ih =>
    cases event with
    | failure cause =>
      cases again : cause.isInterrupted with
      | true => rw [calmEvents_interrupted again, ih, fetchEvents, if_pos again]
      | false => simp [calmEvents_lasting again, fetchEvents, again]
    | bytes piece =>
      cases piece with
      | nil => exact ih
      | cons b piece =>
        simp only [calmEvents_bytes, fetchEvents, readEvents]
        split <;> simp

/-- The bytes of a read come before the first failure. -/
theorem firstFailure_of_got {source rest : Source} {most : Nat} {piece : Bytes}
    (got : source.read most = (.got piece, rest)) :
    firstFailure source.events = (firstFailure rest.events).map fun (front, cause) => (piece ++ front, cause) := by
  obtain ⟨events, ending⟩ := source
  simp only [Source.read] at got ⊢
  induction events with
  | nil => cases ending <;> simp [readEvents] at got
  | cons event more ih =>
    cases event with
    | failure cause => simp [readEvents] at got
    | bytes whole =>
      cases whole with
      | nil => simpa [firstFailure, Function.comp_def] using ih got
      | cons b whole =>
        simp only [readEvents] at got
        split at got
        · cases got
          rfl
        · cases got
          simp only [firstFailure, Option.map_map, Function.comp_def, ← List.append_assoc, List.take_append_drop]

/-- A read without bytes meets a failure at once or there is none. -/
theorem firstFailure_of_not_got {source : Source} {most : Nat} (none : ∀ piece, (source.read most).1 ≠ .got piece)
    {front : Bytes} {cause : Failure} (first : firstFailure source.events = some (front, cause)) : front = [] := by
  obtain ⟨events, ending⟩ := source
  simp only [Source.read] at none first
  induction events generalizing front with
  | nil => simp [firstFailure] at first
  | cons event rest ih =>
    cases event with
    | failure other =>
      cases first
      rfl
    | bytes piece =>
      cases piece with
      | nil =>
        obtain ⟨⟨later, other⟩, first, same⟩ := Option.map_eq_some_iff.mp first
        cases same
        exact ih none first
      | cons b piece =>
        simp only [readEvents] at none
        split at none
        · exact absurd rfl (none _)
        · exact absurd rfl (none _)

/-- What a read answers where no interruption is to come. -/
theorem read_lasting {source rest : Source} {most : Nat} {result : Answer} (lasting : source.ending.Lasting)
    (calm : ∀ event ∈ source.events, event.isInterruption = false) (read : source.read most = (result, rest)) :
    rest.ending.Lasting ∧ (∀ event ∈ rest.events, event.isInterruption = false) ∧
      ∀ cause, result = .failed cause → cause.isInterrupted = false := by
  obtain ⟨events, ending⟩ := source
  simp only [Source.read] at lasting calm read
  induction events with
  | nil =>
    cases ending with
    | closed =>
      cases read
      exact ⟨lasting, by simp, by simp⟩
    | failing cause =>
      cases read
      exact ⟨lasting, by simp, fun other same => by cases same; exact lasting _ rfl⟩
  | cons event more ih =>
    obtain ⟨here, later⟩ := List.forall_mem_cons.mp calm
    cases event with
    | failure cause =>
      cases read
      exact ⟨lasting, later, fun other same => by cases same; exact here⟩
    | bytes piece =>
      cases piece with
      | nil => exact ih later read
      | cons b piece =>
        simp only [readEvents] at read
        split at read
        · cases read
          exact ⟨lasting, later, by simp⟩
        · cases read
          exact ⟨lasting, List.forall_mem_cons.mpr ⟨rfl, later⟩, by simp⟩

end Source

namespace Stream
variable {s rest : Stream} {cause : Failure}

theorem Takes.ending {wire : Bytes} {cut : Bool} (takes : s.Takes wire cut rest) : rest.ending = s.ending := by
  rw [takes.begins, prepend_ending]

theorem all_lasting (lasting : s.ending.Lasting) (failed : s.all = .error cause) : cause.isInterrupted = false := by
  rw [all] at failed
  split at failed
  · contradiction
  · rename_i ends
    cases failed
    exact lasting _ ends

theorem block_lasting {want : Nat} (lasting : s.ending.Lasting) (failed : s.block want = .error cause) :
    cause.isInterrupted = false := by
  rw [block] at failed
  split at failed
  · contradiction
  · exact all_lasting lasting failed

end Stream

end EngineClient
