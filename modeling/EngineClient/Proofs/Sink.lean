import EngineClient.System.Sink
import Mathlib.Tactic.SplitIfs
/-!
# What a sink takes

A sink has taken what it is offered, or a front part of it where it fails (`writeAll_takes`). One that takes a byte of
every call takes all there is room for and fails exactly where there is more (`writeAll_stops`), however often it is
interrupted; so it takes everything (`writeAll_willing`), or fails for a reason it may fail for
(`writeAll_failsOnly`).
-/

namespace EngineClient.Sink

/-- A call takes a front part of what it offers, or it fails. -/
inductive Offered (sink : Sink) (data : Bytes) : Answer × Sink → Prop
  | took {piece back : Bytes} (parts : data = piece ++ back) :
      Offered sink data (.took piece.length, sink.take piece)
  | failed {cause : Failure} {after : Sink} (same : after.taken = sink.taken) (flushes : after.flushes = sink.flushes) :
      Offered sink data (.failed cause, after)

/-- A sink that takes a byte of every call, but may be interrupted. -/
structure Willing (sink : Sink) : Prop where
  hungry : ∀ taken, 0 < sink.appetite taken
  steady : ∀ place trouble, sink.trouble = some (place, trouble) → trouble = .interruptedOnce

variable {sink after : Sink} {data : Bytes}

theorem serve_offered (sink : Sink) (data : Bytes) : Offered sink data (sink.serve data) := by
  have part (count : Nat) : Offered sink data (.took (data.take count).length, sink.take (data.take count)) :=
    .took (List.take_append_drop count data).symm
  rw [serve]
  split
  · exact part _
  · split_ifs
    · exact part _
    · split
      · exact .failed rfl rfl
      · exact .failed rfl rfl
      · have none := part 0
        simpa [take] using none

theorem write_offered (sink : Sink) (data : Bytes) : Offered sink data (sink.write data) := by
  rw [write]
  split
  · exact serve_offered sink data
  · split_ifs
    · exact serve_offered sink data
    · exact .failed rfl rfl

/-- Whatever the outcome, a front part is taken, and nothing is flushed; without a failure it is everything. -/
theorem writeFor_takes {calls : Nat} {outcome : Except Failure Unit}
    (written : writeFor sink data calls = (outcome, after)) :
    ∃ piece back, data = piece ++ back ∧ after.taken.toList = sink.taken.toList ++ piece ∧
      after.flushes = sink.flushes ∧ (outcome = .ok () → back = []) := by
  induction calls generalizing sink data with
  | zero =>
    cases written
    exact ⟨[], data, rfl, by simp, rfl, by simp⟩
  | succ calls ih =>
    rw [writeFor] at written
    split_ifs at written with empty
    · cases written
      exact ⟨[], data, rfl, by simp, rfl, fun _ => List.isEmpty_iff.mp empty⟩
    · have offered := write_offered sink data
      generalize sink.write data = answer at offered written
      cases offered with
      | @took piece back parts =>
        cases piece with
        | nil =>
          cases written
          exact ⟨[], data, rfl, by simp [take], rfl, by simp⟩
        | cons b piece =>
          simp only [List.length_cons] at written
          obtain ⟨piece', back', parts', taken, flushes, whole⟩ := ih written
          have rest : data.drop (piece.length + 1) = back := by simp [parts]
          refine ⟨b :: piece ++ piece', back', ?_, ?_, flushes, whole⟩
          · rw [parts, ← rest, parts', List.append_assoc]
          · rw [taken]
            simp [take]
      | @failed cause next same flushes =>
        simp only at written
        split_ifs at written with again
        · -- An interrupted call has taken nothing, and the same bytes are offered again.
          obtain ⟨piece, back, parts, taken, flushes', whole⟩ := ih written
          exact ⟨piece, back, parts, by rw [taken, same], by rw [flushes', flushes], whole⟩
        · cases written
          exact ⟨[], data, rfl, by simp [same], flushes, by simp⟩

theorem writeAll_takes {outcome : Except Failure Unit} (written : sink.writeAll data = (outcome, after)) :
    ∃ piece back, data = piece ++ back ∧ after.taken.toList = sink.taken.toList ++ piece ∧
      after.flushes = sink.flushes ∧ (outcome = .ok () → back = []) :=
  writeFor_takes written

/-! ## Sinks that take a byte of every call -/

/-- After how many bytes the sink takes no more, if it ever does, and what writing fails with there. -/
def stop (sink : Sink) : Option (Nat × Failure) :=
  match sink.trouble with
  | none => none
  | some (place, .failing cause) => some (place, cause)
  | some (_, .interruptedOnce) => none
  | some (place, .takesNothing) => some (place, .shortWrite)

/-- The calls that may still be interrupted. -/
def interruptions (sink : Sink) : Nat := sink.interrupts.length + if sink.trouble.isSome then 1 else 0

/-- The sink later on: it takes as much of a call, and stops where it did. -/
structure Continues (sink after : Sink) : Prop where
  appetite : after.appetite = sink.appetite
  trouble : after.trouble = sink.trouble ∨ after.trouble = none ∧ sink.stop = none
  flushes : after.flushes = sink.flushes

theorem Continues.refl (sink : Sink) : sink.Continues sink := ⟨rfl, .inl rfl, rfl⟩

theorem Continues.stop (continues : sink.Continues after) : after.stop = sink.stop := by
  rcases continues.trouble with same | ⟨halted, never⟩
  · rw [Sink.stop, same]
    rfl
  · rw [Sink.stop, halted, never]

theorem Continues.trans {last : Sink} (first : sink.Continues after) (second : after.Continues last) :
    sink.Continues last where
  appetite := second.appetite.trans first.appetite
  trouble := by
    rcases second.trouble with same | ⟨halted, never⟩
    · rw [same]
      exact first.trouble
    · exact .inr ⟨halted, first.stop ▸ never⟩
  flushes := second.flushes.trans first.flushes

/-- All that a call can come to at a sink that takes a byte of every call: some bytes that there is room for, an
interruption, or a failure because there is no room. -/
inductive Calls (sink : Sink) (data : Bytes) : Answer × Sink → Prop
  | took {count : Nat} (offered : count + 1 ≤ data.length)
      (room : ∀ place cause, sink.stop = some (place, cause) → count + 1 ≤ place - sink.taken.size) :
      Calls sink data (.took (count + 1), sink.take (data.take (count + 1)))
  | interrupted {next : Sink} (continues : sink.Continues next) (same : next.taken = sink.taken)
      (fewer : next.interruptions < sink.interruptions) : Calls sink data (.failed (.ofKind .interrupted), next)
  | stopped {place : Nat} {cause : Failure} (stops : sink.stop = some (place, cause))
      (full : place ≤ sink.taken.size) : Calls sink data (.failed cause, sink)
  | refused {place : Nat} (stops : sink.stop = some (place, .shortWrite)) (full : place ≤ sink.taken.size) :
      Calls sink data (.took 0, sink)

theorem serve_calls (hungry : ∀ taken, 0 < sink.appetite taken) (filled : data ≠ []) :
    Calls sink data (sink.serve data) := by
  have part {most : Nat} (positive : 0 < most)
      (room : ∀ place cause, sink.stop = some (place, cause) → most ≤ place - sink.taken.size) :
      Calls sink data (.took (data.take most).length, sink.take (data.take most)) := by
    have length := List.length_pos_iff.mpr filled
    obtain ⟨count, counted⟩ : ∃ count, min most data.length = count + 1 :=
      Nat.exists_eq_succ_of_ne_zero (by omega)
    have piece : data.take most = data.take (count + 1) := by rw [← counted, List.take_eq_take_min]
    rw [List.length_take, counted, piece]
    refine .took (by omega) fun place cause stops => ?_
    have := room place cause stops
    omega
  have appetite := hungry sink.taken.size
  rw [serve]
  cases known : sink.trouble with
  | none => exact part appetite (by simp [stop, known])
  | some trouble =>
    obtain ⟨place, trouble⟩ := trouble
    by_cases before : sink.taken.size < place
    · simp only [before, ↓reduceIte]
      refine part (by omega) fun last cause stops => ?_
      obtain rfl : place = last := by
        cases trouble <;> simp [stop, known] at stops <;> exact stops.1
      omega
    · have full := Nat.le_of_not_lt before
      simp only [before, ↓reduceIte]
      cases trouble with
      | failing cause => exact .stopped (by rw [stop, known]) full
      | interruptedOnce =>
        refine .interrupted ⟨rfl, .inr ⟨rfl, by rw [stop, known]⟩, rfl⟩ rfl ?_
        simp [interruptions, known]
      | takesNothing => exact .refused (by rw [stop, known]) full

theorem write_calls (hungry : ∀ taken, 0 < sink.appetite taken) (filled : data ≠ []) :
    Calls sink data (sink.write data) := by
  rw [write]
  split
  · exact serve_calls hungry filled
  · rename_i place later known
    split_ifs
    · exact serve_calls hungry filled
    · refine .interrupted ⟨rfl, .inl rfl, rfl⟩ rfl ?_
      simp [interruptions, known]

/-- What offering `data` comes to: everything is taken, or all there is room for and the sink fails. -/
inductive Stops (sink : Sink) (data : Bytes) : Except Failure Unit × Sink → Prop
  | whole {after : Sink} (continues : sink.Continues after) (taken : after.taken.toList = sink.taken.toList ++ data)
      (room : ∀ place cause, sink.stop = some (place, cause) → data.length ≤ place - sink.taken.size) :
      Stops sink data (.ok (), after)
  | short {place : Nat} {cause : Failure} {after : Sink} (continues : sink.Continues after)
      (stops : sink.stop = some (place, cause)) (more : place - sink.taken.size < data.length)
      (taken : after.taken.toList = sink.taken.toList ++ data.take (place - sink.taken.size)) :
      Stops sink data (.error cause, after)

/-- Offering one piece after another that was taken is offering both. -/
theorem Stops.append {next : Sink} {front back : Bytes} {result : Except Failure Unit × Sink}
    (first : Stops sink front (.ok (), next)) (second : Stops next back result) : Stops sink (front ++ back) result := by
  obtain ⟨continues, taken, room⟩ := first
  have size : next.taken.size = sink.taken.size + front.length := by
    have lengths := congrArg List.length taken
    rw [List.length_append] at lengths
    simpa using lengths
  cases second with
  | whole later taken' room' =>
    refine .whole (continues.trans later) ?_ fun place cause stops => ?_
    · rw [taken', taken, List.append_assoc]
    · have before := room place cause stops
      have after := room' place cause (continues.stop.trans stops)
      rw [List.length_append]
      omega
  | @short place cause _ later stops more taken' =>
    have stops : sink.stop = some (place, cause) := continues.stop ▸ stops
    have before := room place cause stops
    rw [size] at more taken'
    refine .short (continues.trans later) stops ?_ ?_
    · rw [List.length_append]
      omega
    · have parts : place - sink.taken.size = front.length + (place - (sink.taken.size + front.length)) := by omega
      rw [taken', taken, List.append_assoc, parts, List.take_length_add_append]

/-- Where one piece is not taken, what would come after it is not offered. -/
theorem Stops.append_of_error {cause : Failure} {front back : Bytes} (first : Stops sink front (.error cause, after)) :
    Stops sink (front ++ back) (.error cause, after) := by
  obtain ⟨⟩ | ⟨continues, stops, more, taken⟩ := first
  refine .short continues stops ?_ ?_
  · rw [List.length_append]
    omega
  · rw [taken, List.take_append_of_le_length (Nat.le_of_lt more)]

private theorem writeFor_stops (hungry : ∀ taken, 0 < sink.appetite taken)
    (lasting : ∀ place cause, sink.stop = some (place, cause) → cause.isInterrupted = false) {calls : Nat}
    (enough : data.length + sink.interruptions < calls) : Stops sink data (writeFor sink data calls) := by
  induction calls generalizing sink data with
  | zero => omega
  | succ calls ih =>
    rw [writeFor]
    split_ifs with empty
    · obtain rfl := List.isEmpty_iff.mp empty
      exact .whole (.refl sink) (by simp) (by simp)
    · have filled : data ≠ [] := fun none => empty (List.isEmpty_iff.mpr none)
      have length := List.length_pos_iff.mpr filled
      have called := write_calls hungry filled
      generalize sink.write data = answer at called
      cases called with
      | @took count offered room =>
        have first : Stops sink (data.take (count + 1)) (.ok (), sink.take (data.take (count + 1))) := by
          refine .whole ⟨rfl, .inl rfl, rfl⟩ (by simp [take]) fun place cause stops => ?_
          rw [List.length_take, Nat.min_eq_left offered]
          exact room place cause stops
        have rest : Stops (sink.take (data.take (count + 1))) (data.drop (count + 1))
            (writeFor (sink.take (data.take (count + 1))) (data.drop (count + 1)) calls) := by
          refine ih hungry lasting ?_
          change (data.drop (count + 1)).length + sink.interruptions < calls
          rw [List.length_drop]
          omega
        have both := first.append rest
        rwa [List.take_append_drop] at both
      | @interrupted next continues same fewer =>
        have first : Stops sink [] (.ok (), next) := .whole continues (by simp [same]) (by simp)
        have rest : Stops next data (writeFor next data calls) :=
          ih (continues.appetite ▸ hungry) (continues.stop ▸ lasting) (by omega)
        exact first.append rest
      | @stopped place cause stops full =>
        simp only [lasting place cause stops, Bool.false_eq_true, ↓reduceIte]
        refine .short (.refl sink) stops (by omega) ?_
        simp [Nat.sub_eq_zero_of_le full]
      | @refused place stops full =>
        refine .short (.refl sink) stops (by omega) ?_
        simp [Nat.sub_eq_zero_of_le full]

/-- A sink that takes a byte of every call takes all there is room for, and fails exactly when there is more. -/
theorem writeAll_stops (hungry : ∀ taken, 0 < sink.appetite taken)
    (lasting : ∀ place cause, sink.stop = some (place, cause) → cause.isInterrupted = false) (data : Bytes) :
    Stops sink data (sink.writeAll data) := by
  refine writeFor_stops hungry lasting ?_
  have : sink.interruptions ≤ sink.interrupts.length + 1 := by
    rw [interruptions]
    split_ifs <;> omega
  omega

/-! ## Sinks that take everything, or fail for a known reason -/

/-- A sink that takes a byte of every call until it fails, if it does, for a reason of this kind; before that it may be
interrupted. -/
structure FailsOnly (sink : Sink) (kind : Failure → Prop) : Prop where
  hungry : ∀ taken, 0 < sink.appetite taken
  steady : ∀ place trouble, sink.trouble = some (place, trouble) →
    trouble = .interruptedOnce ∨ ∃ cause, trouble = .failing cause ∧ kind cause

theorem failsOnly_false_iff : (sink.FailsOnly fun _ => False) ↔ sink.Willing := by
  constructor
  · intro fails
    refine ⟨fails.hungry, ?_⟩
    intro place trouble known
    rcases fails.steady place trouble known with once | ⟨_, _, never⟩
    · exact once
    · exact never.elim
  · intro willing
    exact ⟨willing.hungry, fun place trouble known => .inl (willing.steady place trouble known)⟩

variable {kind : Failure → Prop}

theorem FailsOnly.of_stop (fails : sink.FailsOnly kind) {place : Nat} {cause : Failure}
    (stops : sink.stop = some (place, cause)) : kind cause := by
  rw [stop] at stops
  split at stops
  · cases stops
  · rename_i known
    cases stops
    rcases fails.steady _ _ known with once | ⟨cause, same, allowed⟩
    · cases once
    · cases same
      exact allowed
  · cases stops
  · rename_i known
    rcases fails.steady _ _ known with once | ⟨cause, same, -⟩
    · cases once
    · cases same

theorem FailsOnly.continues (fails : sink.FailsOnly kind) (continues : sink.Continues after) : after.FailsOnly kind where
  hungry := continues.appetite ▸ fails.hungry
  steady place trouble known := by
    rcases continues.trouble with same | ⟨halted, -⟩
    · exact fails.steady place trouble (same ▸ known)
    · rw [halted] at known
      cases known

/-- A sink takes everything, or fails for a reason that it may fail for. -/
theorem writeAll_failsOnly (ends : ∀ cause, kind cause → cause.isInterrupted = false) (fails : sink.FailsOnly kind)
    (data : Bytes) :
    (∃ after, sink.writeAll data = (.ok (), after) ∧ after.FailsOnly kind) ∨
    ∃ cause after, kind cause ∧ sink.writeAll data = (.error cause, after) := by
  have stops := writeAll_stops fails.hungry (fun place cause stops => ends cause (fails.of_stop stops)) data
  generalize sink.writeAll data = result at stops
  cases stops with
  | whole continues taken room => exact .inl ⟨_, rfl, fails.continues continues⟩
  | short continues stops more taken => exact .inr ⟨_, _, fails.of_stop stops, rfl⟩

/-- A willing sink takes everything, and stays willing. -/
theorem writeAll_willing (willing : sink.Willing) (data : Bytes) :
    ∃ after, sink.writeAll data = (.ok (), after) ∧ after.Willing := by
  have written := writeAll_failsOnly (by simp) (failsOnly_false_iff.mpr willing) data
  rcases written with ⟨after, took, fails⟩ | ⟨_, _, never, _⟩
  · exact ⟨after, took, failsOnly_false_iff.mp fails⟩
  · exact never.elim

end EngineClient.Sink
