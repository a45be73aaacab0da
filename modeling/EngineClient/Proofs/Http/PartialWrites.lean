import EngineClient.Http.Writing
import EngineClient.Proofs.Sink
/-!
# Requests that are written in parts

What a writer that takes a part of each call, is interrupted and fails for good has of a request when it was written
(`writeRequest_parts`). Head and body are offered one after the other, and that is offering both in one
(`Sink.Stops.append`).
-/

namespace EngineClient.Http

/-- Writing a request is offering its bytes; where all are taken there is one flush more. -/
theorem writeRequest_stops {sink : Sink} (hungry : ∀ taken, 0 < sink.appetite taken)
    (lasting : ∀ place cause, sink.stop = some (place, cause) → cause.isInterrupted = false) (request : Request)
    (target : String) :
    (∃ after, sink.Stops (requestBytes request target) (.ok (), after) ∧
      writeRequest sink request target = (.ok (), after.flush)) ∨
    ∃ cause after, sink.Stops (requestBytes request target) (.error cause, after) ∧
      writeRequest sink request target = (.error (.io cause), after) := by
  have head := Sink.writeAll_stops hungry lasting (requestHead request target)
  rw [writeRequest, requestBytes]
  generalize sink.writeAll (requestHead request target) = result at head
  obtain ⟨cause | ⟨⟩, next⟩ := result
  · exact .inr ⟨cause, next, head.append_of_error, rfl⟩
  · have continues : sink.Continues next := by
      obtain ⟨continues, -, -⟩ := head
      exact continues
    have body := Sink.writeAll_stops (continues.appetite ▸ hungry) (continues.stop ▸ lasting) request.body
    dsimp only
    generalize next.writeAll request.body = result at body
    obtain ⟨cause | ⟨⟩, after⟩ := result
    · exact .inr ⟨cause, after, head.append body, rfl⟩
    · exact .inl ⟨after, head.append body, rfl⟩

/-- What a writer that takes at least a byte of every call has of a request. Every one that does not fail for good
takes the whole request and is flushed once. One that fails for good after some number of bytes takes that many of the
request and no more; where they are all of it, it is flushed once, and else the answer is its failure, which for one
that takes nothing any more is that it does not take the rest. Interruptions, wherever they come and however many,
change nothing of this. -/
theorem writeRequest_parts {appetite : Nat → Nat} (hungry : ∀ taken, 0 < appetite taken) (interrupts : List Nat)
    (request : Request) (target : String) :
    let wire := requestBytes request target
    let sink (trouble : Option (Nat × Trouble)) : Sink := { Sink.fresh appetite trouble with interrupts }
    (∀ trouble, (∀ place kind, trouble = some (place, kind) → kind = .interruptedOnce) →
      ∃ after, writeRequest (sink trouble) request target = (.ok (), after) ∧ after.taken.toList = wire ∧
        after.flushes = 1) ∧
    ∀ place kind cause,
      (kind = .failing cause ∧ cause.isInterrupted = false ∨ kind = .takesNothing ∧ cause = .shortWrite) →
      ∃ after, writeRequest (sink (some (place, kind))) request target =
          (if wire.length ≤ place then .ok () else .error (.io cause), after) ∧
        after.taken.toList = wire.take place ∧ after.flushes = if wire.length ≤ place then 1 else 0 := by
  intro wire sink
  have fed (trouble : Option (Nat × Trouble)) : ∀ taken, 0 < (sink trouble).appetite taken := hungry
  refine ⟨fun trouble once => ?_, fun place kind cause lasts => ?_⟩
  · have never : (sink trouble).stop = none := by
      rcases trouble with - | ⟨place, kind⟩
      · rfl
      · obtain rfl := once place kind rfl
        rfl
    rcases writeRequest_stops (fed trouble) (by simp [never]) request target with
      ⟨after, ⟨continues, taken, -⟩, written⟩ | ⟨cause, after, stops, -⟩
    · exact ⟨after.flush, written, taken, congrArg (· + 1) continues.flushes⟩
    · obtain ⟨⟩ | ⟨-, stops, -⟩ := stops
      rw [never] at stops
      cases stops
  · obtain ⟨stop, lasting⟩ : (sink (some (place, kind))).stop = some (place, cause) ∧ cause.isInterrupted = false := by
      rcases lasts with ⟨rfl, lasting⟩ | ⟨rfl, rfl⟩
      · exact ⟨rfl, lasting⟩
      · exact ⟨rfl, rfl⟩
    have ends : ∀ last why, (sink (some (place, kind))).stop = some (last, why) → why.isInterrupted = false := by
      intro last why stops
      rw [stop] at stops
      cases stops
      exact lasting
    rcases writeRequest_stops (fed (some (place, kind))) ends request target with
      ⟨after, ⟨continues, taken, room⟩, written⟩ | ⟨why, after, stops, written⟩
    · have within : wire.length ≤ place := room place cause stop
      refine ⟨after.flush, by rw [if_pos within, written], ?_, ?_⟩
      · rw [List.take_of_length_le within]
        exact taken
      · rw [if_pos within]
        exact congrArg (· + 1) continues.flushes
    · obtain ⟨⟩ | ⟨continues, stops, more, taken⟩ := stops
      rw [stop] at stops
      cases stops
      have beyond : ¬wire.length ≤ place := Nat.not_le_of_lt more
      refine ⟨after, by rw [if_neg beyond, written], taken, ?_⟩
      rw [if_neg beyond]
      exact continues.flushes

private def ping : Request := ⟨⟨"POST"⟩, ⟨none, none, some "/_ping"⟩, ⟨[]⟩, [0x68, 0x69]⟩

/-- A writer that takes three bytes of a call, is interrupted three times and then takes nothing any more: once
between head and body, and once where the request ends. -/
theorem writeRequest_parts_threeByThree :
    let sink (place : Nat) : Sink := { Sink.fresh (fun _ => 3) (some (place, .takesNothing)) with interrupts := [0, 7, 7] }
    (∃ after, writeRequest (sink 60) ping "/_ping" = (.error (.io .shortWrite), after) ∧
      after.taken.toList = requestHead ping "/_ping" ∧ after.flushes = 0) ∧
    ∃ after, writeRequest (sink 62) ping "/_ping" = (.ok (), after) ∧
      after.taken.toList = requestBytes ping "/_ping" ∧ after.flushes = 1 := by
  intro sink
  have length : (requestBytes ping "/_ping").length = 62 := by decide +kernel
  have head : (requestBytes ping "/_ping").take 60 = requestHead ping "/_ping" := by decide +kernel
  have parts := (writeRequest_parts (fun _ => Nat.succ_pos 2) [0, 7, 7] ping "/_ping").2
  obtain ⟨early, written, taken, flushes⟩ := parts 60 .takesNothing .shortWrite (.inr ⟨rfl, rfl⟩)
  obtain ⟨late, written', taken', flushes'⟩ := parts 62 .takesNothing .shortWrite (.inr ⟨rfl, rfl⟩)
  rw [length] at written flushes written' flushes'
  exact ⟨⟨early, written, taken.trans head, flushes⟩,
    late, written', taken'.trans (List.take_of_length_le (Nat.le_of_eq length)), flushes'⟩

end EngineClient.Http
