import EngineClient.Http.Reading
import EngineClient.Proofs.Stream
/-!
# Reading a head

The bytes of a head go through the first blank line (`Lead`). What stands before that line decides what the
reader answers, wherever one read ends and the next begins (`readHead_lead`, `readHead_none`).
-/

namespace EngineClient.Http

/-- The line end of the last line and the empty line after it. -/
def blankLine : Bytes := [0x0D, 0x0A, 0x0D, 0x0A]

/-- The bytes of a head: they end in a blank line, and there is none before. -/
def Lead (lead : Bytes) : Prop := blankLine <:+ lead ∧ ¬ blankLine <:+: lead.dropLast

/-! ## Where a head ends -/

theorem headEndFrom_blankLine (position : Nat) (rest : Bytes) :
    headEndFrom position (blankLine ++ rest) = some (position + 4) := by
  simp [blankLine, headEndFrom]

theorem headEndFrom_cons {b : UInt8} {rest : Bytes} (other : ¬ blankLine <+: b :: rest) (position : Nat) :
    headEndFrom position (b :: rest) = headEndFrom (position + 1) rest := by
  rw [headEndFrom]
  rintro more rfl rfl
  exact other ⟨more, rfl⟩

theorem lead_blankLine : Lead blankLine := by
  simp only [Lead]
  decide

theorem Lead.length_le {lead : Bytes} (isLead : Lead lead) : 4 ≤ lead.length := isLead.1.length_le

private theorem eq_blankLine_of_lead {lead rest : Bytes} (isLead : Lead lead) (starts : blankLine <+: lead ++ rest) :
    lead = blankLine := by
  have long := isLead.1.length_le
  have first : blankLine <+: lead := List.prefix_of_prefix_length_le starts (List.prefix_append lead rest) long
  obtain ⟨more, rfl⟩ := first
  cases more with
  | nil => simp
  | cons b more =>
    refine absurd ?_ isLead.2
    rw [List.dropLast_append_of_ne_nil (by simp)]
    exact (List.prefix_append _ _).isInfix

private theorem lead_cons {b : UInt8} {lead rest : Bytes} (other : ¬ blankLine <+: b :: (lead ++ rest)) :
    Lead (b :: lead) ↔ Lead lead := by
  have notHere : ¬ blankLine <+: b :: lead := fun here => other (here.trans (List.prefix_append (b :: lead) rest))
  have notWhole : blankLine ≠ b :: lead := fun whole => notHere (whole ▸ List.prefix_refl _)
  cases lead with
  | nil => exact iff_of_false (fun isLead => by simpa using isLead.length_le) fun isLead => by simpa using isLead.length_le
  | cons c lead =>
    have notBefore : ¬ blankLine <+: b :: (c :: lead).dropLast := fun before =>
      notHere (before.trans (by simpa using List.dropLast_prefix (b :: c :: lead)))
    simp only [Lead, List.suffix_cons_iff (a := b), List.dropLast_cons_of_ne_nil (List.cons_ne_nil c lead),
      List.infix_cons_iff (a := b), notWhole, notBefore, false_or]

private theorem headEndFrom_eq_some_iff {bytes : Bytes} {position length : Nat} :
    headEndFrom position bytes = some length ↔
      ∃ lead rest, Lead lead ∧ bytes = lead ++ rest ∧ length = position + lead.length := by
  induction bytes generalizing position with
  | nil =>
    simp only [headEndFrom, List.nil_eq, List.append_eq_nil_iff, reduceCtorEq, false_iff]
    rintro ⟨_, _, isLead, ⟨rfl, -⟩, -⟩
    simpa using isLead.length_le
  | cons b bytes ih =>
    by_cases starts : blankLine <+: b :: bytes
    · obtain ⟨rest, same⟩ := starts
      rw [← same, headEndFrom_blankLine]
      constructor
      · intro found
        cases found
        exact ⟨blankLine, rest, lead_blankLine, rfl, rfl⟩
      · rintro ⟨lead, rest', isLead, parts, rfl⟩
        rw [eq_blankLine_of_lead isLead (parts ▸ List.prefix_append _ _)]
        rfl
    · rw [headEndFrom_cons starts, ih]
      constructor
      · rintro ⟨lead, rest, isLead, rfl, rfl⟩
        exact ⟨b :: lead, rest, (lead_cons starts).mpr isLead, rfl, by simp; omega⟩
      · rintro ⟨lead, rest, isLead, parts, rfl⟩
        cases lead with
        | nil => simpa using isLead.length_le
        | cons c lead =>
          obtain ⟨rfl, rfl⟩ : b = c ∧ bytes = lead ++ rest := by simpa using parts
          exact ⟨lead, rest, (lead_cons starts).mp isLead, rfl, by simp; omega⟩

theorem headEnd_eq_some_iff {bytes : Bytes} {length : Nat} :
    headEnd bytes = some length ↔ ∃ lead rest, Lead lead ∧ bytes = lead ++ rest ∧ length = lead.length := by
  simp [headEnd, headEndFrom_eq_some_iff]

theorem headEnd_append {lead : Bytes} (isLead : Lead lead) (rest : Bytes) :
    headEnd (lead ++ rest) = some lead.length :=
  headEnd_eq_some_iff.mpr ⟨lead, rest, isLead, rfl, rfl⟩

/-- Bytes begin with one head at most. -/
theorem Lead.unique {lead lead' rest rest' : Bytes} (isLead : Lead lead) (isLead' : Lead lead')
    (same : lead ++ rest = lead' ++ rest') : lead = lead' ∧ rest = rest' := by
  have first := headEnd_append isLead rest
  rw [same, headEnd_append isLead' rest'] at first
  exact List.append_inj same (Option.some.inj first).symm

/-- Bytes that hold no head begin one that more bytes complete. -/
theorem Lead.longer {front more lead rest : Bytes} (isLead : Lead lead) (headless : headEnd front = none)
    (same : front ++ more = lead ++ rest) : front.length < lead.length := by
  rcases Nat.lt_or_ge front.length lead.length with less | enough
  · exact less
  · obtain ⟨left, rfl⟩ : lead <+: front :=
      List.prefix_of_prefix_length_le ⟨rest, same.symm⟩ (List.prefix_append front more) enough
    rw [headEnd_append isLead left] at headless
    contradiction

theorem headEnd_none_of_append {front more : Bytes} (headless : headEnd (front ++ more) = none) : headEnd front = none := by
  cases found : headEnd front with
  | none => rfl
  | some length =>
    obtain ⟨lead, rest, isLead, rfl, -⟩ := headEnd_eq_some_iff.mp found
    rw [List.append_assoc, headEnd_append isLead] at headless
    contradiction

/-! ## The reader of heads -/

private theorem readHeadFor_sound {source rest : Source} {buffer lead leftover : Bytes} {reads : Nat}
    (read : readHeadFor source buffer reads = (.ok (lead, leftover), rest)) :
    Lead lead ∧ source.stream.prepend buffer = rest.stream.prepend (lead ++ leftover) := by
  induction reads generalizing source buffer with
  | zero => simp [readHeadFor] at read
  | succ reads ih =>
    rw [readHeadFor] at read
    split at read
    · rename_i length found
      obtain ⟨lead', rest', isLead, rfl, rfl⟩ := headEnd_eq_some_iff.mp found
      simp only [List.take_left, List.drop_left, Prod.mk.injEq, Except.ok.injEq] at read
      obtain ⟨⟨rfl, rfl⟩, rfl⟩ := read
      exact ⟨isLead, rfl⟩
    · split_ifs at read
      · simp at read
      · split at read
        · simp at read
        · simp at read
        · rename_i bytes next got
          obtain ⟨-, same⟩ := Source.read_stream (by decide) got
          obtain ⟨isLead, same'⟩ := ih read
          exact ⟨isLead, by rw [same, Stream.prepend_prepend, same']⟩

/-- The reader takes a head, and some bytes after it. -/
theorem readHead_sound {source rest : Source} {lead leftover : Bytes}
    (read : readHead source = (.ok (lead, leftover), rest)) :
    Lead lead ∧ source.stream = rest.stream.prepend (lead ++ leftover) :=
  readHeadFor_sound read

section
variable {pieces : List Bytes} (ending : Ending)

/-- A round of the reader that has no head yet. -/
private theorem readHeadFor_more (reads : Nat) {buffer : Bytes} (headless : headEnd buffer = none)
    (short : buffer.length ≤ headLimit) (more : pieces.flatten ≠ []) :
    ∃ piece pieces', piece ≠ [] ∧ pieces.flatten = piece ++ pieces'.flatten ∧
      readHeadFor (.inPieces pieces ending) buffer (reads + 1) =
        readHeadFor (.inPieces pieces' ending) (buffer ++ piece) reads := by
  obtain ⟨piece, pieces', got⟩ := Source.read_inPieces more ending headReadSize
  obtain ⟨some, same⟩ := Source.read_stream (by decide) got
  rw [Source.inPieces_stream, Source.inPieces_stream] at same
  refine ⟨piece, pieces', some, congrArg Stream.bytes same, ?_⟩
  rw [readHeadFor]
  simp only [headless, if_neg (Nat.not_lt_of_le short), got]

private theorem readHeadFor_long {source : Source} {buffer : Bytes} {reads : Nat} (headless : headEnd buffer = none)
    (long : headLimit < buffer.length) :
    (readHeadFor source buffer reads).1 = .error (.protocol .headTooLong) := by
  cases reads with
  | zero => rfl
  | succ reads =>
    rw [readHeadFor]
    simp only [headless, if_pos long]

private theorem readHeadFor_lead {lead rest buffer : Bytes} {reads : Nat} (isLead : Lead lead)
    (bytes : buffer ++ pieces.flatten = lead ++ rest) (room : headLimit + 2 ≤ reads + buffer.length)
    (some : 0 < reads) :
    (∃ leftover pieces', leftover ++ pieces'.flatten = rest ∧
      readHeadFor (.inPieces pieces ending) buffer reads = (.ok (lead, leftover), .inPieces pieces' ending)) ∨
    (headLimit < lead.length ∧
      (readHeadFor (.inPieces pieces ending) buffer reads).1 = .error (.protocol .headTooLong)) := by
  -- A read adds a byte and is made only within the limit, so there are always reads enough for it.
  induction reads generalizing buffer pieces with
  | zero => omega
  | succ reads ih =>
    cases found : headEnd buffer with
    | some length =>
      obtain ⟨lead', leftover, isLead', rfl, rfl⟩ := headEnd_eq_some_iff.mp found
      rw [List.append_assoc] at bytes
      obtain ⟨rfl, rfl⟩ := isLead'.unique isLead bytes
      refine .inl ⟨leftover, pieces, rfl, ?_⟩
      rw [readHeadFor]
      simp only [found, List.take_left, List.drop_left]
    | none =>
      have longer := isLead.longer found bytes
      by_cases long : headLimit < buffer.length
      · exact .inr ⟨by omega, readHeadFor_long found long⟩
      · have more : pieces.flatten ≠ [] := by
          intro none
          have lengths := congrArg List.length bytes
          simp only [none, List.append_nil, List.length_append] at lengths
          omega
        obtain ⟨piece, pieces', nonempty, same, step⟩ :=
          readHeadFor_more ending reads found (Nat.le_of_not_lt long) more
        have positive := List.length_pos_iff.mpr nonempty
        rw [step]
        refine ih (by rw [← bytes, same, List.append_assoc]) ?_ (by omega)
        simp only [List.length_append]
        omega

private theorem readHeadFor_none {buffer : Bytes} {reads : Nat} (headless : headEnd (buffer ++ pieces.flatten) = none)
    (room : headLimit + 2 ≤ reads + buffer.length) (some : 0 < reads) :
    (readHeadFor (.inPieces pieces ending) buffer reads).1 =
      .error (if headLimit < (buffer ++ pieces.flatten).length then .protocol .headTooLong
        else match ending with
          | .closed => .protocol .headClosed
          | .failing cause => .io cause) := by
  induction reads generalizing buffer pieces with
  | zero => omega
  | succ reads ih =>
    have noneYet := headEnd_none_of_append headless
    by_cases long : headLimit < buffer.length
    · rw [readHeadFor_long noneYet long, if_pos (by simp only [List.length_append]; omega)]
    · by_cases more : pieces.flatten = []
      · rw [readHeadFor, more, List.append_nil, if_neg long]
        simp only [noneYet, if_neg long, Source.read_inPieces_nil more]
        cases ending <;> rfl
      · obtain ⟨piece, pieces', nonempty, same, step⟩ :=
          readHeadFor_more ending reads noneYet (Nat.le_of_not_lt long) more
        have positive := List.length_pos_iff.mpr nonempty
        rw [step, same, ← List.append_assoc]
        refine ih (by rwa [List.append_assoc, ← same]) ?_ (by omega)
        simp only [List.length_append]
        omega

/-- The reader takes the head that the bytes begin with, or it gives up because that head is too long. -/
theorem readHead_lead {lead rest : Bytes} (isLead : Lead lead) (bytes : pieces.flatten = lead ++ rest) :
    (∃ leftover pieces', leftover ++ pieces'.flatten = rest ∧
      readHead (.inPieces pieces ending) = (.ok (lead, leftover), .inPieces pieces' ending)) ∨
    (headLimit < lead.length ∧ (readHead (.inPieces pieces ending)).1 = .error (.protocol .headTooLong)) :=
  readHeadFor_lead ending isLead bytes (by simp) (by simp)

/-- Where the bytes hold no head, the reader says why there is none. -/
theorem readHead_none (headless : headEnd pieces.flatten = none) :
    (readHead (.inPieces pieces ending)).1 =
      .error (if headLimit < pieces.flatten.length then .protocol .headTooLong
        else match ending with
          | .closed => .protocol .headClosed
          | .failing cause => .io cause) :=
  readHeadFor_none ending headless (by simp) (by simp)

end

end EngineClient.Http
