import EngineClient.Proofs.Http.HeadSections
import Mathlib.Data.List.Forall2
/-!
# The digits of a status

Every head that is read starts with the three digits of its status (`Head.parse_front`). They decide the status, and
nothing else in the head: where it ends (`headEnd_digits`), its version and its fields stay (`Head.parse_digits`).
Between statuses of responses that may have a body (`Status.Bodied`) the framing stays as well (`framing_bodied`).
-/

namespace EngineClient.Http

open Head (cr lf)

/-- The digits of a status. -/
def Status.digits (status : Status) : Bytes := Text.encode (toString status.code)

/-- The statuses from 200 on of responses that may have a body. -/
structure Status.Bodied (status : Status) : Prop where
  low : 200 ≤ status.code
  high : status.code < 1000
  content : status.code ≠ 204
  modified : status.code ≠ 304

/-- What stands before the digits of a status: line ends, the version and a space. -/
def StatusFront (front : Bytes) : Prop :=
  ∃ (blanks : Bytes) (version : Version), (∀ b ∈ blanks, b = cr ∨ b = lf) ∧
    front = blanks ++ (Text.encode version.text ++ [0x20])

namespace Status.Bodied
variable {status status' : Status}

theorem code_bounds (bodied : status.Bodied) : 100 ≤ status.code ∧ status.code < 1000 :=
  ⟨Nat.le_trans (by decide) bodied.low, bodied.high⟩

theorem not_bodiless (bodied : status.Bodied) : status.isBodiless = false := by
  obtain ⟨low, high, content, modified⟩ := bodied
  simp [isBodiless, isInformational, content, modified, Nat.not_lt.mpr low]

theorem length_digits (bodied : status.Bodied) : status.digits.length = 3 := by
  rw [digits, Head.encode_digits bodied.code_bounds]
  rfl

/-- No digit is a line end. -/
theorem digits_plain (bodied : status.Bodied) : ∀ b ∈ status.digits, b ≠ cr ∧ b ≠ lf := by
  have plain : ∀ k < 10, UInt8.ofNat (48 + k) ≠ cr ∧ UInt8.ofNat (48 + k) ≠ lf := by decide
  have bounds := bodied.code_bounds
  rw [digits, Head.encode_digits bounds]
  intro b member
  simp only [List.mem_cons, List.not_mem_nil, or_false] at member
  rcases member with rfl | rfl | rfl
  · exact plain _ (by omega)
  · exact plain _ (by omega)
  · exact plain _ (by omega)

end Status.Bodied

/-- With statuses of responses that may have a body, the fields decide the framing. -/
theorem framing_bodied {status status' : Status} (bodied : status.Bodied) (bodied' : status'.Bodied) (method : Method)
    (version : Version) (headers : Headers) :
    framing method ⟨version, status, headers⟩ = framing method ⟨version, status', headers⟩ := by
  simp only [framing, bodied.not_bodiless, bodied'.not_bodiless]
  rfl

/-! ## The end of the head -/

/-- Bytes of which one is a line end where the other is the same one. -/
def Similar (b b' : UInt8) : Prop := b = b' ∨ (b ≠ cr ∧ b ≠ lf) ∧ b' ≠ cr ∧ b' ≠ lf

theorem Similar.refl (b : UInt8) : Similar b b := .inl rfl

theorem Similar.symm {b b' : UInt8} (similar : Similar b b') : Similar b' b := by
  rcases similar with rfl | ⟨plain, plain'⟩
  · exact .inl rfl
  · exact .inr ⟨plain', plain⟩

theorem Similar.eq_of_lineEnd {b b' : UInt8} (similar : Similar b b') (lineEnd : b = cr ∨ b = lf) : b' = b := by
  rcases similar with rfl | ⟨plain, -⟩
  · rfl
  · rcases lineEnd with rfl | rfl
    · exact absurd rfl plain.1
    · exact absurd rfl plain.2

private theorem blankLine_prefix_of_similar {bytes bytes' : Bytes} (similar : List.Forall₂ Similar bytes bytes')
    (starts : blankLine <+: bytes) : blankLine <+: bytes' := by
  obtain ⟨rest, rfl⟩ := starts
  obtain ⟨_, _, first, more, rfl⟩ := List.forall₂_cons_left_iff.mp similar
  obtain ⟨_, _, second, more', rfl⟩ := List.forall₂_cons_left_iff.mp more
  obtain ⟨_, _, third, more'', rfl⟩ := List.forall₂_cons_left_iff.mp more'
  obtain ⟨_, rest', fourth, -, rfl⟩ := List.forall₂_cons_left_iff.mp more''
  rw [first.eq_of_lineEnd (.inl rfl), second.eq_of_lineEnd (.inr rfl), third.eq_of_lineEnd (.inl rfl),
    fourth.eq_of_lineEnd (.inr rfl)]
  exact ⟨rest', rfl⟩

private theorem headEndFrom_similar {bytes bytes' : Bytes} (similar : List.Forall₂ Similar bytes bytes') (position : Nat) :
    headEndFrom position bytes = headEndFrom position bytes' := by
  induction similar generalizing position with
  | nil => rfl
  | @cons b b' rest rest' first more ih =>
    have whole : List.Forall₂ Similar (b :: rest) (b' :: rest') := .cons first more
    have back : List.Forall₂ Similar (b' :: rest') (b :: rest) := (List.Forall₂.flip whole).imp fun _ _ => Similar.symm
    by_cases starts : blankLine <+: b :: rest
    · obtain ⟨left', parts'⟩ := blankLine_prefix_of_similar whole starts
      obtain ⟨left, parts⟩ := starts
      rw [← parts, ← parts', headEndFrom_blankLine, headEndFrom_blankLine]
    · have other : ¬ blankLine <+: b' :: rest' := fun starts' => starts (blankLine_prefix_of_similar back starts')
      rw [headEndFrom_cons starts, headEndFrom_cons other, ih]

section
variable {status status' : Status} (bodied : status.Bodied) (bodied' : status'.Bodied)
include bodied bodied'

/-- The digits of the status do not count for where the head ends. -/
theorem headEnd_digits (front rest : Bytes) :
    headEnd (front ++ (status.digits ++ rest)) = headEnd (front ++ (status'.digits ++ rest)) := by
  have same (bytes : Bytes) : List.Forall₂ Similar bytes bytes := List.forall₂_same.mpr fun b _ => .refl b
  have digits : List.Forall₂ Similar status.digits status'.digits := by
    rw [List.forall₂_iff_get]
    refine ⟨bodied.length_digits.trans bodied'.length_digits.symm, ?_⟩
    intro i inside inside'
    exact .inr ⟨bodied.digits_plain _ (List.get_mem ..), bodied'.digits_plain _ (List.get_mem ..)⟩
  exact headEndFrom_similar (List.rel_append (same front) (List.rel_append digits (same rest))) 0

/-- What is a head with one status is a head with the other. -/
theorem Lead.digits {front middle : Bytes} (isLead : Lead (front ++ (status.digits ++ middle))) :
    Lead (front ++ (status'.digits ++ middle)) := by
  have ends := headEnd_append isLead []
  rw [List.append_nil, headEnd_digits bodied bodied'] at ends
  obtain ⟨lead, rest, isLead', parts, length⟩ := headEnd_eq_some_iff.mp ends
  have lengths := congrArg List.length parts
  simp only [List.length_append, bodied.length_digits, bodied'.length_digits] at lengths length
  obtain rfl : rest = [] := List.length_eq_zero_iff.mp (by omega)
  rw [List.append_nil] at parts
  exact parts ▸ isLead'

end

/-! ## The content of the head -/

namespace Head

/-- Line ends begin in one of the forms that are told apart. -/
private theorem no_other_blanks {bytes : Bytes} (blank : ∀ b ∈ bytes, b = cr ∨ b = lf) (notNil : bytes ≠ [])
    (notFeed : ∀ rest, bytes ≠ lf :: rest) (notAlone : bytes ≠ [cr]) (notReturn : ∀ b rest, bytes ≠ cr :: b :: rest) :
    False := by
  obtain ⟨first, more, rfl⟩ := List.exists_cons_of_ne_nil notNil
  rcases blank first List.mem_cons_self with rfl | rfl
  · cases more with
    | nil => exact notAlone rfl
    | cons b rest => exact notReturn b rest rfl
  · exact notFeed more rfl

/-- Line ends before the version are passed over, or are no line ends of their own. -/
private theorem skipEmptyLines_blanks {blanks : Bytes} (blank : ∀ b ∈ blanks, b = cr ∨ b = lf) :
    (∃ fault, ∀ (version : Version) (more : Bytes),
      skipEmptyLines (blanks ++ (Text.encode version.text ++ more)) = .error fault) ∨
    ∀ (version : Version) (more : Bytes),
      skipEmptyLines (blanks ++ (Text.encode version.text ++ more)) = .ok (Text.encode version.text ++ more) := by
  fun_induction skipEmptyLines blanks with
  | case1 => exact .inr skipEmptyLines_text
  | case2 rest ih => exact ih fun b member => blank b (List.mem_cons_of_mem _ member)
  | case3 rest ih => exact ih fun b member => blank b (List.mem_cons_of_mem _ (List.mem_cons_of_mem _ member))
  | case4 =>
    left
    refine ⟨.newLine, ?_⟩
    intro version more
    obtain ⟨rest, text⟩ : ∃ rest, Text.encode version.text = 0x48 :: rest := by
      rw [Text.encode_eq_flatMap]
      cases version <;> exact ⟨_, rfl⟩
    rw [text]
    rfl
  | case5 b rest notLf =>
    left
    refine ⟨.newLine, ?_⟩
    intro version more
    simp only [List.cons_append]
    rw [skipEmptyLines]
    exact notLf
  | case6 bytes notNil notFeed _ notAlone notReturn =>
    exact (no_other_blanks blank notNil notFeed notAlone notReturn).elim

/-- Line ends and nothing else are no head. -/
theorem parse_blanks {blanks : Bytes} (blank : ∀ b ∈ blanks, b = cr ∨ b = lf) :
    ∃ fault, parse blanks = .error fault := by
  obtain ⟨fault, garbled⟩ : ∃ fault, skipEmptyLines blanks = .error fault := by
    fun_induction skipEmptyLines blanks with
    | case1 => exact ⟨_, rfl⟩
    | case2 rest ih => exact ih fun b member => blank b (List.mem_cons_of_mem _ member)
    | case3 rest ih => exact ih fun b member => blank b (List.mem_cons_of_mem _ (List.mem_cons_of_mem _ member))
    | case4 => exact ⟨_, rfl⟩
    | case5 b rest notLf => exact ⟨_, rfl⟩
    | case6 bytes notNil notFeed _ notAlone notReturn =>
      exact (no_other_blanks blank notNil notFeed notAlone notReturn).elim
  refine ⟨fault, ?_⟩
  simp only [parse, bind, Except.bind, garbled]

/-- What is read behind the digits of the status. -/
private def afterCode (bytes : Bytes) : Except ResponseFault (Headers × Bytes) := do
  let rest ← endStatusLine bytes
  let (lines, rest) ← readHeaders [] headerLimit rest
  let headers ← collect .empty lines
  return (headers, rest)

private theorem parse_eq_afterCode {blanks : Bytes} {version : Version}
    (skipped : ∀ more, skipEmptyLines (blanks ++ (Text.encode version.text ++ more)) = .ok (Text.encode version.text ++ more))
    {status : Status} (bodied : status.Bodied) (middle : Bytes) :
    parse (blanks ++ (Text.encode version.text ++ 0x20 :: (status.digits ++ middle))) =
      (afterCode middle).map fun (headers, surplus) => (⟨version, status, headers⟩, surplus) := by
  have known : Status.ofNat status.code = some status := if_pos bodied.code_bounds
  simp only [parse, afterCode, bind, Except.bind, skipped, readVersion_text, ↓reduceIte, Status.digits,
    readDigits_code bodied.code_bounds, known]
  cases endStatusLine middle with
  | error fault => rfl
  | ok rest =>
    simp only
    cases readHeaders [] headerLimit rest with
    | error fault => rfl
    | ok lines =>
      simp only
      cases collect .empty lines.1 with
      | error fault => rfl
      | ok headers => rfl

/-- The digits of the status decide the status, and nothing else in a head. -/
theorem parse_digits {front : Bytes} (starts : StatusFront front) (middle : Bytes) :
    (∃ fault, ∀ status : Status, status.Bodied → parse (front ++ (status.digits ++ middle)) = .error fault) ∨
    ∃ version headers surplus, ∀ status : Status, status.Bodied →
      parse (front ++ (status.digits ++ middle)) = .ok (⟨version, status, headers⟩, surplus) := by
  obtain ⟨blanks, version, blank, rfl⟩ := starts
  simp only [List.append_assoc, List.cons_append, List.nil_append]
  rcases skipEmptyLines_blanks blank with ⟨fault, garbled⟩ | skipped
  · left
    refine ⟨fault, fun status bodied => ?_⟩
    simp only [parse, bind, Except.bind, garbled]
  · have reads {status : Status} (bodied : status.Bodied) := parse_eq_afterCode (skipped version) bodied middle
    cases more : afterCode middle with
    | error fault =>
      left
      refine ⟨fault, fun status bodied => ?_⟩
      rw [reads bodied, more]
      rfl
    | ok rest =>
      right
      refine ⟨version, rest.1, rest.2, fun status bodied => ?_⟩
      rw [reads bodied, more]
      rfl

/-- Where a digit is read, the first byte writes it. -/
private theorem exists_digit {value count number : Nat} {bytes rest : Bytes}
    (found : readDigits value (count + 1) bytes = .ok (number, rest)) :
    ∃ d more, d < 10 ∧ bytes = UInt8.ofNat (48 + d) :: more ∧ readDigits (value * 10 + d) count more = .ok (number, rest) := by
  cases bytes with
  | nil => cases found
  | cons b more =>
    rw [readDigits] at found
    cases digit : digitByte b with
    | none =>
      rw [digit] at found
      cases found
    | some d =>
      rw [digit] at found
      rw [digitByte] at digit
      split_ifs at digit with between
      obtain rfl := Option.some.inj digit
      have low : 48 ≤ b.toNat := UInt8.le_iff_toNat_le.mp between.1
      have high : b.toNat ≤ 57 := UInt8.le_iff_toNat_le.mp between.2
      refine ⟨b.toNat - 48, more, by omega, ?_, found⟩
      rw [Nat.add_sub_cancel' low, UInt8.ofNat_toNat]

/-- The digits that are read for a status are its own. -/
private theorem digits_of_readDigits {bytes rest : Bytes} {code : Nat} {status : Status}
    (number : readDigits 0 3 bytes = .ok (code, rest)) (known : Status.ofNat code = some status) :
    bytes = status.digits ++ rest := by
  rw [Status.ofNat] at known
  split_ifs at known with three
  obtain rfl := Option.some.inj known
  obtain ⟨i, _, small, rfl, tens⟩ := exists_digit number
  obtain ⟨j, _, small', rfl, ones⟩ := exists_digit tens
  obtain ⟨k, _, small'', rfl, nothing⟩ := exists_digit ones
  obtain ⟨value, rfl⟩ : ((0 * 10 + i) * 10 + j) * 10 + k = code ∧ _ = rest := by simpa [readDigits] using nothing
  have digits : i = code / 10 / 10 ∧ j = code / 10 % 10 ∧ k = code % 10 := by omega
  rw [Status.digits, encode_digits three, digits.1, digits.2.1, digits.2.2]
  rfl

/-- What is read as a head starts with the digits of its status. -/
theorem parse_front {bytes surplus : Bytes} {head : Head} (parsed : parse bytes = .ok (head, surplus)) :
    ∃ front middle, StatusFront front ∧ bytes = front ++ (head.status.digits ++ middle) := by
  obtain ⟨started, afterSpace, code, afterCode, -, -, empty, spoken, number, -, -, known, -⟩ := parse_cases parsed
  obtain ⟨blanks, rfl, blank, -⟩ := skipEmptyLines_taken empty
  obtain rfl := readVersion_taken spoken
  obtain rfl := digits_of_readDigits number known
  refine ⟨blanks ++ (Text.encode head.version.text ++ [0x20]), afterCode, ⟨blanks, head.version, blank, rfl⟩, ?_⟩
  simp

end Head

/-- A head ends with a line feed. -/
theorem Lead.getLast?_eq {lead : Bytes} (isLead : Lead lead) : lead.getLast? = some lf := by
  obtain ⟨front, rfl⟩ := isLead.1
  rw [List.getLast?_append]
  rfl

/-- The head of a stream that starts with a status goes beyond its digits, or it is no head of a response. -/
theorem Lead.digits_cases {front lead tail rest : Bytes} (starts : StatusFront front) {status : Status}
    (bodied : status.Bodied) (isLead : Lead lead) (bytes : lead ++ tail = front ++ (status.digits ++ rest)) :
    (lead <+: front ∧ ∃ fault, Head.parse lead = .error fault) ∨
    ∃ middle, lead = front ++ (status.digits ++ middle) ∧ rest = middle ++ tail := by
  obtain ⟨blanks, version, blank, rfl⟩ := starts
  have within (lead : Bytes) (short : lead <+: blanks) :
      lead <+: blanks ++ (Text.encode version.text ++ [0x20]) ∧ ∃ fault, Head.parse lead = .error fault :=
    ⟨short.trans (List.prefix_append ..), Head.parse_blanks fun b member => blank b (short.subset member)⟩
  -- Between the line ends in front and the bytes behind the digits there is no line feed.
  have free : lf ∉ Text.encode version.text ++ ([0x20] ++ status.digits) := by
    have named : lf ∉ Text.encode version.text := by
      rw [Text.encode_eq_flatMap]
      cases version <;> decide
    simp only [List.mem_append, not_or]
    exact ⟨named, by decide, fun member => (bodied.digits_plain lf member).2 rfl⟩
  have parts : lead ++ tail = blanks ++ ((Text.encode version.text ++ ([0x20] ++ status.digits)) ++ rest) := by
    rw [bytes]
    simp only [List.append_assoc]
  rcases List.append_eq_append_iff.mp parts with ⟨more, rfl, -⟩ | ⟨more, rfl, behind⟩
  · exact .inl (within lead (List.prefix_append lead more))
  · rcases List.append_eq_append_iff.mp behind with ⟨middle, rfl, rfl⟩ | ⟨left, word, -⟩
    · refine .inr ⟨middle, ?_, rfl⟩
      simp only [List.append_assoc]
    · by_cases none : more = []
      · subst none
        rw [List.append_nil]
        exact .inl (within blanks List.prefix_rfl)
      · have last := isLead.getLast?_eq
        rw [List.getLast?_append_of_ne_nil _ none] at last
        have member : lf ∈ more := List.mem_of_getLast? last
        exact absurd (word ▸ List.mem_append_left left member) free

end EngineClient.Http
