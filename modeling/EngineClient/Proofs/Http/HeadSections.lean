import EngineClient.Proofs.Http.HeadParsing
import EngineClient.Proofs.Http.Message
/-!
# Where a head ends, and where its parser stops

The reader of responses takes a head through the first blank line, of which both line ends are whole (`Lead`). The
parser of heads takes a line feed alone for a line end as well, so it stops behind the first empty line in any
mixture of line ends (`HeadSection`, `Head.parse_section`). The bytes between the two places belong to no part of the
response (`head_section_of_response`).
-/

namespace EngineClient.Http

open Head (cr lf)

/-- The bytes end in an empty line, which stands behind a line that has a byte. A carriage return before the first
line feed of the two is part of `front`. -/
def Concludes (bytes : Bytes) : Prop :=
  ∃ front mark, bytes = front ++ mark ∧ (mark = [lf, lf] ∨ mark = [lf, cr, lf]) ∧ ∃ b ∈ front, b ≠ cr ∧ b ≠ lf

/-- The bytes of a head as its parser has them: they end in an empty line, and no bytes before do. -/
def HeadSection (bytes : Bytes) : Prop :=
  Concludes bytes ∧ ∀ front back, bytes = front ++ back → Concludes front → back = []

/-! ## Lines in either form -/

/-- The rest of a line: its first line feed is its end. -/
private def Ended (bytes : Bytes) : Prop := ∃ front, bytes = front ++ [lf] ∧ lf ∉ front

/-- Lines that have a byte, and the empty line behind them. -/
private inductive Lines : Bytes → Prop
  | feed : Lines [lf]
  | both : Lines [cr, lf]
  | line {b : UInt8} {line more : Bytes} (notCr : b ≠ cr) (notLf : b ≠ lf) (ended : Ended line) (rest : Lines more) :
      Lines (b :: (line ++ more))

private theorem ended_lf : Ended [lf] := ⟨[], rfl, List.not_mem_nil⟩

private theorem ended_crlf : Ended [cr, lf] := ⟨[cr], rfl, by decide⟩

private theorem Ended.append {front bytes : Bytes} (free : lf ∉ front) (ended : Ended bytes) : Ended (front ++ bytes) := by
  obtain ⟨more, rfl, free'⟩ := ended
  exact ⟨front ++ more, by rw [List.append_assoc], by simp [free, free']⟩

private theorem Ended.cons {b : UInt8} {bytes : Bytes} (other : b ≠ lf) (ended : Ended bytes) : Ended (b :: bytes) := by
  have free : lf ∉ [b] := by simpa using other.symm
  exact ended.append free

private theorem Ended.tail {b : UInt8} {line more bytes : Bytes} (ended : Ended line) (other : b ≠ lf)
    (parts : b :: bytes = line ++ more) : ∃ rest, line = b :: rest ∧ Ended rest := by
  obtain ⟨front, rfl, free⟩ := ended
  cases front with
  | nil => exact absurd (List.cons.inj parts).1 other
  | cons c front =>
    obtain ⟨rfl, -⟩ := List.cons.inj parts
    exact ⟨front ++ [lf], rfl, front, rfl, fun member => free (List.mem_cons_of_mem _ member)⟩

/-- Two places with a line feed in the same bytes: the first of all does not come behind the other. -/
private theorem exists_behind {front more front' more' : Bytes} (free : lf ∉ front)
    (same : front ++ lf :: more = front' ++ lf :: more') :
    ∃ between, front' = front ++ between ∧ lf :: more = between ++ lf :: more' := by
  rcases List.append_eq_append_iff.mp same with ⟨between, rfl, rest⟩ | ⟨between, rfl, rest⟩
  · exact ⟨between, rfl, rest⟩
  · cases between with
    | nil => exact ⟨[], by simp, by simpa using rest.symm⟩
    | cons b between =>
      obtain ⟨rfl, -⟩ := List.cons.inj rest
      simp at free

private theorem Lines.concludes {lines : Bytes} (isLines : Lines lines) {front : Bytes}
    (spoken : ∃ b ∈ front, b ≠ cr ∧ b ≠ lf) : Concludes (front ++ lf :: lines) := by
  induction isLines generalizing front with
  | feed => exact ⟨front, _, rfl, .inl rfl, spoken⟩
  | both => exact ⟨front, _, rfl, .inr rfl, spoken⟩
  | @line b line more notCr notLf ended rest ih =>
    obtain ⟨text, rfl, -⟩ := ended
    have longer : Concludes ((front ++ lf :: b :: text) ++ lf :: more) := ih ⟨b, by simp, notCr, notLf⟩
    simpa using longer

private theorem Lines.last {lines : Bytes} (isLines : Lines lines) {front mark back : Bytes}
    (isMark : mark = [lf] ∨ mark = [cr, lf]) (same : lf :: lines = front ++ lf :: (mark ++ back)) : back = [] := by
  have some : mark ≠ [] := by rcases isMark with rfl | rfl <;> simp
  -- Such a place is in no line before the last one, so it goes on into the lines behind the first.
  induction isLines generalizing front with
  | feed =>
    rcases isMark with rfl | rfl <;> rcases front with - | ⟨_, _ | ⟨_, front⟩⟩ <;> simp_all
  | both =>
    rcases isMark with rfl | rfl <;> rcases front with - | ⟨_, _ | ⟨_, _ | ⟨_, front⟩⟩⟩ <;> simp_all [cr, lf]
  | @line b line more notCr notLf ended rest ih =>
    obtain ⟨text, rfl, free⟩ := ended
    cases front with
    | nil =>
      -- The line behind the line feed is not empty.
      rcases isMark with rfl | rfl
      · exact absurd (List.cons.inj (List.cons.inj same).2).1 notLf
      · exact absurd (List.cons.inj (List.cons.inj same).2).1 notCr
    | cons _ front =>
      have same' := (List.cons.inj same).2
      cases front with
      | nil => exact absurd (List.cons.inj same').1 notLf
      | cons _ front =>
        have same'' := (List.cons.inj same').2
        rw [List.append_assoc, List.singleton_append] at same''
        obtain ⟨between, -, rest'⟩ := exists_behind free same''
        exact ih rest'

/-- A line and more lines behind bytes of line ends are a head section. -/
private theorem Lines.headSection {blanks lines line : Bytes} {b : UInt8} (isLines : Lines lines)
    (blank : ∀ b ∈ blanks, b = cr ∨ b = lf) (notCr : b ≠ cr) (notLf : b ≠ lf) (ended : Ended line) :
    HeadSection (blanks ++ b :: (line ++ lines)) := by
  obtain ⟨text, rfl, free⟩ := ended
  constructor
  · have concludes : Concludes ((blanks ++ b :: text) ++ lf :: lines) := isLines.concludes ⟨b, by simp, notCr, notLf⟩
    simpa using concludes
  · rintro _ back same ⟨front, mark, rfl, isMark, spoken⟩
    obtain ⟨behindLf, rfl, isRest⟩ : ∃ more, mark = lf :: more ∧ (more = [lf] ∨ more = [cr, lf]) := by
      rcases isMark with rfl | rfl
      · exact ⟨_, rfl, .inl rfl⟩
      · exact ⟨_, rfl, .inr rfl⟩
    rw [List.append_assoc front] at same
    rcases List.append_eq_append_iff.mp same with ⟨behind, rfl, rest⟩ | ⟨behind, rfl, -⟩
    · cases behind with
      | nil => exact absurd (List.cons.inj rest).1 notLf
      | cons _ behind =>
        have rest' := (List.cons.inj rest).2
        rw [List.append_assoc, List.singleton_append] at rest'
        obtain ⟨between, -, last⟩ := exists_behind free rest'
        exact isLines.last isRest last
    · obtain ⟨c, member, notCr', notLf'⟩ := spoken
      rcases blank c (List.mem_append_left _ member) with same | same
      · exact absurd same notCr'
      · exact absurd same notLf'

/-! ## What each step of the parser takes -/

namespace Head
variable {bytes rest : Bytes}

/-- A step of the parser takes these bytes for a value, whatever comes behind them. -/
private def Reads {α : Type} (step : Bytes → Step α) (taken : Bytes) (value : α) : Prop :=
  ∀ more, step (taken ++ more) = .ok (value, more)

/-- A step of the parser passes over these bytes, whatever comes behind them. -/
private def Skips (step : Bytes → Except ResponseFault Bytes) (taken : Bytes) : Prop :=
  ∀ more, step (taken ++ more) = .ok more

private theorem expectLf_taken {fault : ResponseFault} (found : expectLf fault bytes = .ok rest) : bytes = lf :: rest := by
  cases bytes with
  | nil => contradiction
  | cons b bytes =>
    rw [expectLf] at found
    split_ifs at found with isLf
    · rw [isLf, Except.ok.inj found]

private theorem expectLf_lf (fault : ResponseFault) (more : Bytes) : expectLf fault (lf :: more) = .ok more := by
  rw [expectLf, if_pos rfl]

theorem skipEmptyLines_taken (skipped : skipEmptyLines bytes = .ok rest) :
    ∃ blanks, bytes = blanks ++ rest ∧ (∀ b ∈ blanks, b = cr ∨ b = lf) ∧
      ∀ b more, b ≠ cr → b ≠ lf → skipEmptyLines (blanks ++ b :: more) = .ok (b :: more) := by
  fun_induction skipEmptyLines bytes with
  | case1 => contradiction
  | case2 bytes ih =>
    obtain ⟨blanks, rfl, blank, again⟩ := ih skipped
    refine ⟨lf :: blanks, rfl, List.forall_mem_cons.mpr ⟨.inr rfl, blank⟩, fun b more notCr notLf => ?_⟩
    exact again b more notCr notLf
  | case3 bytes ih =>
    obtain ⟨blanks, rfl, blank, again⟩ := ih skipped
    refine ⟨cr :: lf :: blanks, rfl, ?_, fun b more notCr notLf => again b more notCr notLf⟩
    exact List.forall_mem_cons.mpr ⟨.inl rfl, List.forall_mem_cons.mpr ⟨.inr rfl, blank⟩⟩
  | case4 => contradiction
  | case5 => contradiction
  | case6 bytes _ _ _ _ _ =>
    cases skipped
    refine ⟨[], rfl, List.forall_mem_nil _, fun b more notCr notLf => ?_⟩
    rw [List.nil_append, skipEmptyLines]
    all_goals simp_all [cr, lf]

theorem readVersion_taken {version : Version} (found : readVersion bytes = .ok (version, rest)) :
    bytes = Text.encode version.text ++ rest := by
  rw [readVersion] at found
  split_ifs at found with first second
  · cases found
    rw [Version.text, ← first, List.take_append_drop]
  · cases found
    rw [Version.text, ← second, List.take_append_drop]

private theorem readDigits_taken {value count number : Nat} (found : readDigits value count bytes = .ok (number, rest)) :
    ∃ taken, bytes = taken ++ rest ∧ lf ∉ taken ∧ Reads (readDigits value count) taken number := by
  fun_induction readDigits value count bytes with
  | case1 value bytes =>
    cases found
    exact ⟨[], rfl, List.not_mem_nil, fun more => by rw [List.nil_append, readDigits]⟩
  | case2 => contradiction
  | case3 value count b bytes d digit ih =>
    obtain ⟨taken, rfl, free, again⟩ := ih found
    have other : lf ≠ b := by
      rintro rfl
      have noDigit : digitByte lf = none := rfl
      rw [noDigit] at digit
      contradiction
    refine ⟨b :: taken, rfl, List.not_mem_cons_of_ne_of_not_mem other free, fun more => ?_⟩
    rw [List.cons_append, readDigits, digit]
    exact again more
  | case4 => contradiction

private theorem skipReason_taken (found : skipReason bytes = .ok rest) :
    ∃ taken, bytes = taken ++ rest ∧ Ended taken ∧ Skips skipReason taken := by
  fun_induction skipReason bytes with
  | case1 => contradiction
  | case2 bytes =>
    obtain rfl := expectLf_taken found
    exact ⟨[cr, lf], rfl, ended_crlf, fun more => expectLf_lf .statusLine more⟩
  | case3 bytes =>
    cases found
    exact ⟨[lf], rfl, ended_lf, fun more => by simp [skipReason, cr, lf]⟩
  | case4 b bytes notCr notLf isText ih =>
    obtain ⟨taken, rfl, ended, again⟩ := ih found
    refine ⟨b :: taken, rfl, ended.cons notLf, fun more => ?_⟩
    rw [List.cons_append, skipReason, if_neg notCr, if_neg notLf, if_pos isText]
    exact again more
  | case5 => contradiction

private theorem endStatusLine_taken (found : endStatusLine bytes = .ok rest) :
    ∃ taken, bytes = taken ++ rest ∧ Ended taken ∧ Skips endStatusLine taken := by
  cases bytes with
  | nil => contradiction
  | cons b bytes =>
    rw [endStatusLine] at found
    split_ifs at found with isSpace isCr isLf
    · obtain ⟨taken, rfl, ended, again⟩ := skipReason_taken found
      subst isSpace
      exact ⟨0x20 :: taken, rfl, ended.cons (by decide), again⟩
    · obtain rfl := expectLf_taken found
      subst isCr
      exact ⟨[cr, lf], rfl, ended_crlf, fun more => by simp [endStatusLine, expectLf, cr]⟩
    · cases found
      subst isLf
      exact ⟨[lf], rfl, ended_lf, fun more => by simp [endStatusLine, cr, lf]⟩

private theorem readName_taken {before : Bytes} {name : String} (found : readName before bytes = .ok (name, rest)) :
    ∃ taken, bytes = taken ++ rest ∧ lf ∉ taken ∧ Reads (readName before) taken name := by
  fun_induction readName before bytes with
  | case1 => contradiction
  | case2 => contradiction
  | case3 before bytes filled =>
    cases found
    exact ⟨[0x3A], rfl, by decide, fun more => by simp [readName, filled]⟩
  | case4 before b bytes notColon isName ih =>
    obtain ⟨taken, rfl, free, again⟩ := ih found
    have other : lf ≠ b := by
      rintro rfl
      exact absurd isName (by decide)
    refine ⟨b :: taken, rfl, List.not_mem_cons_of_ne_of_not_mem other free, fun more => ?_⟩
    rw [List.cons_append, readName, if_neg notColon, if_pos isName]
    exact again more
  | case5 => contradiction

private theorem readValue_taken {before value : Bytes} (found : readValue before bytes = .ok (value, rest)) :
    ∃ taken, bytes = taken ++ rest ∧ Ended taken ∧ Reads (readValue before) taken value := by
  fun_induction readValue before bytes with
  | case1 => contradiction
  | case2 before bytes =>
    rcases line : expectLf .headerValue bytes with fault | after
    · simp [line, Except.map] at found
    · rw [line] at found
      cases found
      obtain rfl := expectLf_taken line
      exact ⟨[cr, lf], rfl, ended_crlf, fun more => by simp [readValue, expectLf, Except.map]⟩
  | case3 before bytes =>
    cases found
    exact ⟨[lf], rfl, ended_lf, fun more => by simp [readValue, cr, lf]⟩
  | case4 before b bytes notCr notLf isText ih =>
    obtain ⟨taken, rfl, ended, again⟩ := ih found
    refine ⟨b :: taken, rfl, ended.cons notLf, fun more => ?_⟩
    rw [List.cons_append, readValue, if_neg notCr, if_neg notLf, if_pos isText]
    exact again more
  | case5 => contradiction

private theorem readHeader_taken {field : String × Bytes} (found : readHeader bytes = .ok (field, rest)) :
    ∃ taken, bytes = taken ++ rest ∧ Ended taken ∧ Reads readHeader taken field := by
  rw [readHeader] at found
  rcases named : readName [] bytes with fault | ⟨name, afterName⟩
  · simp [named] at found
  rcases valued : readValue [] (afterName.dropWhile isPad) with fault | ⟨value, afterValue⟩
  · simp [named, valued] at found
  simp only [named, valued] at found
  cases found
  obtain ⟨front, rfl, free, name'⟩ := readName_taken named
  obtain ⟨back, parts, ended, value'⟩ := readValue_taken valued
  -- The padding between the two ends with the first byte of the value's line, whatever follows that line.
  have padding : ∀ more, (afterName.takeWhile isPad ++ (back ++ more)).dropWhile isPad = back ++ more := by
    intro more
    obtain ⟨b, line, rfl⟩ := List.exists_cons_of_ne_nil (l := back) (by obtain ⟨text, rfl, -⟩ := ended; simp)
    have plain : isPad b = false := by
      have first := List.head?_dropWhile_not isPad afterName
      simpa [parts] using first
    rw [List.dropWhile_append_of_pos fun b member => List.all_eq_true.mp List.all_takeWhile b member, List.cons_append,
      List.dropWhile_cons_of_neg (by simp [plain])]
  have padFree : lf ∉ afterName.takeWhile isPad := fun member =>
    absurd (List.all_eq_true.mp List.all_takeWhile lf member) (by decide)
  refine ⟨front ++ (afterName.takeWhile isPad ++ back), ?_, (ended.append padFree).append free, fun more => ?_⟩
  · rw [List.append_assoc, List.append_assoc, ← parts, List.takeWhile_append_dropWhile]
  · rw [readHeader, List.append_assoc, List.append_assoc, name']
    simp only [padding, value' more]

private theorem readHeaders_taken {before fields : List (String × Bytes)} {room : Nat}
    (found : readHeaders before room bytes = .ok (fields, rest)) :
    ∃ taken, bytes = taken ++ rest ∧ Lines taken ∧ Reads (readHeaders before room) taken fields := by
  fun_induction readHeaders before room bytes with
  | case1 => contradiction
  | case2 before room bytes =>
    rcases line : expectLf .newLine bytes with fault | after
    · simp [line, Except.map] at found
    · rw [line] at found
      cases found
      obtain rfl := expectLf_taken line
      exact ⟨[cr, lf], rfl, .both, fun more => by simp [readHeaders, expectLf, Except.map]⟩
  | case3 before room bytes =>
    cases found
    exact ⟨[lf], rfl, .feed, fun more => by simp [readHeaders, cr, lf]⟩
  | case4 => contradiction
  | case5 => contradiction
  | case6 before b bytes notCr notLf field after line room ih =>
    obtain ⟨more, rfl, lines, again⟩ := ih found
    obtain ⟨taken, parts, ended, first⟩ := readHeader_taken line
    obtain ⟨rest, rfl, ended'⟩ := ended.tail notLf parts
    rw [List.cons_append, List.cons.injEq] at parts
    refine ⟨b :: (rest ++ more), by simp [parts.2], .line notCr notLf ended' lines, fun last => ?_⟩
    have split : b :: (rest ++ more) ++ last = (b :: rest) ++ (more ++ last) := by simp
    have read := first (more ++ last)
    rw [split, List.cons_append, readHeaders, if_neg notCr, if_neg notLf, ← List.cons_append, read]
    exact again last

/-- What the parser does when it answers. -/
theorem parse_cases {head : Head} {surplus : Bytes} (parsed : parse bytes = .ok (head, surplus)) :
    ∃ started afterSpace code afterCode afterLine fields, skipEmptyLines bytes = .ok started ∧
      readVersion started = .ok (head.version, 0x20 :: afterSpace) ∧ readDigits 0 3 afterSpace = .ok (code, afterCode) ∧
      endStatusLine afterCode = .ok afterLine ∧ readHeaders [] headerLimit afterLine = .ok (fields, surplus) ∧
      Status.ofNat code = some head.status ∧ collect .empty fields = .ok head.headers := by
  simp only [parse, bind, Except.bind, pure, Except.pure] at parsed
  rcases empty : skipEmptyLines bytes with fault | started
  · simp [empty] at parsed
  rcases spoken : readVersion started with fault | ⟨version, afterVersion⟩
  · simp [empty, spoken] at parsed
  rcases afterVersion with - | ⟨b, afterSpace⟩
  · simp [empty, spoken] at parsed
  by_cases space : b = 0x20
  · rcases number : readDigits 0 3 afterSpace with fault | ⟨code, afterCode⟩
    · simp [empty, spoken, space, number] at parsed
    rcases line : endStatusLine afterCode with fault | afterLine
    · simp [empty, spoken, space, number, line] at parsed
    rcases lines : readHeaders [] headerLimit afterLine with fault | ⟨fields, rest⟩
    · simp [empty, spoken, space, number, line, lines] at parsed
    rcases known : Status.ofNat code with - | status
    · simp [empty, spoken, space, number, line, lines, known] at parsed
    rcases collected : collect .empty fields with fault | headers
    · simp [empty, spoken, space, number, line, lines, known, collected] at parsed
    simp only [empty, spoken, if_pos space, number, line, lines, known, collected, Except.ok.injEq, Prod.mk.injEq] at parsed
    obtain ⟨rfl, rfl⟩ := parsed
    exact ⟨started, afterSpace, code, afterCode, afterLine, fields, rfl, space ▸ spoken, number, line, lines, known, collected⟩
  · simp [empty, spoken, space] at parsed

/-- The parser takes a head section, and nothing of what stands behind it counts. -/
theorem parse_section {head : Head} {surplus : Bytes} (parsed : parse bytes = .ok (head, surplus)) :
    ∃ taken, bytes = taken ++ surplus ∧ HeadSection taken ∧ ∀ more, parse (taken ++ more) = .ok (head, more) := by
  obtain ⟨started, afterSpace, code, afterCode, afterLine, fields, empty, spoken, number, line, lines, known, collected⟩ :=
    parse_cases parsed
  obtain ⟨blanks, rfl, blank, empty'⟩ := skipEmptyLines_taken empty
  obtain rfl := readVersion_taken spoken
  obtain ⟨digits, rfl, digitsFree, number'⟩ := readDigits_taken number
  obtain ⟨reason, rfl, ended, line'⟩ := endStatusLine_taken line
  obtain ⟨last, rfl, isLines, lines'⟩ := readHeaders_taken lines
  obtain ⟨name, text, nameFree⟩ : ∃ name, Text.encode head.version.text = 0x48 :: name ∧ lf ∉ name := by
    rw [Text.encode_eq_flatMap]
    cases head.version <;> exact ⟨_, rfl, by decide⟩
  refine ⟨blanks ++ 0x48 :: ((name ++ 0x20 :: (digits ++ reason)) ++ last), ?_, ?_, fun more => ?_⟩
  · simp [text]
  · refine isLines.headSection blank (by decide) (by decide) (Ended.append nameFree (Ended.cons (by decide) ?_))
    exact ended.append digitsFree
  · have version (rest : Bytes) : readVersion (0x48 :: (name ++ rest)) = .ok (head.version, rest) := by
      rw [← List.cons_append, ← text, readVersion_text]
    have first (rest : Bytes) : skipEmptyLines (blanks ++ 0x48 :: rest) = .ok (0x48 :: rest) :=
      empty' _ _ (by decide) (by decide)
    simp only [parse, bind, Except.bind, List.append_assoc, List.cons_append, first, version, ↓reduceIte, number' _,
      line' _, lines' more, known, collected, pure, Except.pure]

end Head

/-! ## Responses -/

/-- Where every line feed stands behind a carriage return, the first blank line is the first empty line. -/
theorem dropped_nil_of_crlf {taken dropped : Bytes} (isLead : Lead (taken ++ dropped)) (isSection : HeadSection taken)
    (paired : ∀ front back, taken ++ dropped = front ++ lf :: back → front.getLast? = some cr) : dropped = [] := by
  obtain ⟨⟨front, mark, rfl, rfl | rfl, -⟩, -⟩ := isSection
  · have before := paired (front ++ [lf]) dropped (by simp)
    simp [cr, lf] at before
  · have before := paired front (cr :: lf :: dropped) (by simp)
    obtain ⟨text, rfl⟩ := List.getLast?_eq_some_iff.mp before
    refine Classical.byContradiction fun some => isLead.2 ?_
    rw [List.dropLast_append_of_ne_nil some]
    exact ⟨text, dropped.dropLast, by simp [blankLine, cr, lf]⟩

/-- The head that the reader of responses takes is the parser's head section and what is left behind that. The body
starts behind both, so what is left is no part of the response, and no byte of it counts. Nothing is left exactly when
there is no empty line before the end of the head, as where all line feeds stand behind carriage returns. -/
theorem head_section_of_response {method : Method} {source rest : Source} {exchange : Exchange}
    (read : readResponse method source = (.ok exchange, rest)) :
    ∃ taken dropped form cut wire surplus, Lead (taken ++ dropped) ∧ HeadSection taken ∧
      (∀ more, Head.parse (taken ++ more) = .ok (exchange.response.head, more)) ∧
      framing method exchange.response.head = .ok form ∧ Carries form cut wire exchange.response.body ∧
      source.stream.Takes (taken ++ dropped ++ wire) cut (rest.stream.prepend surplus) ∧
      (dropped = [] ↔ ∀ front back, taken ++ dropped = front ++ back → Concludes front → back = []) ∧
      ((∀ front back, taken ++ dropped = front ++ lf :: back → front.getLast? = some cr) → dropped = []) := by
  obtain ⟨form, cut, wire, surplus, message, takes, -⟩ := readResponse_sound read
  obtain ⟨lead, dropped, body, isLead, parsed, rfl, carried⟩ := message.parts
  obtain ⟨taken, rfl, isSection, again⟩ := Head.parse_section parsed
  refine ⟨taken, dropped, form, cut, body, surplus, isLead, isSection, again, message.framed, carried, takes, ?_, ?_⟩
  · constructor
    · rintro rfl
      simpa using isSection.2
    · intro none
      exact none taken dropped rfl isSection.1
  · exact dropped_nil_of_crlf isLead isSection

/-- Lines that end in line feeds, and a blank line in the body. -/
private def earlyEnd : Source := .inPieces [Text.encode "HTTP/1.1 200 OK\n\nhello", Text.encode "\r\n\r\n!"] .closed

private def earlyEndLead : Bytes := Text.encode "HTTP/1.1 200 OK\n\nhello\r\n\r\n"

private theorem readResponse_earlyEnd :
    readResponse .get earlyEnd =
      (.ok ⟨⟨⟨.http11, ⟨200⟩, .empty⟩, Text.encode "!"⟩, false⟩, .inPieces [] .closed) := by
  decide +kernel

private theorem lead_earlyEnd : Lead earlyEndLead ∧ earlyEndLead ++ Text.encode "!" = earlyEnd.stream.bytes := by
  unfold Lead
  decide +kernel

/-- What stands behind the empty line is in neither part of the response. -/
theorem head_section_of_response_earlyEnd :
    readResponse .get earlyEnd =
      (.ok ⟨⟨⟨.http11, ⟨200⟩, .empty⟩, Text.encode "!"⟩, false⟩, .inPieces [] .closed) ∧
    ∃ taken dropped, taken ++ dropped = earlyEndLead ∧ HeadSection taken ∧
      Head.parse taken = .ok (⟨.http11, ⟨200⟩, .empty⟩, []) ∧ dropped ≠ [] := by
  refine ⟨readResponse_earlyEnd, ?_⟩
  obtain ⟨taken, dropped, _, _, wire, surplus, isLead, isSection, parsed, -, -, takes, early, -⟩ :=
    head_section_of_response readResponse_earlyEnd
  have bytes := congrArg Stream.bytes takes.begins
  rw [← lead_earlyEnd.2, Stream.prepend_bytes, List.append_assoc (taken ++ dropped)] at bytes
  obtain ⟨whole, -⟩ := lead_earlyEnd.1.unique isLead bytes
  refine ⟨taken, dropped, whole.symm, isSection, by simpa using parsed [], fun none => ?_⟩
  have front : Concludes (Text.encode "HTTP/1.1 200 OK\n\n") :=
    ⟨Text.encode "HTTP/1.1 200 OK", [lf, lf], by decide +kernel, .inl rfl, 0x48, by decide +kernel, by decide⟩
  have parts : earlyEndLead = Text.encode "HTTP/1.1 200 OK\n\n" ++ Text.encode "hello\r\n\r\n" := by decide +kernel
  have left : Text.encode "hello\r\n\r\n" ≠ [] := by decide +kernel
  exact left (early.mp none _ _ (whole ▸ parts) front)

/-- Not every head of a response is taken whole by the parser. -/
theorem head_ends_apart :
    ¬ ∀ (method : Method) (source rest : Source) (exchange : Exchange) (lead : Bytes),
      readResponse method source = (.ok exchange, rest) → Lead lead → lead <+: source.stream.bytes →
        Head.parse lead = .ok (exchange.response.head, []) := by
  intro agree
  obtain ⟨isLead, bytes⟩ := lead_earlyEnd
  have apart : Head.parse earlyEndLead ≠ .ok (⟨.http11, ⟨200⟩, .empty⟩, []) := by decide +kernel
  exact apart (agree _ _ _ _ earlyEndLead readResponse_earlyEnd isLead ⟨_, bytes⟩)

end EngineClient.Http
