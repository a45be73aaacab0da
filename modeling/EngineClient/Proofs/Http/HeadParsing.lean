import EngineClient.Proofs.Http.HeaderLists
import EngineClient.Proofs.Http.LineText
/-!
# Parsing a head that was put together

The parser of heads reads each part up to the byte that ends it and nothing of what follows: name and value of a
field (`readHeader_fieldLine`), all fields up to the empty line (`readHeaders_fields`), and with the status line the
whole head (`parse_heading`).
-/

namespace EngineClient.Http

/-- The line of a field whose name is a text. -/
def namedLine (field : String × Bytes) : Bytes := fieldLine (Text.encode field.1, field.2)

/-- The first line of a response. -/
def statusLine (version : Version) (code : Nat) (reason : Bytes) : Bytes :=
  Text.encode version.text ++ 0x20 :: (Text.encode (toString code) ++ 0x20 :: reason)

/-- A field that can be sent in a line of its own: its name is a token, its value has legal bytes only and no
padding at either end. -/
structure Sendable (field : String × Bytes) : Prop where
  filled : field.1 ≠ ""
  token : ∀ c ∈ field.1.toList, isTokenChar c = true
  legal : ∀ b ∈ field.2, Headers.isValueByte b = true
  first : ∀ b ∈ field.2.head?, Head.isPad b = false
  last : ∀ b ∈ field.2.getLast?, Head.isPad b = false

instance (field : String × Bytes) : Decidable (Sendable field) :=
  decidable_of_iff (field.1 ≠ "" ∧ field.1.toList.all isTokenChar = true ∧ field.2.all Headers.isValueByte = true ∧
      field.2.head?.all (!Head.isPad ·) = true ∧ field.2.getLast?.all (!Head.isPad ·) = true) (by
    simp only [List.all_eq_true, Option.all_eq_true, Bool.not_eq_true', ← Option.mem_def]
    exact ⟨fun ⟨filled, token, legal, first, last⟩ => ⟨filled, token, legal, first, last⟩,
      fun ⟨filled, token, legal, first, last⟩ => ⟨filled, token, legal, first, last⟩⟩)

namespace Head

/-! ## Names and values -/

private theorem readName_chars {chars : List Char} (token : ∀ c ∈ chars, isTokenChar c = true) (taken rest : Bytes)
    (filled : taken ≠ [] ∨ chars ≠ []) :
    readName taken ((chars.map fun c => UInt8.ofNat c.toNat) ++ 0x3A :: rest) =
      .ok (String.ofList ((taken.reverse.map fun b => Char.ofNat b.toNat) ++ chars), rest) := by
  induction chars generalizing taken with
  | nil =>
    have some : taken.isEmpty = false := by simpa using filled
    simp [readName, some]
  | cons c chars ih =>
    obtain ⟨here, later⟩ := List.forall_mem_cons.mp token
    obtain ⟨-, ascii, other⟩ := token_visible here
    have char := charOf_byteOf ascii
    have notColon : UInt8.ofNat c.toNat ≠ 0x3A := by
      intro colon
      rw [colon] at char
      exact other char.symm
    have name : isNameByte (UInt8.ofNat c.toNat) = true := by rwa [isNameByte, char]
    rw [List.map_cons, List.cons_append, readName, if_neg notColon, if_pos name,
      ih later _ (.inl (List.cons_ne_nil _ _)), List.reverse_cons, List.map_append, List.map_singleton, char,
      List.append_assoc, List.singleton_append]

/-- A token is read up to the colon. -/
theorem readName_token {name : String} (filled : name ≠ "") (token : ∀ c ∈ name.toList, isTokenChar c = true)
    (rest : Bytes) : readName [] (Text.encode name ++ 0x3A :: rest) = .ok (name, rest) := by
  have ascii : ∀ c ∈ name.toList, c.toNat < 0x80 := fun c member => (token_visible (token c member)).2.1
  rw [Text.encode_ascii ascii, readName_chars token [] rest (.inr (by simpa using filled))]
  simp

private theorem isTextByte_of_legal {b : UInt8} (legal : Headers.isValueByte b = true) : isTextByte b = true := by
  simp only [Headers.isValueByte, Bool.or_eq_true, Bool.and_eq_true, bne_iff_ne, beq_iff_eq, decide_eq_true_eq, ne_eq,
    UInt8.le_iff_toNat_le, ← UInt8.toNat_inj, UInt8.toNat_ofNat] at legal
  simp only [isTextByte, Bool.or_eq_true, Bool.and_eq_true, beq_iff_eq, decide_eq_true_eq, UInt8.le_iff_toNat_le,
    ← UInt8.toNat_inj, UInt8.toNat_ofNat]
  omega

private theorem ne_of_legal {b : UInt8} (legal : Headers.isValueByte b = true) : b ≠ cr ∧ b ≠ lf := by
  constructor <;> rintro rfl <;> revert legal <;> decide

private theorem readValue_bytes {value : Bytes} (legal : ∀ b ∈ value, Headers.isValueByte b = true)
    (taken rest : Bytes) :
    readValue taken (value ++ (lineEnd ++ rest)) = .ok (((value.reverse ++ taken).dropWhile isPad).reverse, rest) := by
  induction value generalizing taken with
  | nil => simp [lineEnd, readValue, cr, expectLf, lf, Except.map]
  | cons b value ih =>
    obtain ⟨here, later⟩ := List.forall_mem_cons.mp legal
    obtain ⟨notCr, notLf⟩ := ne_of_legal here
    rw [List.cons_append, readValue, if_neg notCr, if_neg notLf, if_pos (isTextByte_of_legal here), ih later]
    simp

/-- A value without padding is read as it is. -/
theorem readValue_value {value : Bytes} (legal : ∀ b ∈ value, Headers.isValueByte b = true)
    (last : ∀ b ∈ value.getLast?, isPad b = false) (rest : Bytes) :
    readValue [] (value ++ (lineEnd ++ rest)) = .ok (value, rest) := by
  rw [readValue_bytes legal, List.append_nil]
  have kept : value.reverse.dropWhile isPad = value.reverse := by
    cases ends : value.reverse with
    | nil => rfl
    | cons b more =>
      have final : b ∈ value.getLast? := by
        rw [← List.head?_reverse, ends]
        rfl
      rw [List.dropWhile_cons_of_neg (by simp [last b final])]
  rw [kept, List.reverse_reverse]

/-! ## Fields -/

/-- A field is read from its line. -/
theorem readHeader_fieldLine {field : String × Bytes} (sendable : Sendable field) (rest : Bytes) :
    readHeader (namedLine field ++ (lineEnd ++ rest)) = .ok (field, rest) := by
  have parts : namedLine field ++ (lineEnd ++ rest) =
      Text.encode field.1 ++ 0x3A :: (0x20 :: (field.2 ++ (lineEnd ++ rest))) := by
    simp [namedLine, fieldLine, fieldMark]
  -- The space of the mark is padding, and what follows it is not.
  have padding : (0x20 :: (field.2 ++ (lineEnd ++ rest))).dropWhile isPad = field.2 ++ (lineEnd ++ rest) := by
    rw [List.dropWhile_cons_of_pos (by decide)]
    cases value : field.2 with
    | nil => rfl
    | cons b more =>
      have plain := sendable.first b (by rw [value]; rfl)
      rw [List.cons_append, List.dropWhile_cons_of_neg (by simp [plain])]
  rw [readHeader, parts, readName_token sendable.filled sendable.token]
  simp only [padding, readValue_value sendable.legal sendable.last]

/-- All fields are read, up to the empty line. -/
theorem readHeaders_fields {fields : List (String × Bytes)} (sendable : ∀ field ∈ fields, Sendable field)
    {room : Nat} (fits : fields.length ≤ room) (before : List (String × Bytes)) (rest : Bytes) :
    readHeaders before room ((fields.flatMap fun field => namedLine field ++ lineEnd) ++ (lineEnd ++ rest)) =
      .ok (before.reverse ++ fields, rest) := by
  induction fields generalizing before room with
  | nil => simp [lineEnd, readHeaders, cr, expectLf, lf, Except.map]
  | cons field fields ih =>
    obtain ⟨here, later⟩ := List.forall_mem_cons.mp sendable
    obtain ⟨room, rfl⟩ : ∃ more, room = more + 1 := ⟨room - 1, by simp only [List.length_cons] at fits; omega⟩
    have read := readHeader_fieldLine here
      ((fields.flatMap fun field => namedLine field ++ lineEnd) ++ (lineEnd ++ rest))
    -- The line starts with a byte of a token, which ends no line.
    obtain ⟨b, more, line, notCr, notLf⟩ : ∃ b more, namedLine field = b :: more ∧ b ≠ cr ∧ b ≠ lf := by
      have inLine : InLine (Text.encode field.1) :=
        (inLine_encode fun c member => (token_visible (here.token c member)).1).1
      have solid : Solid (namedLine field) := solid_fieldLine inLine (inLine_value here.legal)
      obtain ⟨b, more, line⟩ := List.exists_cons_of_ne_nil solid.1
      refine ⟨b, more, line, ?_, ?_⟩
      · rintro rfl
        exact solid.2.1 (line ▸ List.mem_cons_self)
      · rintro rfl
        exact solid.2.2 (line ▸ List.mem_cons_self)
    rw [List.flatMap_cons, List.append_assoc, List.append_assoc]
    rw [line, List.cons_append] at read ⊢
    rw [readHeaders, if_neg notCr, if_neg notLf, read]
    simp only [ih later (Nat.le_of_succ_le_succ fits), List.reverse_cons, List.append_assoc, List.singleton_append]

/-! ## The status line -/

theorem encode_digits {n : Nat} (three : 100 ≤ n ∧ n < 1000) :
    Text.encode (toString n) =
      [UInt8.ofNat (48 + n / 10 / 10), UInt8.ofNat (48 + n / 10 % 10), UInt8.ofNat (48 + n % 10)] := by
  have digit : ∀ k < 10, k.digitChar = Char.ofNat (48 + k) ∧ (Char.ofNat (48 + k)).toNat = 48 + k := by decide
  have digits : Nat.toDigits 10 n = [(n / 10 / 10).digitChar, (n / 10 % 10).digitChar, (n % 10).digitChar] := by
    rw [Nat.toDigits_of_base_le (by omega) (by omega), Nat.toDigits_of_base_le (by omega) (by omega),
      Nat.toDigits_of_lt_base (by omega)]
    rfl
  have small : n / 10 / 10 < 10 ∧ n / 10 % 10 < 10 ∧ n % 10 < 10 := by omega
  obtain ⟨⟨first, first'⟩, ⟨second, second'⟩, ⟨third, third'⟩⟩ :=
    And.intro (digit _ small.1) (And.intro (digit _ small.2.1) (digit _ small.2.2))
  rw [Nat.toString_eq_ofList_toDigits, digits, Text.encode_ascii, String.toList_ofList]
  · simp only [List.map_cons, List.map_nil, first, second, third, first', second', third']
  · simp only [String.toList_ofList, List.forall_mem_cons, first, second, third, first', second', third',
      List.not_mem_nil, false_implies, implies_true, and_true]
    omega

private theorem digitByte_digit {k : Nat} (small : k < 10) : digitByte (UInt8.ofNat (48 + k)) = some k := by
  have digits : ∀ k < 10, digitByte (UInt8.ofNat (48 + k)) = some k := by decide
  exact digits k small

theorem readDigits_code {n : Nat} (three : 100 ≤ n ∧ n < 1000) (rest : Bytes) :
    readDigits 0 3 (Text.encode (toString n) ++ rest) = .ok (n, rest) := by
  rw [encode_digits three]
  simp only [List.cons_append, List.nil_append, readDigits, digitByte_digit (show n / 10 / 10 < 10 by omega),
    digitByte_digit (show n / 10 % 10 < 10 by omega), digitByte_digit (show n % 10 < 10 by omega)]
  have value : ((0 * 10 + n / 10 / 10) * 10 + n / 10 % 10) * 10 + n % 10 = n := by omega
  rw [value]

private theorem skipReason_reason {reason : Bytes} (legal : ∀ b ∈ reason, Headers.isValueByte b = true) (rest : Bytes) :
    skipReason (reason ++ (lineEnd ++ rest)) = .ok rest := by
  induction reason with
  | nil => simp [lineEnd, skipReason, cr, expectLf, lf]
  | cons b reason ih =>
    obtain ⟨here, later⟩ := List.forall_mem_cons.mp legal
    obtain ⟨notCr, notLf⟩ := ne_of_legal here
    rw [List.cons_append, skipReason, if_neg notCr, if_neg notLf, if_pos (isTextByte_of_legal here), ih later]

theorem readVersion_text (version : Version) (rest : Bytes) :
    readVersion (Text.encode version.text ++ rest) = .ok (version, rest) := by
  have names (version : Version) : (Text.encode version.text).length = 8 := by
    rw [Text.encode_eq_flatMap]
    cases version <;> decide
  have apart : Text.encode "HTTP/1.0" ≠ Text.encode "HTTP/1.1" := by
    rw [Text.encode_eq_flatMap, Text.encode_eq_flatMap]
    decide
  rw [readVersion, ← names version, List.take_left, List.drop_left]
  cases version with
  | http10 => rw [Version.text, if_neg apart, if_pos rfl]
  | http11 => rw [Version.text, if_pos rfl]

theorem skipEmptyLines_text (version : Version) (rest : Bytes) :
    skipEmptyLines (Text.encode version.text ++ rest) = .ok (Text.encode version.text ++ rest) := by
  obtain ⟨more, text⟩ : ∃ more, Text.encode version.text = 0x48 :: more := by
    rw [Text.encode_eq_flatMap]
    cases version <;> exact ⟨_, rfl⟩
  rw [text]
  rfl

/-- The head of a status line and fields is parsed as these, and nothing is left over. -/
theorem parse_heading {version : Version} {code : Nat} {reason : Bytes} {fields : List (String × Bytes)}
    (three : 100 ≤ code ∧ code < 1000) (legal : ∀ b ∈ reason, Headers.isValueByte b = true)
    (sendable : ∀ field ∈ fields, Sendable field) (few : fields.length ≤ headerLimit)
    (named : ∀ field ∈ fields, Headers.normalName field.1 = some (Text.lower field.1)) :
    parse (heading (statusLine version code reason :: fields.map namedLine)) =
      .ok (⟨version, ⟨code⟩, ⟨gathered fields⟩⟩, []) := by
  have parts : heading (statusLine version code reason :: fields.map namedLine) =
      Text.encode version.text ++ 0x20 :: (Text.encode (toString code) ++ 0x20 :: (reason ++ (lineEnd ++
        ((fields.flatMap fun field => namedLine field ++ lineEnd) ++ (lineEnd ++ []))))) := by
    simp [heading, statusLine, List.flatMap_map]
  have space (rest : Bytes) : endStatusLine (0x20 :: rest) = skipReason rest := rfl
  have status : Status.ofNat code = some ⟨code⟩ := if_pos three
  rw [parts]
  simp only [parse, bind, Except.bind, skipEmptyLines_text, readVersion_text, ↓reduceIte, readDigits_code three, space,
    skipReason_reason legal, readHeaders_fields sendable few, status, List.reverse_nil, List.nil_append,
    Headers.collect_groups named, pure, Except.pure]

end Head

end EngineClient.Http
