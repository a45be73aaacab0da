import EngineClient.Json.Reader
import EngineClient.Proofs.Text.Utf8
/-!
# Quoted texts are read back

A character stands in a document as itself or as an escape (`Escaped`), and the reader takes either for that
character. So a text that was quoted is read back, whatever its characters and whatever follows (`textAfter_body`),
and so is a record of such texts (`read_record`).
-/

namespace EngineClient.Json

/-- Bytes that stand for themselves between quotes. -/
def Plain (b : UInt8) : Prop := b ≠ 0x22 ∧ b ≠ 0x5C ∧ ¬ b < 0x20

/-- The bytes that a character is written as between quotes. -/
inductive Escaped (c : Char) : Bytes → Prop
  /-- An escape by a letter, which stands for one byte. -/
  | letter {e b : UInt8} (other : e ≠ 0x75) (stands : escapedByte e = some b) (byte : String.utf8EncodeChar c = [b]) :
      Escaped c [0x5C, e]
  /-- An escape by the number of a control character. -/
  | number {high low : UInt8} (control : c.toNat < 0x20)
      (digits : Text.digits 16 Text.hexDigit ['0', '0', Char.ofNat high.toNat, Char.ofNat low.toNat] = some c.toNat) :
      Escaped c [0x5C, 0x75, 0x30, 0x30, high, low]
  | plain (plain : ∀ b ∈ String.utf8EncodeChar c, Plain b) : Escaped c (String.utf8EncodeChar c)

/-! ## Writing -/

/-- The control characters without a letter of their own are numbered with two digits. -/
private theorem control_digits :
    ∀ n < 32, (escapeChar (Char.ofNat n)).toList.flatMap String.utf8EncodeChar =
        [0x5C, 0x75, 0x30, 0x30, UInt8.ofNat (0x30 + n / 16),
          UInt8.ofNat (if n % 16 < 10 then 0x30 + n % 16 else 0x57 + n % 16)] ∧
      Text.digits 16 Text.hexDigit ['0', '0', Char.ofNat (UInt8.ofNat (0x30 + n / 16)).toNat,
        Char.ofNat (UInt8.ofNat (if n % 16 < 10 then 0x30 + n % 16 else 0x57 + n % 16)).toNat] = some n ∨
      n = 8 ∨ n = 9 ∨ n = 10 ∨ n = 12 ∨ n = 13 := by
  decide +kernel

private theorem plain_encodeChar {c : Char} (quote : c ≠ '"') (backslash : c ≠ '\\') (large : 0x20 ≤ c.toNat) :
    ∀ b ∈ String.utf8EncodeChar c, Plain b := by
  have apart (other : Char) (differs : c ≠ other) : c.toNat ≠ other.toNat := fun same => differs (Char.toNat_inj.mp same)
  have notQuote : c.toNat ≠ 34 := apart '"' quote
  have notBackslash : c.toNat ≠ 92 := apart '\\' backslash
  intro b member
  have bounds : 0x20 ≤ b.toNat ∧ b.toNat ≠ 34 ∧ b.toNat ≠ 92 := by
    rcases Text.encodeChar_cases c with ⟨small, alone⟩ | ⟨-, above⟩
    · rw [alone, List.mem_singleton] at member
      subst member
      rw [UInt8.toNat_ofNat', Nat.mod_eq_of_lt (by omega)]
      omega
    · have := above b member
      omega
  refine ⟨?_, ?_, ?_⟩
  · rintro rfl
    exact absurd rfl bounds.2.1
  · rintro rfl
    exact absurd rfl bounds.2.2
  · rw [UInt8.lt_iff_toNat_lt]
    exact Nat.not_lt.mpr bounds.1

private theorem escaped_letter {c : Char} {e b : UInt8}
    (written : (escapeChar c).toList.flatMap String.utf8EncodeChar = [0x5C, e]) (other : e ≠ 0x75)
    (stands : escapedByte e = some b) (byte : String.utf8EncodeChar c = [b]) :
    Escaped c ((escapeChar c).toList.flatMap String.utf8EncodeChar) :=
  written ▸ .letter other stands byte

/-- Every character is written in one of these forms. -/
theorem escaped_escapeChar (c : Char) : Escaped c (Text.encode (escapeChar c)) := by
  rw [Text.encode_eq_flatMap]
  by_cases special : c = '"' ∨ c = '\\' ∨ c = '\x08' ∨ c = '\x0c' ∨ c = '\n' ∨ c = '\r' ∨ c = '\t'
  · rcases special with rfl | rfl | rfl | rfl | rfl | rfl | rfl
    · exact escaped_letter (e := 0x22) (b := 0x22) (by decide) (by decide) (by decide) (by decide)
    · exact escaped_letter (e := 0x5C) (b := 0x5C) (by decide) (by decide) (by decide) (by decide)
    · exact escaped_letter (e := 0x62) (b := 0x08) (by decide) (by decide) (by decide) (by decide)
    · exact escaped_letter (e := 0x66) (b := 0x0C) (by decide) (by decide) (by decide) (by decide)
    · exact escaped_letter (e := 0x6E) (b := 0x0A) (by decide) (by decide) (by decide) (by decide)
    · exact escaped_letter (e := 0x72) (b := 0x0D) (by decide) (by decide) (by decide) (by decide)
    · exact escaped_letter (e := 0x74) (b := 0x09) (by decide) (by decide) (by decide) (by decide)
  · simp only [not_or] at special
    obtain ⟨quote, backslash, backspace, formFeed, newLine, carriageReturn, tab⟩ := special
    have apart (other : Char) (differs : c ≠ other) : c.toNat ≠ other.toNat := fun same => differs (Char.toNat_inj.mp same)
    by_cases control : c.toNat < 32
    · rcases control_digits c.toNat control with ⟨written, digits⟩ | letter
      · rw [Char.ofNat_toNat] at written
        rw [written]
        exact .number control digits
      · have notEight := apart '\x08' backspace
        have notNine := apart '\t' tab
        have notTen := apart '\n' newLine
        have notTwelve := apart '\x0c' formFeed
        have notThirteen := apart '\r' carriageReturn
        simp only [Char.reduceToNat] at notEight notNine notTen notTwelve notThirteen
        omega
    · have itself : escapeChar c = c.toString := by
        have notBelow : ¬ c < ' ' := fun below => control below
        simp only [escapeChar, quote, backslash, backspace, formFeed, newLine, carriageReturn, tab, notBelow, ↓reduceIte]
      have written : (escapeChar c).toList.flatMap String.utf8EncodeChar = String.utf8EncodeChar c := by
        rw [itself]
        simp
      rw [written]
      exact .plain (plain_encodeChar quote backslash (Nat.not_lt.mp control))

/-! ## Reading -/

private theorem textBytes_plain {bytes : Bytes} (plain : ∀ b ∈ bytes, Plain b) (before rest : Bytes) (steps : Nat) :
    textBytes before (bytes.length + steps) (bytes ++ rest) = textBytes (bytes.reverse ++ before) steps rest := by
  induction bytes generalizing before with
  | nil => simp
  | cons b bytes ih =>
    obtain ⟨⟨quote, backslash, large⟩, later⟩ := List.forall_mem_cons.mp plain
    have step : textBytes before (bytes.length + steps + 1) (b :: (bytes ++ rest)) =
        textBytes (b :: before) (bytes.length + steps) (bytes ++ rest) := by
      simp only [textBytes, quote, backslash, large, ↓reduceIte]
    rw [List.length_cons, Nat.add_right_comm, List.cons_append, step, ih later]
    simp

private theorem escapedNumber_control {high low : UInt8} {n : Nat} (control : n < 0x20)
    (digits : Text.digits 16 Text.hexDigit ['0', '0', Char.ofNat high.toNat, Char.ofNat low.toNat] = some n)
    (rest : Bytes) : escapedNumber (0x30 :: 0x30 :: high :: low :: rest) = .ok (Char.ofNat n, rest) := by
  have number : fourHex (0x30 :: 0x30 :: high :: low :: rest) = .ok (n, rest) := by
    have zero : Char.ofNat (0x30 : UInt8).toNat = '0' := by decide
    simp only [fourHex, List.map_cons, List.map_nil, zero, digits]
  have notLow : ¬ (0xDC00 ≤ n ∧ n ≤ 0xDFFF) := by omega
  have notHigh : ¬ (0xD800 ≤ n ∧ n ≤ 0xDBFF) := by omega
  simp only [escapedNumber, number, if_neg notLow, if_neg notHigh]

/-- The reader takes a character in any of its forms, in no more steps than there are bytes. -/
theorem textBytes_escaped {c : Char} {bytes : Bytes} (escaped : Escaped c bytes) :
    ∃ used ≤ bytes.length, ∀ before rest steps, textBytes before (used + steps) (bytes ++ rest) =
      textBytes ((String.utf8EncodeChar c).reverse ++ before) steps rest := by
  cases escaped with
  | letter other stands byte =>
    rename_i e b
    refine ⟨1, by simp, fun before rest steps => ?_⟩
    have notQuote : (0x5C : UInt8) ≠ 0x22 := by decide
    rw [Nat.add_comm, byte]
    simp only [List.cons_append, List.nil_append, textBytes, notQuote, ↓reduceIte, stands, List.reverse_singleton]
  | number control digits =>
    rename_i high low
    refine ⟨1, by simp, fun before rest steps => ?_⟩
    have read := escapedNumber_control control digits rest
    rw [Char.ofNat_toNat] at read
    have same : Text.encode c.toString = String.utf8EncodeChar c := by
      rw [Text.encode_eq_flatMap]
      simp
    have notQuote : (0x5C : UInt8) ≠ 0x22 := by decide
    rw [Nat.add_comm]
    simp only [List.cons_append, List.nil_append, textBytes, notQuote, ↓reduceIte, read, same]
  | plain plain => exact ⟨_, Nat.le_refl _, fun before rest steps => textBytes_plain plain before rest steps⟩

/-- The bytes between the quotes of a text. -/
def bodyBytes (text : String) : Bytes := text.toList.flatMap fun c => Text.encode (escapeChar c)

theorem encode_quote (text : String) : Text.encode (quote text) = 0x22 :: (bodyBytes text ++ [0x22]) := by
  have mark : Text.encode "\"" = [0x22] := by
    rw [Text.encode_eq_flatMap]
    decide
  rw [quote, Text.encode_append, Text.encode_append, Text.encode_join, mark, bodyBytes, List.flatMap_map]
  simp

private theorem textBytes_body (chars : List Char) (before rest : Bytes) {steps : Nat}
    (enough : (chars.flatMap fun c => Text.encode (escapeChar c)).length < steps) :
    textBytes before steps ((chars.flatMap fun c => Text.encode (escapeChar c)) ++ 0x22 :: rest) =
      .ok (before.reverse ++ chars.flatMap String.utf8EncodeChar, rest) := by
  induction chars generalizing before steps with
  | nil =>
    obtain ⟨steps, rfl⟩ := Nat.exists_eq_add_of_lt enough
    simp [textBytes]
  | cons c chars ih =>
    -- A character takes no more steps than it has bytes, so there is a step left for the quote at the end.
    obtain ⟨used, few, read⟩ := textBytes_escaped (escaped_escapeChar c)
    rw [List.flatMap_cons, List.length_append] at enough
    obtain ⟨left, rfl⟩ : ∃ left, steps = used + left := ⟨steps - used, by omega⟩
    rw [List.flatMap_cons, List.append_assoc, read, ih _ (by omega)]
    simp

/-- A quoted text is read back from after its quote, and nothing of what follows it. -/
theorem textAfter_body (text : String) (rest : Bytes) :
    textAfter (bodyBytes text ++ 0x22 :: rest) = .ok (text, rest) := by
  have bytes : textBytes [] ((bodyBytes text ++ 0x22 :: rest).length + 1) (bodyBytes text ++ 0x22 :: rest) =
      .ok (Text.encode text, rest) := by
    rw [Text.encode_eq_flatMap]
    refine textBytes_body text.toList [] rest ?_
    simp only [bodyBytes, List.length_append]
    omega
  simp only [textAfter, bytes, Text.decode_encode]

/-! ## Records of texts -/

/-- The bytes of a member that is a text. -/
def memberBytes (member : String × String) : Bytes :=
  Text.encode (quote member.1) ++ 0x3A :: Text.encode (quote member.2)

/-- The bytes of an object whose members are texts. -/
def recordBytes : List (String × String) → Bytes
  | [] => [0x7B, 0x7D]
  | first :: rest => 0x7B :: (memberBytes first ++ ((rest.flatMap fun member => 0x2C :: memberBytes member) ++ [0x7D]))

private theorem skipSpace_of_not {b : UInt8} (solid : isSpace b = false) (rest : Bytes) :
    skipSpace (b :: rest) = b :: rest :=
  List.dropWhile_cons_of_neg (by simp [solid])

private theorem readValue_text (steps depth : Nat) (text : String) (rest : Bytes) :
    readValue (steps + 1) .text depth (Text.encode (quote text) ++ rest) = .ok (.text text, rest) := by
  have parts : Text.encode (quote text) ++ rest = 0x22 :: (bodyBytes text ++ 0x22 :: rest) := by
    simp [encode_quote]
  rw [parts]
  simp only [readValue, skipSpace_of_not (show isSpace 0x22 = false by decide), ↓reduceIte, textAfter_body]

/-- What comes before a member: a comma, but for the first one. -/
private def separator (first : Bool) : Bytes := if first then [] else [0x2C]

private theorem nextName_quote (first : Bool) (name : String) (rest : Bytes) :
    nextName first (separator first ++ (Text.encode (quote name) ++ rest)) = .ok (some name, rest) := by
  have parts : Text.encode (quote name) ++ rest = 0x22 :: (bodyBytes name ++ 0x22 :: rest) := by
    simp [encode_quote]
  have quoteSolid := skipSpace_of_not (show isSpace 0x22 = false by decide)
  have commaSolid := skipSpace_of_not (show isSpace 0x2C = false by decide)
  rw [parts]
  cases first with
  | true =>
    have notBrace : (0x22 : UInt8) ≠ 0x7D := by decide
    simp only [separator, ↓reduceIte, List.nil_append, nextName, quoteSolid, notBrace, textAfter_body]
  | false =>
    have notBrace : (0x2C : UInt8) ≠ 0x7D := by decide
    simp only [separator, Bool.false_eq_true, ↓reduceIte, List.cons_append, List.nil_append, nextName, commaSolid,
      notBrace, quoteSolid, textAfter_body]

section
variable {fields : List (String × Shape)} (depth : Nat) (first : Bool) {before : List (String × Value)}

private theorem readMembers_member {name : String} (known : fields.lookup name = some .text)
    (fresh : before.lookup name = none) (content : String) (steps : Nat) (rest : Bytes) :
    readMembers (steps + 2) fields depth first before (separator first ++ (memberBytes (name, content) ++ rest)) =
      readMembers (steps + 1) fields depth false ((name, .text content) :: before) rest := by
  have parts : memberBytes (name, content) ++ rest =
      Text.encode (quote name) ++ (0x3A :: (Text.encode (quote content) ++ rest)) := by
    simp [memberBytes]
  have colonSolid := skipSpace_of_not (show isSpace 0x3A = false by decide)
  rw [parts]
  simp only [readMembers, nextName_quote, known, fresh, Option.isSome_none, Bool.false_eq_true, ↓reduceIte, colonSolid,
    expect, readValue_text]

private theorem readMembers_close (steps : Nat) (rest : Bytes) :
    readMembers (steps + 1) fields depth first before (0x7D :: rest) = .ok (.ofMembers before.reverse, rest) := by
  have solid := skipSpace_of_not (show isSpace 0x7D = false by decide)
  simp [readMembers, nextName, solid]

end

private theorem missing_after {members : List (String × String)} {name : String} {value : Value}
    {before : List (String × Value)} (other : name ∉ members.map (·.1))
    (missing : ∀ member ∈ members, before.lookup member.1 = none) :
    ∀ member ∈ members, ((name, value) :: before).lookup member.1 = none := by
  intro member listed
  have differs : (member.1 == name) = false :=
    beq_eq_false_iff_ne.mpr fun same => other (List.mem_map.mpr ⟨member, listed, same⟩)
  rw [List.lookup_cons, differs]
  exact missing member listed

/-- The members that follow, with different names of fields that are still missing, are taken. -/
private theorem readMembers_texts {fields : List (String × Shape)} {members : List (String × String)}
    (apart : (members.map (·.1)).Nodup) (known : ∀ member ∈ members, fields.lookup member.1 = some .text) (depth : Nat)
    {before : List (String × Value)} (fresh : ∀ member ∈ members, before.lookup member.1 = none) {steps : Nat}
    (enough : members.length < steps) (rest : Bytes) :
    readMembers steps fields depth false before
        ((members.flatMap fun member => 0x2C :: memberBytes member) ++ 0x7D :: rest) =
      .ok (.ofMembers (before.reverse ++ members.map fun member => (member.1, .text member.2)), rest) := by
  induction members generalizing before steps with
  | nil =>
    obtain ⟨steps, rfl⟩ := Nat.exists_eq_add_of_lt enough
    rw [List.flatMap_nil, List.nil_append, List.map_nil, List.append_nil]
    exact readMembers_close depth false _ rest
  | cons member members ih =>
    obtain ⟨name, content⟩ := member
    obtain ⟨other, apart⟩ := List.nodup_cons.mp apart
    obtain ⟨field, fields'⟩ := List.forall_mem_cons.mp known
    obtain ⟨missing, missing'⟩ := List.forall_mem_cons.mp fresh
    obtain ⟨left, rfl⟩ : ∃ left, steps = left + 2 := ⟨steps - 2, by simp only [List.length_cons] at enough; omega⟩
    have step := readMembers_member depth false field missing content left
      ((members.flatMap fun member => 0x2C :: memberBytes member) ++ 0x7D :: rest)
    have parts : ((name, content) :: members).flatMap (fun member => 0x2C :: memberBytes member) ++ 0x7D :: rest =
        separator false ++ (memberBytes (name, content) ++
          ((members.flatMap fun member => 0x2C :: memberBytes member) ++ 0x7D :: rest)) := by
      simp [separator]
    rw [parts, step, ih apart fields' (missing_after other missing') (by simp only [List.length_cons] at enough; omega)]
    simp

private theorem length_le_members (members : List (String × String)) :
    members.length ≤ (members.flatMap fun member => 0x2C :: memberBytes member).length := by
  induction members with
  | nil => simp
  | cons member members ih =>
    rw [List.flatMap_cons, List.length_append, List.length_cons, List.length_cons]
    omega

private theorem readValue_record {fields : List (String × Shape)} {members : List (String × String)}
    (apart : (members.map (·.1)).Nodup) (known : ∀ member ∈ members, fields.lookup member.1 = some .text)
    {steps depth : Nat} (enough : members.length + 1 < steps) (deep : 1 < depth) :
    readValue steps (.record fields) depth (recordBytes members) =
      .ok (.ofMembers (members.map fun member => (member.1, .text member.2)), []) := by
  have brace := skipSpace_of_not (show isSpace 0x7B = false by decide)
  have notBracket : (0x7B : UInt8) ≠ 0x5B := by decide
  have opened (steps : Nat) (bytes : Bytes) : readValue (steps + 1) (.record fields) depth (0x7B :: bytes) =
      readMembers steps fields (depth - 1) true [] bytes := by
    simp only [readValue, brace, notBracket, Nat.not_le.mpr deep, ↓reduceIte]
  obtain ⟨left, rfl⟩ : ∃ left, steps = left + 2 := ⟨steps - 2, by omega⟩
  cases members with
  | nil =>
    rw [recordBytes, opened, readMembers_close]
    rfl
  | cons member members =>
    obtain ⟨name, content⟩ := member
    obtain ⟨other, apart⟩ := List.nodup_cons.mp apart
    obtain ⟨field, fields'⟩ := List.forall_mem_cons.mp known
    have missing : ∀ member ∈ members, [(name, Value.text content)].lookup member.1 = none :=
      missing_after other fun _ _ => rfl
    obtain ⟨left, rfl⟩ : ∃ more, left = more + 1 := ⟨left - 1, by simp only [List.length_cons] at enough; omega⟩
    have first := readMembers_member (depth - 1) true field (List.lookup_nil : [].lookup name = none) content left
      ((members.flatMap fun member => 0x2C :: memberBytes member) ++ [0x7D])
    have others := readMembers_texts apart fields' (depth - 1) missing
      (show members.length < left + 1 by simp only [List.length_cons] at enough; omega) []
    rw [recordBytes, opened]
    exact first.trans others

/-- A record of texts is read back from its bytes. -/
theorem read_record {fields : List (String × Shape)} {members : List (String × String)}
    (apart : (members.map (·.1)).Nodup) (known : ∀ member ∈ members, fields.lookup member.1 = some .text) :
    read (.record fields) (recordBytes members) =
      .ok (.ofMembers (members.map fun member => (member.1, .text member.2))) := by
  have enough : members.length + 1 < 2 * (recordBytes members).length + 3 := by
    cases members with
    | nil => simp
    | cons member members =>
      have := length_le_members members
      simp only [recordBytes, List.length_cons, List.length_append]
      omega
  rw [read, readValue_record apart known enough (by decide)]
  rfl

end EngineClient.Json
