import EngineClient.Text.Utf8
import Mathlib.Tactic.SplitIfs
/-!
# Texts as bytes

The bytes of a text are those of its characters in a row (`encode_eq_flatMap`), its ASCII characters are its
bytes below 0x80 (`mem_encode_iff`), and decoding is the inverse of encoding, on the bytes of texts and on no others
(`decode_eq_ok_iff`).
-/

namespace EngineClient.Text

/-! ## The bytes of a text -/

/-- The loop behind `ByteArray.toList`, when the bytes of `front` are read and those of `rest` are not. -/
private theorem toList_loop {bytes : ByteArray} {front rest : Bytes} (all : bytes.data.toList = front ++ rest) :
    ByteArray.toList.loop bytes front.length front.reverse = front ++ rest := by
  have size : bytes.size = front.length + rest.length := by
    rw [← List.length_append, ← all]
    simp
  induction rest generalizing front with
  | nil =>
    rw [ByteArray.toList.loop, if_neg (by simp [size])]
    simp
  | cons b rest ih =>
    have inside : front.length < bytes.size := by
      simp only [size, List.length_cons]
      omega
    have next : bytes.get! front.length = b := by
      have there : bytes.data[front.length]? = some b := by
        rw [← Array.getElem?_toList, all]
        simp
      simp [ByteArray.get!, getElem!_def, there]
    have whole : bytes.data.toList = (front ++ [b]) ++ rest := by simpa using all
    have read := ih whole (by simp [size]; omega)
    rw [ByteArray.toList.loop, if_pos inside, next]
    simpa using read

theorem encode_eq_data (text : String) : encode text = text.toByteArray.data.toList := by
  have all : text.toByteArray.data.toList = [] ++ text.toByteArray.data.toList := rfl
  exact toList_loop all

theorem encode_eq_flatMap (text : String) : encode text = text.toList.flatMap String.utf8EncodeChar := by
  rw [encode_eq_data, ← String.utf8Encode_toList, List.utf8Encode]
  simp

theorem encode_append (front back : String) : encode (front ++ back) = encode front ++ encode back := by
  simp only [encode_eq_flatMap, String.toList_append, List.flatMap_append]

theorem encode_join (texts : List String) : encode (String.join texts) = texts.flatMap encode := by
  rw [encode_eq_flatMap, String.toList_join, List.flatMap_assoc, funext encode_eq_flatMap]

/-! ## Characters and bytes below 0x80 -/

/-- A character of ASCII is one byte, and no other character has a byte of ASCII. -/
theorem encodeChar_cases (c : Char) :
    c.toNat < 0x80 ∧ String.utf8EncodeChar c = [UInt8.ofNat c.toNat] ∨
      0x80 ≤ c.toNat ∧ ∀ b ∈ String.utf8EncodeChar c, 0x80 ≤ b.toNat := by
  have written : c.val.toNat = c.toNat := rfl
  simp only [String.utf8EncodeChar, written]
  by_cases one : c.toNat ≤ 127
  · exact .inl ⟨by omega, if_pos one⟩
  · refine .inr ⟨by omega, ?_⟩
    rw [if_neg one]
    split_ifs with two three <;>
      simp only [List.forall_mem_cons, UInt8.toNat_ofNat', List.not_mem_nil, false_implies, implies_true, and_true] <;>
      omega

theorem mem_encode_iff {text : String} {c : Char} (ascii : c.toNat < 0x80) :
    UInt8.ofNat c.toNat ∈ encode text ↔ c ∈ text.toList := by
  have byte : (UInt8.ofNat c.toNat).toNat = c.toNat := by
    simp only [UInt8.toNat_ofNat']
    omega
  rw [encode_eq_flatMap, List.mem_flatMap]
  constructor
  · rintro ⟨other, member, among⟩
    rcases encodeChar_cases other with ⟨small, alone⟩ | ⟨-, large⟩
    · rw [alone, List.mem_singleton, ← UInt8.toNat_inj, byte, UInt8.toNat_ofNat', Nat.mod_eq_of_lt (by omega)] at among
      rwa [Char.toNat_inj.mp among]
    · have := large _ among
      omega
  · intro member
    rcases encodeChar_cases c with ⟨-, alone⟩ | ⟨large, -⟩
    · exact ⟨c, member, by rw [alone]; exact List.mem_singleton_self _⟩
    · omega

/-- A text of ASCII has one byte for each character. -/
theorem encode_ascii {text : String} (ascii : ∀ c ∈ text.toList, c.toNat < 0x80) :
    encode text = text.toList.map fun c => UInt8.ofNat c.toNat := by
  rw [encode_eq_flatMap]
  generalize text.toList = chars at ascii ⊢
  induction chars with
  | nil => rfl
  | cons c chars ih =>
    obtain ⟨small, others⟩ := List.forall_mem_cons.mp ascii
    rcases encodeChar_cases c with ⟨-, alone⟩ | ⟨large, -⟩
    · rw [List.flatMap_cons, alone, ih others, List.map_cons, List.singleton_append]
    · omega

/-! ## Decoding -/

private theorem isContinuation_iff {b : UInt8} : isContinuation b = true ↔ 0x80 ≤ b.toNat ∧ b.toNat ≤ 0xBF := by
  simp [isContinuation, UInt8.le_iff_toNat_le]

private theorem secondAllowed_iff {first second : UInt8} :
    secondAllowed first second = true ↔ 0x80 ≤ second.toNat ∧ second.toNat ≤ 0xBF ∧
      (first.toNat = 0xE0 → 0xA0 ≤ second.toNat) ∧ (first.toNat = 0xED → second.toNat ≤ 0x9F) ∧
      (first.toNat = 0xF0 → 0x90 ≤ second.toNat) ∧ (first.toNat = 0xF4 → second.toNat ≤ 0x8F) := by
  rw [secondAllowed]
  split_ifs with e0 ed f0 f4 <;>
    simp only [beq_iff_eq, ← UInt8.toNat_inj, Bool.and_eq_true, decide_eq_true_eq, UInt8.le_iff_toNat_le,
      isContinuation, UInt8.toNat_ofNat] at * <;>
    omega

private theorem sequenceAt_one {first : UInt8} (ascii : first.toNat < 0x80) (rest : Bytes) :
    sequenceAt first rest = .scalar (Char.ofNat first.toNat) 0 := by
  have small : first < 0x80 := UInt8.lt_iff_toNat_lt.mpr ascii
  simp [sequenceAt, small]

private theorem sequenceAt_two {first b : UInt8} (lower : 0xC2 ≤ first.toNat) (upper : first.toNat ≤ 0xDF)
    (second : isContinuation b = true) (rest : Bytes) :
    sequenceAt first (b :: rest) = .scalar (Char.ofNat (first.toNat % 32 * 64 + payload b)) 1 := by
  have large : ¬ first.toNat < 128 := by omega
  simp [sequenceAt, UInt8.lt_iff_toNat_lt, UInt8.le_iff_toNat_le, large, lower, upper, second]

private theorem sequenceAt_three {first b c : UInt8} (lower : 0xE0 ≤ first.toNat) (upper : first.toNat ≤ 0xEF)
    (second : secondAllowed first b = true) (third : isContinuation c = true) (rest : Bytes) :
    sequenceAt first (b :: c :: rest) =
      .scalar (Char.ofNat ((first.toNat % 16 * 64 + payload b) * 64 + payload c)) 2 := by
  have large : ¬ first.toNat < 128 := by omega
  have notTwo : ¬ first.toNat ≤ 223 := by omega
  simp [sequenceAt, UInt8.lt_iff_toNat_lt, UInt8.le_iff_toNat_le, large, notTwo, lower, upper, second, third]

private theorem sequenceAt_four {first b c d : UInt8} (lower : 0xF0 ≤ first.toNat) (upper : first.toNat ≤ 0xF4)
    (second : secondAllowed first b = true) (third : isContinuation c = true) (fourth : isContinuation d = true)
    (rest : Bytes) :
    sequenceAt first (b :: c :: d :: rest) =
      .scalar (Char.ofNat (((first.toNat % 8 * 64 + payload b) * 64 + payload c) * 64 + payload d)) 3 := by
  have large : ¬ first.toNat < 128 := by omega
  have notTwo : ¬ first.toNat ≤ 223 := by omega
  have notThree : ¬ first.toNat ≤ 239 := by omega
  simp [sequenceAt, UInt8.lt_iff_toNat_lt, UInt8.le_iff_toNat_le, large, notTwo, notThree, lower, upper, second,
    third, fourth]

/-- The bytes of a character are read back as that character, whatever follows them. -/
theorem sequenceAt_encodeChar (c : Char) :
    ∃ first more, String.utf8EncodeChar c = first :: more ∧
      ∀ rest, sequenceAt first (more ++ rest) = .scalar c more.length := by
  obtain ⟨n, same⟩ : ∃ n, n = c.toNat := ⟨_, rfl⟩
  have valid : n < 0xD800 ∨ 0xDFFF < n ∧ n < 0x110000 := same ▸ c.valid
  have char : ∀ m, m = n → Char.ofNat m = c := by
    rintro m rfl
    rw [same, Char.ofNat_toNat]
  have written : c.val.toNat = n := same.symm
  have continuation (m : Nat) : isContinuation (UInt8.ofNat (m % 64 + 128)) = true := by
    rw [isContinuation_iff]
    simp only [UInt8.toNat_ofNat']
    omega
  have value (m : Nat) : payload (UInt8.ofNat (m % 64 + 128)) = m % 64 := by
    simp only [payload, UInt8.toNat_ofNat']
    omega
  simp only [String.utf8EncodeChar, written]
  split_ifs with one two three
  · refine ⟨_, _, rfl, fun rest => ?_⟩
    have first : (UInt8.ofNat n).toNat = n := by
      simp only [UInt8.toNat_ofNat']
      omega
    rw [List.nil_append, sequenceAt_one (by omega), char _ (by omega)]
    rfl
  · refine ⟨_, _, rfl, fun rest => ?_⟩
    have first : (UInt8.ofNat (n / 64 % 32 + 192)).toNat = n / 64 + 192 := by
      simp only [UInt8.toNat_ofNat']
      omega
    rw [List.singleton_append, sequenceAt_two (by omega) (by omega) (continuation n),
      char _ (by rw [first, value]; omega)]
    rfl
  · refine ⟨_, _, rfl, fun rest => ?_⟩
    have first : (UInt8.ofNat (n / 4096 % 16 + 224)).toNat = n / 4096 + 224 := by
      simp only [UInt8.toNat_ofNat']
      omega
    have second : secondAllowed (UInt8.ofNat (n / 4096 % 16 + 224)) (UInt8.ofNat (n / 64 % 64 + 128)) = true := by
      rw [secondAllowed_iff, first]
      simp only [UInt8.toNat_ofNat']
      omega
    rw [List.cons_append, List.singleton_append, sequenceAt_three (by omega) (by omega) second (continuation n),
      char _ (by rw [first, value, value]; omega)]
    rfl
  · refine ⟨_, _, rfl, fun rest => ?_⟩
    have first : (UInt8.ofNat (n / 262144 % 8 + 240)).toNat = n / 262144 + 240 := by
      simp only [UInt8.toNat_ofNat']
      omega
    have second : secondAllowed (UInt8.ofNat (n / 262144 % 8 + 240)) (UInt8.ofNat (n / 4096 % 64 + 128)) = true := by
      rw [secondAllowed_iff, first]
      simp only [UInt8.toNat_ofNat']
      omega
    rw [List.cons_append, List.cons_append, List.singleton_append,
      sequenceAt_four (by omega) (by omega) second (continuation _) (continuation n),
      char _ (by rw [first, value, value, value]; omega)]
    rfl

/-- Decoding gives the text back that was encoded. -/
theorem decode_encode (text : String) : decode (encode text) = .ok text := by
  have characters (chars before : List Char) (position : Nat) :
      decodeFrom position before (chars.flatMap String.utf8EncodeChar) = .ok (before.reverse ++ chars) := by
    induction chars generalizing before position with
    | nil => simp [decodeFrom]
    | cons c chars ih =>
      obtain ⟨first, more, bytes, read⟩ := sequenceAt_encodeChar c
      rw [List.flatMap_cons, bytes, List.cons_append, decodeFrom, read]
      simp only [List.drop_left, ih, List.reverse_cons, List.append_assoc, List.singleton_append]
  rw [decode, decodeChars, encode_eq_flatMap, characters]
  simp [Except.map]

/-! ## Characters that are read -/

private theorem ofNat_of_toNat {n : Nat} {b : UInt8} (same : b.toNat = n) : UInt8.ofNat n = b := by
  rw [← same, UInt8.ofNat_toNat]

/-- The number of the character that has this number. -/
theorem val_ofNat {n : Nat} (valid : n < 0xD800 ∨ 0xDFFF < n ∧ n < 0x110000) : (Char.ofNat n).val.toNat = n := by
  have isValid : n.isValidChar := valid
  rw [Char.ofNat, dif_pos isValid]
  rfl

section
variable {n : Nat} {first b c d : UInt8}

private theorem encodeChar_one (small : n < 0x80) (byte : first.toNat = n) :
    String.utf8EncodeChar (Char.ofNat n) = [first] := by
  simp only [String.utf8EncodeChar, val_ofNat (.inl (by omega : n < 0xD800))]
  rw [if_pos (by omega), ofNat_of_toNat byte]

private theorem encodeChar_two (large : 0x80 ≤ n) (small : n < 0x800) (byte : first.toNat = n / 64 + 192)
    (second : b.toNat = n % 64 + 128) : String.utf8EncodeChar (Char.ofNat n) = [first, b] := by
  simp only [String.utf8EncodeChar, val_ofNat (.inl (by omega : n < 0xD800))]
  rw [if_neg (by omega), if_pos (by omega), ofNat_of_toNat (b := first) (by omega), ofNat_of_toNat second]

private theorem encodeChar_three (large : 0x800 ≤ n) (small : n < 0x10000) (valid : n < 0xD800 ∨ 0xDFFF < n)
    (byte : first.toNat = n / 4096 + 224) (second : b.toNat = n / 64 % 64 + 128) (third : c.toNat = n % 64 + 128) :
    String.utf8EncodeChar (Char.ofNat n) = [first, b, c] := by
  simp only [String.utf8EncodeChar, val_ofNat (by omega : n < 0xD800 ∨ 0xDFFF < n ∧ n < 0x110000)]
  rw [if_neg (by omega), if_neg (by omega), if_pos (by omega), ofNat_of_toNat (b := first) (by omega),
    ofNat_of_toNat second, ofNat_of_toNat third]

private theorem encodeChar_four (large : 0x10000 ≤ n) (small : n < 0x110000) (byte : first.toNat = n / 262144 + 240)
    (second : b.toNat = n / 4096 % 64 + 128) (third : c.toNat = n / 64 % 64 + 128) (fourth : d.toNat = n % 64 + 128) :
    String.utf8EncodeChar (Char.ofNat n) = [first, b, c, d] := by
  simp only [String.utf8EncodeChar, val_ofNat (.inr (by omega : 0xDFFF < n ∧ n < 0x110000))]
  rw [if_neg (by omega), if_neg (by omega), if_neg (by omega), ofNat_of_toNat (b := first) (by omega),
    ofNat_of_toNat second, ofNat_of_toNat third, ofNat_of_toNat fourth]

end

/-- What is read as a character are the bytes of that character. -/
theorem encodeChar_of_sequenceAt {first : UInt8} {rest : Bytes} {c : Char} {more : Nat}
    (read : sequenceAt first rest = .scalar c more) : String.utf8EncodeChar c = first :: rest.take more := by
  unfold sequenceAt at read
  split_ifs at read with one two three four
  · rw [Sequence.scalar.injEq] at read
    obtain ⟨rfl, rfl⟩ := read
    rw [List.take_zero]
    exact encodeChar_one (UInt8.lt_iff_toNat_lt.mp one) rfl
  · simp only [Bool.and_eq_true, decide_eq_true_eq, UInt8.le_iff_toNat_le, UInt8.reduceToNat] at two
    split at read
    · cases read
    · split_ifs at read with second
      rw [Sequence.scalar.injEq] at read
      obtain ⟨rfl, rfl⟩ := read
      rw [isContinuation_iff] at second
      simp only [payload]
      exact encodeChar_two (by omega) (by omega) (by omega) (by omega)
  · simp only [Bool.and_eq_true, decide_eq_true_eq, UInt8.le_iff_toNat_le, UInt8.reduceToNat] at three
    split at read
    · cases read
    · split_ifs at read
    · split_ifs at read with second third
      rw [Sequence.scalar.injEq] at read
      obtain ⟨rfl, rfl⟩ := read
      rw [Bool.not_eq_true, Bool.not_eq_false', secondAllowed_iff] at second
      rw [Bool.not_eq_true, Bool.not_eq_false', isContinuation_iff] at third
      simp only [payload]
      exact encodeChar_three (by omega) (by omega) (by omega) (by omega) (by omega) (by omega)
  · simp only [Bool.and_eq_true, decide_eq_true_eq, UInt8.le_iff_toNat_le, UInt8.reduceToNat] at four
    split at read
    · cases read
    · split_ifs at read
    · split_ifs at read
    · split_ifs at read with second third fourth
      rw [Sequence.scalar.injEq] at read
      obtain ⟨rfl, rfl⟩ := read
      rw [Bool.not_eq_true, Bool.not_eq_false', secondAllowed_iff] at second
      rw [Bool.not_eq_true, Bool.not_eq_false', isContinuation_iff] at third fourth
      simp only [payload]
      exact encodeChar_four (by omega) (by omega) (by omega) (by omega) (by omega) (by omega)

theorem encode_of_decode {bytes : Bytes} {text : String} (read : decode bytes = .ok text) : encode text = bytes := by
  have characters (bytes : Bytes) (before found : List Char) (position : Nat)
      (read : decodeFrom position before bytes = .ok found) :
      ∃ chars, found = before.reverse ++ chars ∧ chars.flatMap String.utf8EncodeChar = bytes := by
    fun_induction decodeFrom position before bytes with
    | case1 position before =>
      cases read
      exact ⟨[], (List.append_nil _).symm, rfl⟩
    | case2 position before first rest c more starts ih =>
      obtain ⟨chars, rfl, bytes⟩ := ih read
      refine ⟨c :: chars, by simp, ?_⟩
      rw [List.flatMap_cons, bytes, encodeChar_of_sequenceAt starts, List.cons_append, List.take_append_drop]
    | case3 => cases read
    | case4 => cases read
  cases chars : decodeChars bytes with
  | error fault => simp [decode, chars, Except.map] at read
  | ok found =>
    simp only [decode, chars, Except.map, Except.ok.injEq] at read
    obtain ⟨all, rfl, written⟩ := characters bytes [] found 0 chars
    rw [← read, encode_eq_flatMap, String.toList_ofList]
    exact written

/-- The bytes that can be decoded are those of texts, each text from its own. -/
theorem decode_eq_ok_iff {bytes : Bytes} {text : String} : decode bytes = .ok text ↔ encode text = bytes := by
  constructor
  · exact encode_of_decode
  · rintro rfl
    exact decode_encode text

end EngineClient.Text
