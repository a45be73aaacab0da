import EngineClient.Proofs.Text.Cutting
import EngineClient.Proofs.Text.Numerals
import EngineClient.Proofs.Text.Utf8
import EngineClient.Socket.Url
/-!
# Paths in socket URLs

A path may be written in a URL in many ways, byte by byte (`Encodes`), and whatever is written there stands for some
bytes (`StandsFor`, which `percentDecode` computes: `standsFor_iff`). The path that a URL names is the one that was
written, below the root; a URL names none only without a scheme, without a text, or with nothing but slashes
(`path_of_url`).
-/

namespace EngineClient.SocketUrl

/-! ## Bytes as they are written -/

/-- A byte as a percent sign and the two digits of its number to the base 16, in letters of either case. -/
def Escape (b : UInt8) (written : Bytes) : Prop :=
  ∃ digits : String, digits.length = 2 ∧ Text.Hexadecimal b.toNat digits ∧ written = Text.encode ("%" ++ digits)

/-- Bytes and a way to write them: each one as an escape or, if it is no percent sign, as it is. -/
inductive Encodes : Bytes → Bytes → Prop
  | nil : Encodes [] []
  | escaped {b : UInt8} {written rest more : Bytes} (escape : Escape b written) (behind : Encodes rest more) :
      Encodes (b :: rest) (written ++ more)
  | plain {b : UInt8} {rest more : Bytes} (other : b ≠ 0x25) (behind : Encodes rest more) :
      Encodes (b :: rest) (b :: more)

/-- What is written and the bytes it stands for: an escape stands for its byte, and every byte that begins no escape for
itself, also a percent sign. -/
inductive StandsFor : Bytes → Bytes → Prop
  | nil : StandsFor [] []
  | escape {b : UInt8} {written rest bytes : Bytes} (escape : Escape b written) (behind : StandsFor rest bytes) :
      StandsFor (written ++ rest) (b :: bytes)
  | itself {b : UInt8} {rest bytes : Bytes} (other : ∀ c written, Escape c written → ¬ written <+: b :: rest)
      (behind : StandsFor rest bytes) : StandsFor (b :: rest) (b :: bytes)

private theorem hexByte_ofNat {c : Char} (small : c.toNat < 256) : hexByte (UInt8.ofNat c.toNat) = Text.hexDigit c := by
  rw [hexByte, UInt8.toNat_ofNat', Nat.mod_eq_of_lt small, Char.ofNat_toNat]

private theorem encode_percent : Text.encode "%" = [0x25] := by
  rw [Text.encode_eq_flatMap]
  decide

theorem escape_iff {b : UInt8} {written : Bytes} :
    Escape b written ↔ ∃ first second high low, written = [0x25, first, second] ∧ hexByte first = some high ∧
      hexByte second = some low ∧ b.toNat = high * 16 + low := by
  constructor
  · rintro ⟨digits, two, number, rfl⟩
    have value := number.value
    have small : ∀ c ∈ digits.toList, c.toNat < 103 := fun c member =>
      Text.hexDigit_range (Text.isSome_of_digitsFrom value c member)
    have bytes : Text.encode digits = digits.toList.map fun c => UInt8.ofNat c.toNat :=
      Text.encode_ascii fun c member => Nat.lt_trans (small c member) (by decide)
    obtain ⟨c, d, chars⟩ := List.length_eq_two.mp (String.length_toList.trans two)
    rw [chars] at value small bytes
    have first : c.toNat < 256 := Nat.lt_trans (small c (by simp)) (by decide)
    have second : d.toNat < 256 := Nat.lt_trans (small d (by simp)) (by decide)
    cases high : Text.hexDigit c with
    | none => simp [Text.digitsFrom, high] at value
    | some n =>
      cases low : Text.hexDigit d with
      | none => simp [Text.digitsFrom, high, low] at value
      | some m =>
        simp only [Text.digitsFrom, high, low, Nat.zero_mul, Nat.zero_add, Option.some.injEq] at value
        refine ⟨UInt8.ofNat c.toNat, UInt8.ofNat d.toNat, n, m, ?_, ?_, ?_, value.symm⟩
        · rw [Text.encode_append, encode_percent, bytes]
          rfl
        · rw [hexByte_ofNat first, high]
        · rw [hexByte_ofNat second, low]
  · rintro ⟨first, second, high, low, rfl, left, right, number⟩
    have char (b : UInt8) : (Char.ofNat b.toNat).toNat = b.toNat := by
      have below := b.toNat_lt
      exact Text.val_ofNat (.inl (by omega))
    have byte (b : UInt8) : UInt8.ofNat (Char.ofNat b.toNat).toNat = b := by rw [char, UInt8.ofNat_toNat]
    simp only [hexByte] at left right
    have value : Text.digitsFrom 16 Text.hexDigit 0 [Char.ofNat first.toNat, Char.ofNat second.toNat] =
        some b.toNat := by
      simp only [Text.digitsFrom, left, right, number, Nat.zero_mul, Nat.zero_add]
    obtain ⟨digits, chars⟩ : ∃ digits : String, digits.toList = [Char.ofNat first.toNat, Char.ofNat second.toNat] :=
      ⟨String.ofList _, String.toList_ofList⟩
    rw [← chars] at value
    refine ⟨digits, ?_, Text.hexadecimal_iff_digitsFrom.mpr ⟨by simp [chars], value⟩, ?_⟩
    · rw [← String.length_toList, chars]
      rfl
    · have ascii : ∀ c ∈ digits.toList, c.toNat < 0x80 := fun c member =>
        Nat.lt_trans (Text.hexDigit_range (Text.isSome_of_digitsFrom value c member)) (by decide)
      rw [Text.encode_append, encode_percent, Text.encode_ascii ascii, chars, List.map_cons, List.map_singleton,
        byte, byte]
      rfl

theorem Escape.length {b : UInt8} {written : Bytes} (escape : Escape b written) : written.length = 3 := by
  obtain ⟨first, second, high, low, rfl, -⟩ := escape_iff.mp escape
  rfl

/-- An escape is decoded to its byte. -/
theorem percentDecode_escape {b : UInt8} {written : Bytes} (escape : Escape b written) (rest : Bytes) :
    percentDecode (written ++ rest) = b :: percentDecode rest := by
  obtain ⟨first, second, high, low, rfl, left, right, number⟩ := escape_iff.mp escape
  have byte : UInt8.ofNat (high * 16 + low) = b := by rw [← number, UInt8.ofNat_toNat]
  rw [List.cons_append, List.cons_append, List.singleton_append, percentDecode, left, right]
  simp only [byte]

/-- A byte that begins no escape is decoded to itself. -/
theorem percentDecode_itself {b : UInt8} {rest : Bytes}
    (other : ∀ c written, Escape c written → ¬ written <+: b :: rest) : percentDecode (b :: rest) = b :: percentDecode rest := by
  rw [percentDecode.eq_def]
  split
  · rename_i parts
    cases parts
  · rename_i first second more parts
    cases parts
    cases left : hexByte first with
    | none => rfl
    | some high =>
      cases right : hexByte second with
      | none => rfl
      | some low =>
        have number : (UInt8.ofNat (high * 16 + low)).toNat = high * 16 + low := by
          have one := (Text.hexDigit_shown left).1
          have two := (Text.hexDigit_shown right).1
          rw [UInt8.toNat_ofNat', Nat.mod_eq_of_lt (by omega)]
        have escape : Escape _ [0x25, first, second] :=
          escape_iff.mpr ⟨first, second, high, low, rfl, left, right, number⟩
        exact absurd ⟨more, rfl⟩ (other _ _ escape)
  · rename_i parts
    cases parts
    rfl

theorem standsFor_percentDecode (written : Bytes) : StandsFor written (percentDecode written) := by
  match written with
  | [] => exact .nil
  | b :: rest =>
    by_cases begins : ∃ c front, Escape c front ∧ front <+: b :: rest
    · obtain ⟨c, front, escape, more, parts⟩ := begins
      have shorter : more.length < (b :: rest).length := by
        rw [← parts, List.length_append, escape.length]
        omega
      rw [← parts, percentDecode_escape escape]
      exact .escape escape (standsFor_percentDecode more)
    · have other : ∀ c front, Escape c front → ¬ front <+: b :: rest := fun c front escape starts =>
        begins ⟨c, front, escape, starts⟩
      rw [percentDecode_itself other]
      exact .itself other (standsFor_percentDecode rest)
termination_by written.length
decreasing_by
  · exact shorter
  · exact Nat.lt_succ_self _

/-- What is written stands for the bytes it is decoded to, and for no others. -/
theorem standsFor_iff {written bytes : Bytes} : StandsFor written bytes ↔ percentDecode written = bytes := by
  constructor
  · intro stands
    induction stands with
    | nil => rfl
    | escape escape behind ih => rw [percentDecode_escape escape, ih]
    | itself other behind ih => rw [percentDecode_itself other, ih]
  · rintro rfl
    exact standsFor_percentDecode written

/-- However bytes are written, it stands for them. -/
theorem Encodes.standsFor {bytes written : Bytes} (encodes : Encodes bytes written) : StandsFor written bytes := by
  induction encodes with
  | nil => exact .nil
  | escaped escape behind ih => exact .escape escape ih
  | @plain b rest more other behind ih =>
    refine .itself ?_ ih
    rintro c front escape ⟨tail, parts⟩
    obtain ⟨first, second, high, low, rfl, -⟩ := escape_iff.mp escape
    cases parts
    exact other rfl

/-- Bytes without a percent sign may be written as they are. -/
theorem encodes_self {bytes : Bytes} (free : 0x25 ∉ bytes) : Encodes bytes bytes := by
  induction bytes with
  | nil => exact .nil
  | cons b rest ih =>
    rw [List.mem_cons, not_or] at free
    exact .plain (Ne.symm free.1) (ih free.2)

/-! ## Paths -/

/-- A path that is nothing but slashes, or nothing at all. -/
def Slashes (path : String) : Prop := ∀ c ∈ path.toList, c = '/'

theorem slashes_iff_all {path : String} : path.toList.all (· == '/') = true ↔ Slashes path := by
  simp [Slashes]

instance (path : String) : Decidable (Slashes path) := decidable_of_iff _ slashes_iff_all

theorem not_slashes_iff {path : String} : ¬ Slashes path ↔ ∃ c ∈ path.toList, c ≠ '/' := by
  simp [Slashes]

theorem afterScheme_eq_some_iff {url rest : String} :
    afterScheme url = some rest ↔ url = "unix://" ++ rest ∨ url = "http+unix://" ++ rest := by
  constructor
  · intro found
    obtain ⟨scheme, known, found⟩ := List.exists_of_findSome?_eq_some found
    rw [Text.afterLead_eq_some_iff] at found
    simp only [schemes, List.mem_cons, List.not_mem_nil, or_false] at known
    rcases known with rfl | rfl
    · exact .inr found
    · exact .inl found
  · rintro (rfl | rfl)
    · have apart : Text.afterLead "http+unix://" ("unix://" ++ rest) = none := by
        rw [Text.afterLead_eq_none_iff, String.toList_append]
        rintro ⟨more, parts⟩
        have first := congrArg List.head? parts
        simp at first
      simp only [afterScheme, schemes, List.findSome?_cons, apart, Text.afterLead_eq_some_iff.mpr rfl]
    · simp only [afterScheme, schemes, List.findSome?_cons, Text.afterLead_eq_some_iff.mpr rfl]

theorem path_of_afterScheme {url rest : String} (found : afterScheme url = some rest) : path url = decodePath rest := by
  rw [path, found]

section
variable {rest : String}

/-- A path that was written is read back, below the root. -/
theorem decodePath_of_text {p : String} (stands : StandsFor (Text.encode rest) (Text.encode p)) :
    decodePath rest =
      if Slashes p then .error .emptyPath else if p.toList.head? = some '/' then .ok p else .ok ("/" ++ p) := by
  rw [decodePath, standsFor_iff.mp stands, Text.decode_encode]
  exact if_congr slashes_iff_all rfl rfl

theorem decodePath_of_notText {bytes : Bytes} (stands : StandsFor (Text.encode rest) bytes)
    (garbled : ∀ text, Text.encode text ≠ bytes) : ∃ fault, decodePath rest = .error (.notText fault) := by
  rw [decodePath, standsFor_iff.mp stands]
  cases read : Text.decode bytes with
  | error fault => exact ⟨fault, rfl⟩
  | ok text => exact absurd (Text.decode_eq_ok_iff.mp read) (garbled text)

theorem decodePath_cases (rest : String) :
    (∃ bytes, StandsFor (Text.encode rest) bytes ∧ ∀ text, Text.encode text ≠ bytes) ∨
      ∃ p, StandsFor (Text.encode rest) (Text.encode p) := by
  have stands := standsFor_percentDecode (Text.encode rest)
  by_cases isText : ∃ p, Text.encode p = percentDecode (Text.encode rest)
  · obtain ⟨p, bytes⟩ := isText
    exact .inr ⟨p, bytes ▸ stands⟩
  · exact .inl ⟨_, stands, fun text same => isText ⟨text, same⟩⟩

/-- A path is below the root and has something beside slashes. -/
theorem decodePath_rooted {p : String} (read : decodePath rest = .ok p) : p.toList.head? = some '/' ∧ ¬ Slashes p := by
  rcases decodePath_cases rest with ⟨bytes, stands, garbled⟩ | ⟨written, stands⟩
  · obtain ⟨fault, refused⟩ := decodePath_of_notText stands garbled
    rw [refused] at read
    cases read
  · rw [decodePath_of_text stands] at read
    split_ifs at read with bare rooted
    · cases read
      exact ⟨rooted, bare⟩
    · cases read
      refine ⟨by simp, fun slashes => bare fun c member => slashes c ?_⟩
      rw [String.toList_append]
      exact List.mem_append_right _ member

/-- What stands in a URL names no path when it stands for no text, or for nothing but slashes. -/
theorem decodePath_fails_iff (rest : String) :
    (∃ fault, decodePath rest = .error fault) ↔
      ∃ bytes, StandsFor (Text.encode rest) bytes ∧
        ((∀ text, Text.encode text ≠ bytes) ∨ ∃ text, Text.encode text = bytes ∧ Slashes text) := by
  constructor
  · rintro ⟨fault, refused⟩
    rcases decodePath_cases rest with ⟨bytes, stands, garbled⟩ | ⟨written, stands⟩
    · exact ⟨bytes, stands, .inl garbled⟩
    · rw [decodePath_of_text stands] at refused
      split_ifs at refused with bare
      exact ⟨_, stands, .inr ⟨written, rfl, bare⟩⟩
  · rintro ⟨bytes, stands, garbled | ⟨written, rfl, bare⟩⟩
    · obtain ⟨fault, refused⟩ := decodePath_of_notText stands garbled
      exact ⟨_, refused⟩
    · exact ⟨_, by rw [decodePath_of_text stands, if_pos bare]⟩

end

/-- A socket URL names the path that was written in it, however it was written: the path itself when it is below the
root, and else the path with a slash in front. A URL fails to name a path only when it begins with neither scheme, or
what stands behind the scheme is no text or has nothing but slashes. Each path that is named is below the root and has
something beside slashes. -/
theorem path_of_url :
    (∀ (p written : String), (∃ c ∈ p.toList, c ≠ '/') → Encodes (Text.encode p) (Text.encode written) →
      ∀ url, url = "unix://" ++ written ∨ url = "http+unix://" ++ written →
        path url = .ok (if p.toList.head? = some '/' then p else "/" ++ p)) ∧
    ∀ url : String,
      ((∃ fault, path url = .error fault) ↔
        (∀ rest, url ≠ "unix://" ++ rest ∧ url ≠ "http+unix://" ++ rest) ∨
        ∃ rest bytes, (url = "unix://" ++ rest ∨ url = "http+unix://" ++ rest) ∧
          StandsFor (Text.encode rest) bytes ∧
          ((∀ text, Text.encode text ≠ bytes) ∨ ∃ text, Text.encode text = bytes ∧ ∀ c ∈ text.toList, c = '/')) ∧
      ∀ found, path url = .ok found → found.toList.head? = some '/' ∧ ∃ c ∈ found.toList, c ≠ '/' := by
  refine ⟨fun p written filled encodes url parts => ?_, fun url => ⟨?_, fun found named => ?_⟩⟩
  · have bare : ¬ Slashes p := not_slashes_iff.mpr filled
    rw [path_of_afterScheme (afterScheme_eq_some_iff.mpr parts), decodePath_of_text encodes.standsFor, if_neg bare]
    split_ifs <;> rfl
  · cases behind : afterScheme url with
    | none =>
      have neither : ∀ rest, url ≠ "unix://" ++ rest ∧ url ≠ "http+unix://" ++ rest := by
        intro rest
        rw [← not_or, ← afterScheme_eq_some_iff, behind]
        simp
      have fails : path url = .error .scheme := by rw [path, behind]
      exact ⟨fun _ => .inl neither, fun _ => ⟨_, fails⟩⟩
    | some rest =>
      have parts := afterScheme_eq_some_iff.mp behind
      rw [path_of_afterScheme behind, decodePath_fails_iff]
      constructor
      · rintro ⟨bytes, stands, why⟩
        exact .inr ⟨rest, bytes, parts, stands, why⟩
      · rintro (neither | ⟨rest', bytes, parts', stands, why⟩)
        · exact absurd parts (not_or.mpr (neither rest))
        · obtain rfl := Option.some.inj (behind.symm.trans (afterScheme_eq_some_iff.mpr parts'))
          exact ⟨bytes, stands, why⟩
  · cases behind : afterScheme url with
    | none =>
      rw [path, behind] at named
      cases named
    | some rest =>
      rw [path_of_afterScheme behind] at named
      obtain ⟨rooted, filled⟩ := decodePath_rooted named
      exact ⟨rooted, not_slashes_iff.mp filled⟩

private def mixedUrl : String := "http+unix://%c3%A9/%25é"

private theorem encodes_mixed : Encodes (Text.encode "é/%é") (Text.encode "%c3%A9/%25é") := by
  have bytes : Text.encode "é/%é" = [0xC3, 0xA9, 0x2F, 0x25, 0xC3, 0xA9] := by
    rw [Text.encode_eq_flatMap]
    decide
  have written : Text.encode "%c3%A9/%25é" =
      [0x25, 0x63, 0x33] ++ ([0x25, 0x41, 0x39] ++ (0x2F :: ([0x25, 0x32, 0x35] ++ [0xC3, 0xA9]))) := by
    rw [Text.encode_eq_flatMap]
    decide
  rw [bytes, written]
  have small : Escape 0xC3 [0x25, 0x63, 0x33] :=
    escape_iff.mpr ⟨0x63, 0x33, 12, 3, rfl, by decide, by decide, by decide⟩
  have capital : Escape 0xA9 [0x25, 0x41, 0x39] :=
    escape_iff.mpr ⟨0x41, 0x39, 10, 9, rfl, by decide, by decide, by decide⟩
  have percent : Escape 0x25 [0x25, 0x32, 0x35] :=
    escape_iff.mpr ⟨0x32, 0x35, 2, 5, rfl, by decide, by decide, by decide⟩
  exact .escaped small (.escaped capital (.plain (by decide) (.escaped percent (encodes_self (by decide)))))

/-- A character is written by escapes in letters of either case, and once more as it is behind a percent sign. Escaped
slashes alone are no path. -/
theorem path_of_url_mixed :
    path mixedUrl = .ok "/é/%é" ∧ ("/é/%é".toList.head? = some '/' ∧ ∃ c ∈ "/é/%é".toList, c ≠ '/') ∧
      ∃ fault, path "unix://%2F%2f" = .error fault := by
  obtain ⟨read, other⟩ := path_of_url
  have named : path mixedUrl = .ok "/é/%é" :=
    read "é/%é" "%c3%A9/%25é" ⟨'é', by decide, by decide⟩ encodes_mixed mixedUrl (.inr (by decide))
  have slashes : StandsFor (Text.encode "%2F%2f") (Text.encode "//") := standsFor_iff.mpr (by decide +kernel)
  refine ⟨named, (other mixedUrl).2 _ named, (other "unix://%2F%2f").1.mpr (.inr ?_)⟩
  exact ⟨"%2F%2f", Text.encode "//", .inl (by decide), slashes, .inr ⟨"//", rfl, slashes_iff_all.mp (by decide)⟩⟩

end EngineClient.SocketUrl
