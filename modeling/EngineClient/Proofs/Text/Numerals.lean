import EngineClient.Proofs.Http.Tokens
import EngineClient.Text.Numeral
import Mathlib.Data.List.Induction
/-!
# Numerals

The numbers that texts of digits write (`Decimal`, `Hexadecimal`). The readers of numerals take exactly these digits,
with or without a plus sign in front (`decimal_eq_some_iff`, `hexadecimal_eq_some_iff`).
-/

namespace EngineClient.Text

/-- Digits to the base 10 and the number they write, with any number of zeros in front. -/
structure Decimal (n : Nat) (digits : String) : Prop where
  filled : digits ≠ ""
  figures : ∀ c ∈ digits.toList, c.isDigit = true
  value : Nat.ofDigitChars 10 digits.toList 0 = n

/-- The digits of a number to the base 16, with any number of zeros in front and in letters of either case. -/
def Hexadecimal (n : Nat) (digits : String) : Prop :=
  ∃ zeros, digits.toList.map Char.toLower = List.replicate zeros '0' ++ Nat.toDigits 16 n

/-! ## Digits of any base -/

section
variable {base : Nat} {digit : Char → Option Nat}

theorem digitsFrom_append (value : Nat) (front back : List Char) :
    digitsFrom base digit value (front ++ back) =
      (digitsFrom base digit value front).bind fun value => digitsFrom base digit value back := by
  induction front generalizing value with
  | nil => rfl
  | cons c front ih =>
    simp only [List.cons_append, digitsFrom]
    cases digit c with
    | none => rfl
    | some d => exact ih _

theorem isSome_of_digitsFrom {value n : Nat} {chars : List Char}
    (read : digitsFrom base digit value chars = some n) : ∀ c ∈ chars, (digit c).isSome := by
  induction chars generalizing value with
  | nil => simp
  | cons c chars ih =>
    rw [digitsFrom] at read
    cases found : digit c with
    | none => simp [found] at read
    | some d =>
      rw [found] at read
      intro other member
      rcases List.mem_cons.mp member with rfl | later
      · simp [found]
      · exact ih read other later

/-- A numeral is read from one or more digits, of which a plus sign is none, with such a sign in front or without. -/
theorem numeral_eq_some_iff (unsigned : digit '+' = none) {limit n : Nat} {chars : List Char} :
    numeral base digit limit chars = some n ↔
      n < limit ∧ ∃ figures, figures ≠ [] ∧ digitsFrom base digit 0 figures = some n ∧
        (chars = figures ∨ chars = '+' :: figures) := by
  have digits_iff (figures : List Char) :
      (digits base digit figures).filter (· < limit) = some n ↔
        n < limit ∧ figures ≠ [] ∧ digitsFrom base digit 0 figures = some n := by
    cases figures with
    | nil => simp [digits]
    | cons c figures => simp [digits, Option.filter_eq_some_iff, and_comm]
  have noDigits (figures : List Char) : digitsFrom base digit 0 ('+' :: figures) = none := by
    simp [digitsFrom, unsigned]
  unfold numeral
  split
  · rename_i rest
    rw [digits_iff]
    constructor
    · rintro ⟨small, filled, read⟩
      exact ⟨small, rest, filled, read, .inr rfl⟩
    · rintro ⟨small, figures, filled, read, rfl | same⟩
      · simp [noDigits] at read
      · cases same
        exact ⟨small, filled, read⟩
  · rename_i plain
    rw [digits_iff]
    constructor
    · rintro ⟨small, filled, read⟩
      exact ⟨small, chars, filled, read, .inl rfl⟩
    · rintro ⟨small, figures, filled, read, rfl | signed⟩
      · exact ⟨small, filled, read⟩
      · exact absurd signed (plain figures)

/-- Digits alone are read as their number below the limit, and refused above. -/
theorem numeral_figures (unsigned : digit '+' = none) {n : Nat} {figures : List Char} (filled : figures ≠ [])
    (read : digitsFrom base digit 0 figures = some n) (limit : Nat) :
    numeral base digit limit figures = if n < limit then some n else none := by
  by_cases small : n < limit
  · rw [if_pos small]
    exact (numeral_eq_some_iff unsigned).mpr ⟨small, figures, filled, read, .inl rfl⟩
  · rw [if_neg small, Option.eq_none_iff_forall_ne_some]
    intro m found
    obtain ⟨small', figures', -, read', rfl | rfl⟩ := (numeral_eq_some_iff unsigned).mp found
    · rw [read, Option.some.injEq] at read'
      exact small (read' ▸ small')
    · simp [digitsFrom, unsigned] at read

variable {Written : Nat → String → Prop}

/-- The numerals of a text, where it is known which digits write a number. -/
theorem numeral_text_iff (unsigned : digit '+' = none)
    (written : ∀ n digits, Written n digits ↔ digits.toList ≠ [] ∧ digitsFrom base digit 0 digits.toList = some n)
    {limit n : Nat} {text : String} :
    numeral base digit limit text.toList = some n ↔
      n < limit ∧ ∃ digits, Written n digits ∧ (text = digits ∨ text = "+" ++ digits) := by
  have signed (digits : String) : text = "+" ++ digits ↔ text.toList = '+' :: digits.toList := by
    rw [← String.toList_inj, String.toList_append]
    rfl
  rw [numeral_eq_some_iff unsigned]
  refine and_congr_right fun _ => ⟨?_, ?_⟩
  · rintro ⟨figures, filled, read, form⟩
    refine ⟨String.ofList figures, (written _ _).mpr (by simpa using ⟨filled, read⟩), ?_⟩
    rwa [signed, String.toList_ofList, ← String.toList_inj, String.toList_ofList]
  · rintro ⟨digits, isWritten, form⟩
    obtain ⟨filled, read⟩ := (written _ _).mp isWritten
    refine ⟨digits.toList, filled, read, ?_⟩
    rwa [signed, ← String.toList_inj] at form

end

/-! ## Decimal numbers -/

theorem digit_bounds {c : Char} (digit : c.isDigit = true) : 48 ≤ c.toNat ∧ c.toNat ≤ 57 := by
  simpa [Char.isDigit, UInt32.le_iff_toNat_le] using digit

theorem isBlank_of_isDigit {c : Char} (digit : c.isDigit = true) : isBlank c = false := by
  have all : ∀ n < 58, 48 ≤ n → isBlank (Char.ofNat n) = false := by decide
  have bounds := digit_bounds digit
  have solid := all c.toNat (Nat.lt_succ_of_le bounds.2) bounds.1
  rwa [Char.ofNat_toNat] at solid

/-- Digits have no blanks around them. -/
theorem Decimal.unpadded {n : Nat} {digits : String} (written : Decimal n digits) : Unpadded digits.toList :=
  unpadded_of_solid fun c member => isBlank_of_isDigit (written.figures c member)

/-- A number is written by the digits it is shown with. -/
theorem decimal_toString (n : Nat) : Decimal n (toString n) := by
  have chars : (toString n).toList = Nat.toDigits 10 n := by rw [Nat.toString_eq_ofList_toDigits, String.toList_ofList]
  refine ⟨fun empty => ?_, fun c member => ?_, ?_⟩
  · rw [empty] at chars
    exact Nat.toDigits_ne_nil chars.symm
  · rw [chars] at member
    exact Nat.isDigit_of_mem_toDigits (by decide) (by decide) member
  · rw [chars, Nat.ofDigitChars_toDigits (by decide) (by decide)]

theorem isDigit_iff_decimalDigit (c : Char) : c.isDigit = true ↔ (decimalDigit c).isSome := by
  rw [decimalDigit, Char.isDigit]
  split_ifs with figure
  · simpa [Char.le_def] using figure
  · simpa [Char.le_def] using figure

theorem digitsFrom_digits {chars : List Char} (digits : ∀ c ∈ chars, c.isDigit = true) (value : Nat) :
    digitsFrom 10 decimalDigit value chars = some (Nat.ofDigitChars 10 chars value) := by
  induction chars generalizing value with
  | nil => rfl
  | cons c chars ih =>
    obtain ⟨here, later⟩ := List.forall_mem_cons.mp digits
    have digit : decimalDigit c = some (c.toNat - '0'.toNat) := by
      rw [decimalDigit, if_pos]
      simpa [Char.isDigit, Char.le_def] using here
    rw [digitsFrom, digit, Nat.ofDigitChars_cons, Nat.mul_comm 10]
    exact ih later _

theorem decimal_iff_digitsFrom {n : Nat} {digits : String} :
    Decimal n digits ↔ digits.toList ≠ [] ∧ digitsFrom 10 decimalDigit 0 digits.toList = some n := by
  constructor
  · rintro ⟨filled, figures, rfl⟩
    exact ⟨by simpa using filled, digitsFrom_digits figures 0⟩
  · rintro ⟨filled, read⟩
    have figures : ∀ c ∈ digits.toList, c.isDigit = true := fun c member =>
      (isDigit_iff_decimalDigit c).mpr (isSome_of_digitsFrom read c member)
    rw [digitsFrom_digits figures, Option.some.injEq] at read
    exact ⟨by simpa using filled, figures, read⟩

/-- A decimal number below the limit is read from its digits, maybe with a plus sign in front, and from nothing
else. -/
theorem decimal_eq_some_iff {limit n : Nat} {text : String} :
    decimal limit text = some n ↔ n < limit ∧ ∃ digits, Decimal n digits ∧ (text = digits ∨ text = "+" ++ digits) :=
  numeral_text_iff rfl fun _ _ => decimal_iff_digitsFrom

/-- A number below the limit is read from its digits; other numbers are refused. -/
theorem Decimal.read {n : Nat} {digits : String} (written : Decimal n digits) (limit : Nat) :
    decimal limit digits = if n < limit then some n else none := by
  obtain ⟨filled, read⟩ := decimal_iff_digitsFrom.mp written
  exact numeral_figures rfl filled read limit

/-! ## Hexadecimal numbers -/

theorem hexDigit_toLower (c : Char) : hexDigit c.toLower = hexDigit c := by
  rw [← lowerAscii_eq_toLower, lowerAscii]
  split_ifs with upper
  · have letters : ∀ n < 91, 65 ≤ n → hexDigit (Char.ofNat (n + 32)) = hexDigit (Char.ofNat n) := by decide
    have same := letters c.toNat (Nat.lt_succ_of_le upper.2) upper.1
    rwa [Char.ofNat_toNat] at same
  · rfl

theorem digitsFrom_toLower (value : Nat) (chars : List Char) :
    digitsFrom 16 hexDigit value (chars.map Char.toLower) = digitsFrom 16 hexDigit value chars := by
  induction chars generalizing value with
  | nil => rfl
  | cons c chars ih =>
    simp only [List.map_cons, digitsFrom, hexDigit_toLower]
    cases hexDigit c with
    | none => rfl
    | some d => exact ih _

theorem digitsFrom_zeros (zeros : Nat) : digitsFrom 16 hexDigit 0 (List.replicate zeros '0') = some 0 := by
  have zero : hexDigit '0' = some 0 := by decide
  induction zeros with
  | zero => rfl
  | succ zeros ih => simpa [List.replicate_succ, digitsFrom, zero] using ih

theorem digitsFrom_toDigits (n : Nat) : digitsFrom 16 hexDigit 0 (Nat.toDigits 16 n) = some n := by
  have digit : ∀ k < 16, hexDigit k.digitChar = some k := by decide
  induction n using Nat.strongRecOn with
  | ind n ih =>
    by_cases small : n < 16
    · rw [Nat.toDigits_of_lt_base small]
      simp [digitsFrom, digit n small]
    · have less : n / 16 < n := by omega
      have last : n % 16 < 16 := by omega
      rw [Nat.toDigits_of_base_le (by omega) (by omega), digitsFrom_append, ih (n / 16) less]
      simp only [Option.bind_some, digitsFrom, digit _ last, Option.some.injEq]
      omega

theorem Hexadecimal.value {n : Nat} {digits : String} (written : Hexadecimal n digits) :
    digitsFrom 16 hexDigit 0 digits.toList = some n := by
  obtain ⟨zeros, chars⟩ := written
  rw [← digitsFrom_toLower, chars, digitsFrom_append, digitsFrom_zeros]
  exact digitsFrom_toDigits n

theorem hexDigit_range {c : Char} (digit : (hexDigit c).isSome) : c.toNat < 103 := by
  unfold hexDigit at digit
  split_ifs at digit with figure lower upper
  · have : c.toNat ≤ '9'.toNat := figure.2
    simp at this
    omega
  · have : c.toNat ≤ 'f'.toNat := lower.2
    simp at this
    omega
  · have : c.toNat ≤ 'F'.toNat := upper.2
    simp at this
    omega
  · simp at digit

/-- A hexadecimal digit is no blank and none of the signs that stand in a size line. -/
theorem hexDigit_solid {c : Char} (digit : (hexDigit c).isSome) :
    isBlank c = false ∧ c ≠ ';' ∧ c ≠ '+' ∧ c ≠ '\n' := by
  have all : ∀ n < 103, (hexDigit (Char.ofNat n)).isSome →
      isBlank (Char.ofNat n) = false ∧ Char.ofNat n ≠ ';' ∧ Char.ofNat n ≠ '+' ∧ Char.ofNat n ≠ '\n' := by decide
  have known := all c.toNat (hexDigit_range digit)
  rw [Char.ofNat_toNat] at known
  exact known digit

theorem Hexadecimal.solid {n : Nat} {digits : String} (written : Hexadecimal n digits) :
    ∀ c ∈ digits.toList, isBlank c = false ∧ c ≠ ';' ∧ c ≠ '+' ∧ c ≠ '\n' :=
  fun c member => hexDigit_solid (isSome_of_digitsFrom written.value c member)

theorem Hexadecimal.ne_nil {n : Nat} {digits : String} (written : Hexadecimal n digits) : digits.toList ≠ [] := by
  obtain ⟨zeros, chars⟩ := written
  intro none
  rw [none] at chars
  simp at chars

/-- The letter or figure that a digit is, in lower case. -/
theorem hexDigit_shown {c : Char} {d : Nat} (digit : hexDigit c = some d) : d < 16 ∧ c.toLower = d.digitChar := by
  have range : c.toNat < 103 := hexDigit_range (by rw [digit, Option.isSome_some])
  have all : ∀ n < 103, ∀ d ∈ hexDigit (Char.ofNat n), d < 16 ∧ (Char.ofNat n).toLower = d.digitChar := by decide
  have known := all c.toNat range
  rw [Char.ofNat_toNat] at known
  exact known d digit

theorem hexadecimal_of_digitsFrom {figures : List Char} (filled : figures ≠ []) {n : Nat}
    (read : digitsFrom 16 hexDigit 0 figures = some n) :
    ∃ zeros, figures.map Char.toLower = List.replicate zeros '0' ++ Nat.toDigits 16 n := by
  induction figures using List.reverseRecOn generalizing n with
  | nil => contradiction
  | append_singleton front c ih =>
    rw [digitsFrom_append] at read
    obtain ⟨value, before, last⟩ := Option.bind_eq_some_iff.mp read
    cases digit : hexDigit c with
    | none => simp [digitsFrom, digit] at last
    | some d =>
      obtain ⟨small, shown⟩ := hexDigit_shown digit
      obtain rfl : value * 16 + d = n := by simpa [digitsFrom, digit] using last
      rw [List.map_append, List.map_singleton, shown]
      by_cases first : front = []
      · subst first
        obtain rfl : 0 = value := by simpa [digitsFrom] using before
        exact ⟨0, by simp [Nat.toDigits_of_lt_base small]⟩
      · obtain ⟨zeros, chars⟩ := ih first before
        rw [chars]
        by_cases zero : value = 0
        · -- The zero that stands alone so far becomes one of those in front.
          subst zero
          refine ⟨zeros + 1, ?_⟩
          rw [Nat.zero_mul, Nat.zero_add, Nat.toDigits_of_lt_base small, List.replicate_succ']
          rfl
        · refine ⟨zeros, ?_⟩
          have quotient : (value * 16 + d) / 16 = value := by omega
          have remainder : (value * 16 + d) % 16 = d := by omega
          rw [Nat.toDigits_of_base_le (n := value * 16 + d) (by omega) (by omega), quotient, remainder,
            List.append_assoc]

theorem hexadecimal_iff_digitsFrom {n : Nat} {digits : String} :
    Hexadecimal n digits ↔ digits.toList ≠ [] ∧ digitsFrom 16 hexDigit 0 digits.toList = some n :=
  ⟨fun written => ⟨written.ne_nil, written.value⟩, fun ⟨filled, read⟩ => hexadecimal_of_digitsFrom filled read⟩

/-- A hexadecimal number below the limit is read from its digits, maybe with a plus sign in front, and from nothing
else. -/
theorem hexadecimal_eq_some_iff {limit n : Nat} {text : String} :
    hexadecimal limit text = some n ↔
      n < limit ∧ ∃ digits, Hexadecimal n digits ∧ (text = digits ∨ text = "+" ++ digits) :=
  numeral_text_iff rfl fun _ _ => hexadecimal_iff_digitsFrom

/-- A number below the limit is read from its digits; other numbers are refused. -/
theorem Hexadecimal.read {n : Nat} {digits : String} (written : Hexadecimal n digits) (limit : Nat) :
    hexadecimal limit digits = if n < limit then some n else none :=
  numeral_figures rfl written.ne_nil written.value limit

end EngineClient.Text
