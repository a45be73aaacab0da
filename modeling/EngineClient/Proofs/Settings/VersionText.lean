import EngineClient.Proofs.Text.Cutting
import EngineClient.Proofs.Text.Numerals
import EngineClient.Settings.Fault
/-!
# Texts of versions

A version may be written in many ways (`WrittenBy`): with zeros in front of its numbers, with signs, a `v` and blanks.
Exactly these texts are read as the version (`parse_eq_some_iff`), and the text that is shown is one of them. Versions
are ordered by their numbers however they are written (`Before`), and so are the requirements of features.
-/

namespace EngineClient.ApiVersion

/-! ## Numbers and versions as they are written -/

/-- A text that writes a number of 32 bits: digits, with any number of zeros in front and behind a plus sign or not. -/
def Numeral (n : Nat) (text : String) : Prop :=
  n < Text.limit32 ∧ ∃ digits, Text.Decimal n digits ∧ (text = digits ∨ text = "+" ++ digits)

/-- A text that writes a version: two numbers with a point between, behind a `v` or not, and blanks around them. -/
def WrittenBy (v : ApiVersion) (source : String) : Prop :=
  ∃ front lead major minor back : String,
    source = front ++ (lead ++ (major ++ "." ++ minor)) ++ back ∧
    (∀ c ∈ front.toList ++ back.toList, Text.isBlank c = true) ∧ (lead = "" ∨ lead = "v") ∧
    Numeral v.major major ∧ Numeral v.minor minor

/-- Versions whose numbers have 32 bits. -/
structure Fits (v : ApiVersion) : Prop where
  major : v.major < Text.limit32
  minor : v.minor < Text.limit32

theorem numeral_toString {n : Nat} (small : n < Text.limit32) : Numeral n (toString n) :=
  ⟨small, _, Text.decimal_toString n, .inl rfl⟩

/-- There are digits and maybe a sign in a numeral, and nothing else. -/
theorem Numeral.chars {n : Nat} {text : String} (numeral : Numeral n text) :
    text ≠ "" ∧ ∀ c ∈ text.toList, c = '+' ∨ c.isDigit = true := by
  obtain ⟨-, digits, written, rfl | rfl⟩ := numeral
  · exact ⟨written.filled, fun c member => .inr (written.figures c member)⟩
  · refine ⟨by simp, fun c member => ?_⟩
    rw [String.toList_append, List.mem_append] at member
    exact member.imp (by simp) (written.figures c)

theorem Numeral.solid {n : Nat} {text : String} (numeral : Numeral n text) :
    ∀ c ∈ text.toList, Text.isBlank c = false ∧ c ≠ '.' ∧ c ≠ 'v' := by
  intro c member
  rcases numeral.chars.2 c member with rfl | digit
  · decide
  · refine ⟨Text.isBlank_of_isDigit digit, ?_, ?_⟩ <;> (rintro rfl; exact absurd digit (by decide))

theorem Numeral.read_iff {n : Nat} {text : String} :
    Text.numeral 10 Text.decimalDigit Text.limit32 text.toList = some n ↔ Numeral n text :=
  Text.decimal_eq_some_iff

/-! ## Reading -/

/-- The characters behind one leading `v`, or all of them. -/
def behindLead : List Char → List Char
  | 'v' :: rest => rest
  | all => all

theorem behindLead_eq_iff {chars rest : List Char} :
    behindLead chars = rest ↔ chars = 'v' :: rest ∨ chars = rest ∧ rest.head? ≠ some 'v' := by
  unfold behindLead
  split
  · rename_i more
    constructor
    · rintro rfl
      exact .inl rfl
    · rintro (same | ⟨rfl, other⟩)
      · exact (List.cons.inj same).2
      · exact absurd rfl other
  · rename_i plain
    constructor
    · rintro rfl
      refine .inr ⟨rfl, fun first => ?_⟩
      obtain ⟨rest, parts⟩ := List.head?_eq_some_iff.mp first
      exact plain rest parts
    · rintro (same | ⟨same, -⟩)
      · exact absurd same (plain rest)
      · exact same

/-- The numbers are read on both sides of the first point. -/
theorem parse_eq_some_iff_cut {source : String} {v : ApiVersion} :
    parse source = some v ↔
      ∃ major minor, behindLead (Text.strip source.toList) = major ++ '.' :: minor ∧ '.' ∉ major ∧
        Text.numeral 10 Text.decimalDigit Text.limit32 major = some v.major ∧
        Text.numeral 10 Text.decimalDigit Text.limit32 minor = some v.minor := by
  constructor
  · intro read
    simp only [parse] at read
    split at read
    · cases read
    · rename_i major minor cut
      have cut : Text.cutAt '.' (behindLead (Text.strip source.toList)) = (major, some minor) := cut
      obtain ⟨parts, free⟩ := Text.cutAt_eq_iff.mp cut
      split at read
      · rename_i left right
        cases read
        exact ⟨major, minor, parts, free, left, right⟩
      · cases read
  · rintro ⟨major, minor, parts, free, left, right⟩
    have cut : Text.cutAt '.' (behindLead (Text.strip source.toList)) = (major, some minor) :=
      Text.cutAt_eq_iff.mpr ⟨parts, free⟩
    simp only [parse]
    split
    · rename_i uncut
      cases cut.symm.trans uncut
    · rename_i same
      cases cut.symm.trans same
      simp only [left, right]

theorem parse_of_writtenBy {v : ApiVersion} {source : String} (written : v.WrittenBy source) :
    parse source = some v := by
  obtain ⟨front, lead, major, minor, back, rfl, blank, known, left, right⟩ := written
  have solid : ∀ c ∈ (lead ++ (major ++ "." ++ minor)).toList, Text.isBlank c = false := by
    simp only [String.toList_append, List.mem_append]
    rintro c (inLead | (inMajor | isPoint) | inMinor)
    · rcases known with rfl | rfl
      · simp at inLead
      · obtain rfl : c = 'v' := by simpa using inLead
        decide
    · exact (left.solid c inMajor).1
    · obtain rfl : c = '.' := by simpa using isPoint
      decide
    · exact (right.solid c inMinor).1
  have stripped : Text.strip (front ++ (lead ++ (major ++ "." ++ minor)) ++ back).toList =
      lead.toList ++ (major.toList ++ '.' :: minor.toList) := by
    rw [String.toList_append, String.toList_append, Text.strip_of_solid solid blank]
    simp
  have begins : (major.toList ++ '.' :: minor.toList).head? ≠ some 'v' := by
    cases chars : major.toList with
    | nil => simp
    | cons c more => simpa using (left.solid c (by simp [chars])).2.2
  refine parse_eq_some_iff_cut.mpr ⟨major.toList, minor.toList, ?_, fun member => (left.solid '.' member).2.1 rfl,
    Numeral.read_iff.mpr left, Numeral.read_iff.mpr right⟩
  rw [stripped, behindLead_eq_iff]
  rcases known with rfl | rfl
  · exact .inr ⟨rfl, begins⟩
  · exact .inl rfl

theorem writtenBy_of_parse {v : ApiVersion} {source : String} (read : parse source = some v) : v.WrittenBy source := by
  obtain ⟨front, back, parts, blank⟩ := Text.exists_strip source.toList
  obtain ⟨major, minor, bare, -, left, right⟩ := parse_eq_some_iff_cut.mp read
  obtain ⟨lead, known, stripped⟩ : ∃ lead : String, (lead = "" ∨ lead = "v") ∧
      Text.strip source.toList = lead.toList ++ (major ++ '.' :: minor) := by
    rcases behindLead_eq_iff.mp bare with chars | ⟨chars, -⟩
    · exact ⟨"v", .inr rfl, chars⟩
    · exact ⟨"", .inl rfl, chars⟩
  refine ⟨String.ofList front, lead, String.ofList major, String.ofList minor, String.ofList back, ?_, ?_, known,
    Numeral.read_iff.mp ?_, Numeral.read_iff.mp ?_⟩
  · apply String.toList_injective
    rw [parts, stripped]
    simp
  · simpa using blank
  · rwa [String.toList_ofList]
  · rwa [String.toList_ofList]

/-- A text is read as a version when it writes it, and as nothing else. -/
theorem parse_eq_some_iff {source : String} {v : ApiVersion} : parse source = some v ↔ v.WrittenBy source :=
  ⟨writtenBy_of_parse, parse_of_writtenBy⟩

theorem fits_of_parse {source : String} {v : ApiVersion} (read : parse source = some v) : v.Fits := by
  obtain ⟨_, _, _, _, _, -, -, -, left, right⟩ := parse_eq_some_iff.mp read
  exact ⟨left.1, right.1⟩

/-! ## Showing -/

/-- What is shown of a version writes it, also behind a `v`. -/
theorem writtenBy_text {v : ApiVersion} (fits : v.Fits) {lead : String} (known : lead = "" ∨ lead = "v") :
    v.WrittenBy (lead ++ v.text) :=
  ⟨"", lead, toString v.major, toString v.minor, "", by simp [text], by simp, known, numeral_toString fits.major,
    numeral_toString fits.minor⟩

theorem parse_text {v : ApiVersion} (fits : v.Fits) : parse v.text = some v := by
  have written := writtenBy_text fits (.inl rfl)
  rw [String.empty_append] at written
  exact parse_eq_some_iff.mpr written

theorem parse_behind_v {v : ApiVersion} (fits : v.Fits) : parse ("v" ++ v.text) = some v :=
  parse_eq_some_iff.mpr (writtenBy_text fits (.inr rfl))

theorem text_inj {v w : ApiVersion} (fits : v.Fits) (fits' : w.Fits) : v.text = w.text ↔ v = w := by
  refine ⟨fun same => ?_, congrArg text⟩
  have read := parse_text fits
  rw [same, parse_text fits', Option.some.injEq] at read
  exact read.symm

/-! ## Order -/

/-- The order of the numbers of versions, the major one first. -/
def Before (a b : ApiVersion) : Prop := a.major < b.major ∨ a.major = b.major ∧ a.minor < b.minor

theorem order_eq_lt_iff {a b : ApiVersion} : a.order b = .lt ↔ a.Before b := by
  rw [order, Ordering.then_eq_lt, Nat.compare_eq_lt, Nat.compare_eq_eq, Nat.compare_eq_lt, Before]

theorem order_eq_gt_iff {a b : ApiVersion} : a.order b = .gt ↔ b.Before a := by
  rw [order, Ordering.then_eq_gt, Nat.compare_eq_gt, Nat.compare_eq_eq, Nat.compare_eq_gt, Before, eq_comm]

theorem order_eq_eq_iff {a b : ApiVersion} : a.order b = .eq ↔ a = b := by
  rw [order, Ordering.then_eq_eq, Nat.compare_eq_eq, Nat.compare_eq_eq, ApiVersion.mk.injEq]

theorem isBefore_iff {a b : ApiVersion} : a.isBefore b = true ↔ a.Before b := by
  rw [isBefore, beq_iff_eq, order_eq_lt_iff]

/-- Of two versions one is before the other, unless they are the same. -/
theorem not_before_iff {a b : ApiVersion} : ¬ a.Before b ↔ b.Before a ∨ a = b := by
  rw [← order_eq_lt_iff, ← order_eq_gt_iff, ← order_eq_eq_iff]
  cases a.order b <;> simp

/-- A requirement is met by the version itself and by those after it; of an older version the error tells both. -/
theorem require_eq (v minimum : ApiVersion) (feature : String) :
    v.require minimum feature = .ok () ∧ (minimum.Before v ∨ v = minimum) ∨
      v.require minimum feature = .error (.versionTooLow feature minimum v) ∧ v.Before minimum := by
  by_cases before : v.Before minimum
  · exact .inr ⟨by rw [require, if_pos (isBefore_iff.mpr before)], before⟩
  · exact .inl ⟨by rw [require, if_neg (mt isBefore_iff.mp before)], not_before_iff.mp before⟩

theorem require_eq_ok_iff {v minimum : ApiVersion} {feature : String} :
    v.require minimum feature = .ok () ↔ minimum.Before v ∨ v = minimum := by
  rcases require_eq v minimum feature with ⟨met, atLeast⟩ | ⟨refused, before⟩
  · exact iff_of_true met atLeast
  · exact iff_of_false (by simp [refused]) fun atLeast => not_before_iff.mpr atLeast before

/-- A version whose numbers have 32 bits is read back from its text and from the prefix of its paths. What is read is
what a text writes: two numbers of 32 bits, each in digits behind one plus sign or none, with the first point between
them, one `v` or none in front, and blanks around. Texts are read as the same version when the same text is shown for
them. Versions are ordered as their numbers are, the major one first, and a requirement is met from its minimum on. -/
theorem version_texts :
    (∀ v : ApiVersion, v.major < Text.limit32 → v.minor < Text.limit32 →
      parse v.text = some v ∧ ∃ rest, v.pathPrefix = "/" ++ rest ∧ parse rest = some v) ∧
    (∀ source v, parse source = some v ↔ v.WrittenBy source) ∧
    (∀ source other v w, parse source = some v → parse other = some w →
      parse v.text = some v ∧ (v = w ↔ v.text = w.text)) ∧
    ∀ v w : ApiVersion,
      (v.order w = .lt ↔ v.major < w.major ∨ v.major = w.major ∧ v.minor < w.minor) ∧
      (v.order w = .eq ↔ v.major = w.major ∧ v.minor = w.minor) ∧
      (v.order w = .gt ↔ w.major < v.major ∨ w.major = v.major ∧ w.minor < v.minor) ∧
      ∀ feature, v.require w feature = .ok () ↔ w.major < v.major ∨ w.major = v.major ∧ w.minor ≤ v.minor := by
  refine ⟨fun v major minor => ?_, fun source v => parse_eq_some_iff, fun source other v w read read' => ?_,
    fun v w => ⟨order_eq_lt_iff, ?_, order_eq_gt_iff, fun feature => ?_⟩⟩
  · have fits : v.Fits := ⟨major, minor⟩
    exact ⟨parse_text fits, "v" ++ v.text, by simp [pathPrefix, ← String.append_assoc], parse_behind_v fits⟩
  · have fits := fits_of_parse read
    exact ⟨parse_text fits, (text_inj fits (fits_of_parse read')).symm⟩
  · rw [order_eq_eq_iff, ApiVersion.mk.injEq]
  · rw [require_eq_ok_iff, ApiVersion.mk.injEq, Before]
    omega

/-- A text with a sign, zeros and blanks, and one that is greater as a text only. -/
theorem version_texts_padded :
    parse " v+001.024\n" = some ⟨1, 24⟩ ∧ (⟨1, 24⟩ : ApiVersion).WrittenBy " v+001.024\n" ∧
      parse (text ⟨1, 24⟩) = some ⟨1, 24⟩ ∧ ((⟨1, 24⟩ : ApiVersion) = ⟨1, 9⟩ ↔ text ⟨1, 24⟩ = text ⟨1, 9⟩) ∧
      order ⟨1, 9⟩ ⟨1, 24⟩ = .lt ∧ require ⟨1, 24⟩ ⟨1, 9⟩ "df" = .ok () ∧
      ∃ rest, pathPrefix ⟨1, 4294967295⟩ = "/" ++ rest ∧ parse rest = some ⟨1, 4294967295⟩ := by
  obtain ⟨shown, read, canonical, ordered⟩ := version_texts
  have padded : parse " v+001.024\n" = some ⟨1, 24⟩ := by decide
  have same := canonical " v+001.024\n" "1.9" ⟨1, 24⟩ ⟨1, 9⟩ padded (by decide)
  exact ⟨padded, (read _ _).mp padded, same.1, same.2, (ordered ⟨1, 9⟩ ⟨1, 24⟩).1.mpr (by decide),
    ((ordered ⟨1, 24⟩ ⟨1, 9⟩).2.2.2 "df").mpr (by decide), (shown ⟨1, 4294967295⟩ (by decide) (by decide)).2⟩

end EngineClient.ApiVersion
