import EngineClient.Http.Head
import EngineClient.Proofs.Http.HeadLines
import EngineClient.Proofs.Text.Numerals
import EngineClient.Proofs.Text.Utf8
/-!
# Texts within a line

Texts of visible characters, header values and numbers have no byte that ends a line (`inLine_encode`,
`inLine_value`, `inLine_toString`), and the characters of methods and header names are visible (`token_visible`).
-/

namespace EngineClient.Http

/-- Characters that are neither a space nor one of the controls before it. -/
def Visible (c : Char) : Prop := 0x20 < c.toNat

instance : DecidablePred Visible := fun c => inferInstanceAs (Decidable (0x20 < c.toNat))

/-- The form in which visible characters are decided. -/
theorem visible_of_all {chars : List Char} (all : chars.all (fun c => decide (Visible c)) = true) :
    ∀ c ∈ chars, Visible c :=
  fun c member => of_decide_eq_true (List.all_eq_true.mp all c member)

theorem of_contains {chars : List Char} {c : Char} {p : Char → Bool} (found : chars.contains c = true)
    (all : chars.all p = true) : p c = true :=
  List.all_eq_true.mp all c (List.contains_iff_mem.mp found)

/-! ## Tokens -/

theorem alphanumeric_visible {c : Char} (found : Uri.isAlphanumeric c = true) :
    Visible c ∧ c.toNat < 0x80 ∧ c ≠ ':' := by
  have ranges : 0x61 ≤ c.toNat ∧ c.toNat ≤ 0x7A ∨ 0x41 ≤ c.toNat ∧ c.toNat ≤ 0x5A ∨
      0x30 ≤ c.toNat ∧ c.toNat ≤ 0x39 := by
    simp only [Uri.isAlphanumeric, Bool.or_eq_true, Bool.and_eq_true, decide_eq_true_eq, or_assoc] at found
    exact found
  refine ⟨?_, ?_, ?_⟩
  · rw [Visible]
    omega
  · omega
  · rintro rfl
    revert ranges
    decide

/-- Characters of tokens are ASCII, and neither blank nor a colon. -/
theorem token_visible {c : Char} (found : isTokenChar c = true) : Visible c ∧ c.toNat < 0x80 ∧ c ≠ ':' := by
  rw [isTokenChar, Bool.or_eq_true] at found
  rcases found with letter | sign
  · exact alphanumeric_visible letter
  · exact of_decide_eq_true (of_contains (p := fun c => decide (Visible c ∧ c.toNat < 0x80 ∧ c ≠ ':')) sign (by decide))

/-- Letters in lower case are no other than visible, and still no colon. -/
theorem lowerAscii_visible {c : Char} (visible : Visible c) (other : c ≠ ':') :
    Visible (Text.lowerAscii c) ∧ Text.lowerAscii c ≠ ':' := by
  rw [Text.lowerAscii]
  split_ifs with upper
  · have letters : ∀ n < 91, 65 ≤ n → 0x20 < (Char.ofNat (n + 32)).toNat ∧ Char.ofNat (n + 32) ≠ ':' := by decide
    exact letters c.toNat (Nat.lt_succ_of_le upper.2) upper.1
  · exact ⟨visible, other⟩

/-! ## Characters as bytes -/

theorem charOf_byteOf {c : Char} (ascii : c.toNat < 0x80) : Char.ofNat (UInt8.ofNat c.toNat).toNat = c := by
  rw [UInt8.toNat_ofNat', Nat.mod_eq_of_lt (by omega), Char.ofNat_toNat]

/-- A text of printable ASCII is read back from its bytes. -/
theorem visibleText_encode {text : String} (printable : ∀ c ∈ text.toList, 0x20 ≤ c.toNat ∧ c.toNat < 0x7F) :
    Headers.visibleText (Text.encode text) = some text := by
  have bytes := Text.encode_ascii fun c member => show c.toNat < 0x80 by have := printable c member; omega
  have visible : Headers.isVisible (Text.encode text) = true := by
    rw [Headers.isVisible, bytes, List.all_map, List.all_eq_true]
    intro c member
    have bounds := printable c member
    simp only [Function.comp_apply, Bool.or_eq_true, Bool.and_eq_true, decide_eq_true_eq, UInt8.le_iff_toNat_le,
      UInt8.lt_iff_toNat_lt, UInt8.toNat_ofNat', UInt8.toNat_ofNat]
    omega
  have back : text.toList.map ((fun b => Char.ofNat b.toNat) ∘ fun c => UInt8.ofNat c.toNat) = text.toList := by
    refine (List.map_congr_left fun c member => ?_).trans (List.map_id text.toList)
    have bounds := printable c member
    exact charOf_byteOf (by omega)
  rw [Headers.visibleText, if_pos visible, bytes, List.map_map, back, String.ofList_toList]

/-! ## Bytes within a line -/

theorem inLine_encode {text : String} (visible : ∀ c ∈ text.toList, Visible c) :
    InLine (Text.encode text) ∧ 0x20 ∉ Text.encode text := by
  have absent {c : Char} (ascii : c.toNat < 0x80) (hidden : ¬ Visible c) : UInt8.ofNat c.toNat ∉ Text.encode text :=
    fun member => hidden (visible c ((Text.mem_encode_iff ascii).mp member))
  exact ⟨⟨absent (c := '\r') (by decide) (by decide), absent (c := '\n') (by decide) (by decide)⟩,
    absent (c := ' ') (by decide) (by decide)⟩

theorem inLine_toString (n : Nat) : InLine (Text.encode (toString n)) := by
  refine (inLine_encode fun c member => ?_).1
  have bounds := Text.digit_bounds ((Text.decimal_toString n).figures c member)
  rw [Visible]
  omega

theorem inLine_value {value : Bytes} (legal : ∀ b ∈ value, Headers.isValueByte b = true) : InLine value :=
  ⟨fun member => absurd (legal _ member) (by decide), fun member => absurd (legal _ member) (by decide)⟩

end EngineClient.Http
