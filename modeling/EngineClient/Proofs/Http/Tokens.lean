import EngineClient.Http.Head
import EngineClient.Proofs.Text.Cutting
import Mathlib.Tactic.SplitIfs
/-!
# Tokens of headers

What a header says is a list of tokens: they stand between commas, blanks around them do not count, and
neither does the case of their letters (`Token`). `Headers.elements` finds exactly these (`elements_iff`).
-/

namespace EngineClient.Text

/-! ## Pieces and cases -/

theorem splitAt_eq_splitOn (mark : Char) (chars : List Char) : splitAt mark chars = chars.splitOn mark := by
  induction chars with
  | nil => rfl
  | cons c rest ih =>
    obtain ⟨piece, more, pieces⟩ := List.exists_cons_of_ne_nil (l := splitAt mark rest) (by
      rw [ih]
      exact List.splitOnP_ne_nil _ _)
    rw [List.splitOn, List.splitOnP_cons_eq_if_modifyHead, ← List.splitOn, ← ih, pieces]
    simp only [splitAt] at pieces
    simp only [splitAt, List.foldr_cons, pieces]
    by_cases isMark : c = mark <;> simp [isMark]

private theorem upper_letters :
    ∀ n < 91, 65 ≤ n → (Char.ofNat n).toLower = Char.ofNat (n + 32) ∧ isBlank (Char.ofNat n) = false ∧
      isBlank (Char.ofNat (n + 32)) = false := by
  decide

theorem lowerAscii_eq_toLower (c : Char) : lowerAscii c = c.toLower := by
  rw [lowerAscii]
  split_ifs with upper
  · have letter := (upper_letters c.toNat (Nat.lt_succ_of_le upper.2) upper.1).1
    rw [Char.ofNat_toNat] at letter
    exact letter.symm
  · delta Char.toLower
    rw [dif_neg]
    exact upper

theorem isBlank_toLower (c : Char) : isBlank c.toLower = isBlank c := by
  rw [← lowerAscii_eq_toLower, lowerAscii]
  split_ifs with upper
  · obtain ⟨-, wasNot, isNot⟩ := upper_letters c.toNat (Nat.lt_succ_of_le upper.2) upper.1
    rw [Char.ofNat_toNat] at wasNot
    rw [isNot, wasNot]
  · rfl

end EngineClient.Text

namespace EngineClient.Http

/-- A token of the values of a name that are printable ASCII: it stands between commas, maybe with blanks
around it and in letters of another case. -/
def Token (headers : Headers) (name token : String) : Prop :=
  ∃ value ∈ headers.values name, ∃ text, Headers.visibleText value = some text ∧
    ∃ front word back, front ++ word ++ back ∈ text.toList.splitOn ',' ∧
      (∀ c ∈ front ++ back, Text.isBlank c = true) ∧ word.map Char.toLower = token.toList

private theorem element_iff {element : List Char} {token : String}
    (solid : token.toList.all (!Text.isBlank ·) = true) :
    Text.lower (String.ofList (Text.strip element)) = token ↔
      ∃ front word back, front ++ word ++ back = element ∧ (∀ c ∈ front ++ back, Text.isBlank c = true) ∧
        word.map Char.toLower = token.toList := by
  have lower (word : List Char) : Text.lower (String.ofList word) = token ↔ word.map Char.toLower = token.toList := by
    rw [Text.lower, String.toList_ofList, funext Text.lowerAscii_eq_toLower, ← String.toList_inj, String.toList_ofList]
  rw [lower]
  constructor
  · intro same
    obtain ⟨front, back, parts, blank⟩ := Text.exists_strip element
    exact ⟨front, Text.strip element, back, parts.symm, blank, same⟩
  · rintro ⟨front, word, back, rfl, blank, same⟩
    rw [Text.strip_of_solid _ blank, same]
    intro c member
    have filled := List.all_eq_true.mp solid _ (same ▸ List.mem_map_of_mem member)
    rwa [Bool.not_eq_true', Text.isBlank_toLower] at filled

/-- The elements of a header are its tokens. -/
theorem elements_iff {headers : Headers} {name token : String}
    (solid : token.toList.all (!Text.isBlank ·) = true) :
    (headers.elements name).contains token = true ↔ Token headers name token := by
  simp only [Headers.elements, List.contains_iff_mem, List.mem_flatMap, List.mem_filterMap, List.mem_map, Token,
    element_iff solid, Text.splitAt_eq_splitOn]
  constructor
  · rintro ⟨text, ⟨value, member, visible⟩, _, among, front, word, back, rfl, blank, same⟩
    exact ⟨value, member, text, visible, front, word, back, among, blank, same⟩
  · rintro ⟨value, member, text, visible, front, word, back, among, blank, same⟩
    exact ⟨text, ⟨value, member, visible⟩, _, among, front, word, back, rfl, blank, same⟩

/-- The peer says that it keeps the connection open: not with `close`, and by its version or with
`keep-alive`. -/
def Persistent (head : Head) : Prop :=
  ¬ Token head.headers "connection" "close" ∧
    (head.version = .http11 ∨ Token head.headers "connection" "keep-alive")

theorem keepsAlive_iff {head : Head} : head.keepsAlive = true ↔ Persistent head := by
  rw [Persistent, ← elements_iff (by decide +kernel), ← elements_iff (by decide +kernel)]
  simp [Head.keepsAlive]

end EngineClient.Http
