import EngineClient.Text.Blank
import Mathlib.Data.List.Infix
import Mathlib.Data.List.TakeWhile
/-!
# Texts in parts

What stands behind a lead (`afterLead_eq_some_iff`), what stands around the first mark (`cutAt_eq_iff`), and what is
left between the blanks at both ends: stripping gives a word back that neither begins nor ends with a blank
(`strip_of_bounds`), and blanks are all it takes away (`exists_strip`).
-/

namespace EngineClient.Text

/-! ## Leads -/

theorem afterLead_eq_some_iff {lead text rest : String} : afterLead lead text = some rest ↔ text = lead ++ rest := by
  rw [afterLead, Option.map_eq_some_iff]
  constructor
  · rintro ⟨more, found, rfl⟩
    apply String.toList_injective
    rw [String.toList_append, String.toList_ofList]
    exact (List.isPrefixOf?_eq_some_iff_append_eq.mp found).symm
  · rintro rfl
    refine ⟨rest.toList, List.isPrefixOf?_eq_some_iff_append_eq.mpr ?_, String.ofList_toList⟩
    rw [String.toList_append]

theorem afterLead_eq_none_iff {lead text : String} : afterLead lead text = none ↔ ¬ lead.toList <+: text.toList := by
  rw [Option.eq_none_iff_forall_ne_some]
  constructor
  · rintro none ⟨rest, parts⟩
    refine none (String.ofList rest) (afterLead_eq_some_iff.mpr (String.toList_injective ?_))
    rw [String.toList_append, String.toList_ofList, parts]
  · intro other rest found
    refine other ⟨rest.toList, ?_⟩
    rw [afterLead_eq_some_iff.mp found, String.toList_append]

/-! ## Marks -/

theorem cutAt_of_free {mark : Char} {chars : List Char} (free : mark ∉ chars) : cutAt mark chars = (chars, none) := by
  induction chars with
  | nil => rfl
  | cons c chars ih =>
    rw [List.mem_cons, not_or] at free
    rw [cutAt, if_neg (Ne.symm free.1), ih free.2]

theorem cutAt_append {mark : Char} {front : List Char} (free : mark ∉ front) (back : List Char) :
    cutAt mark (front ++ mark :: back) = (front, some back) := by
  induction front with
  | nil => simp [cutAt]
  | cons c front ih =>
    rw [List.mem_cons, not_or] at free
    rw [List.cons_append, cutAt, if_neg (Ne.symm free.1), ih free.2]

/-- A cut is made at the first mark. -/
theorem cutAt_eq_iff {mark : Char} {chars front back : List Char} :
    cutAt mark chars = (front, some back) ↔ chars = front ++ mark :: back ∧ mark ∉ front := by
  constructor
  · intro cut
    by_cases marked : mark ∈ chars
    · obtain ⟨front', back', rfl, free⟩ := List.eq_append_cons_of_mem marked
      rw [cutAt_append free, Prod.mk.injEq, Option.some.injEq] at cut
      obtain ⟨rfl, rfl⟩ := cut
      exact ⟨rfl, free⟩
    · rw [cutAt_of_free marked] at cut
      cases cut
  · rintro ⟨rfl, free⟩
    exact cutAt_append free back

/-! ## Blanks at the ends -/

theorem dropBlankEnd_append {front back : List Char} {c : Char} (solid : isBlank c = false) :
    dropBlankEnd (front ++ c :: back) = front ++ c :: dropBlankEnd back := by
  have stays : ¬ isBlank c = true := by simp [solid]
  have stop (more : List Char) : (c :: more).dropWhile isBlank = c :: more := List.dropWhile_cons_of_neg stays
  unfold dropBlankEnd
  rw [List.reverse_append, List.reverse_cons, List.append_assoc, List.singleton_append, List.dropWhile_append]
  by_cases blank : (back.reverse.dropWhile isBlank).isEmpty = true
  · rw [if_pos blank, stop, List.isEmpty_iff.mp blank]
    simp
  · rw [if_neg blank]
    simp

/-- Stripping takes blanks away at both ends. -/
theorem exists_strip (chars : List Char) :
    ∃ front back, chars = front ++ strip chars ++ back ∧ ∀ c ∈ front ++ back, isBlank c = true := by
  let middle := dropBlank chars
  refine ⟨chars.takeWhile isBlank, (middle.reverse.takeWhile isBlank).reverse, ?_, ?_⟩
  · have behind : strip chars ++ (middle.reverse.takeWhile isBlank).reverse = middle := by
      rw [strip, dropBlankEnd, ← List.reverse_append, List.takeWhile_append_dropWhile, List.reverse_reverse]
    rw [List.append_assoc, behind]
    exact List.takeWhile_append_dropWhile.symm
  · intro c member
    rcases List.mem_append.mp member with first | last
    · exact List.all_eq_true.mp List.all_takeWhile c first
    · exact List.all_eq_true.mp List.all_takeWhile c (List.mem_reverse.mp last)

/-- A text that neither begins nor ends with a blank. -/
structure Unpadded (chars : List Char) : Prop where
  begins : ∀ c ∈ chars.head?, isBlank c = false
  ends : ∀ c ∈ chars.getLast?, isBlank c = false

/-- The form in which it is decided that a text is not padded. -/
theorem unpadded_of_all {chars : List Char} (first : chars.head?.all (!isBlank ·) = true)
    (last : chars.getLast?.all (!isBlank ·) = true) : Unpadded chars := by
  rw [Option.all_eq_true] at first last
  exact ⟨fun c begins => by simpa using first c begins, fun c ends => by simpa using last c ends⟩

theorem unpadded_of_solid {chars : List Char} (solid : ∀ c ∈ chars, isBlank c = false) : Unpadded chars :=
  ⟨fun c first => solid c (List.mem_of_head? first), fun c last => solid c (List.mem_of_getLast? last)⟩

/-- A word without blanks at its ends is what stripping leaves of it. -/
theorem strip_of_bounds {front word back : List Char} (bounds : Unpadded word)
    (blank : ∀ c ∈ front ++ back, isBlank c = true) : strip (front ++ word ++ back) = word := by
  have blankFront : ∀ c ∈ front, isBlank c = true := fun c first => blank c (List.mem_append_left _ first)
  have blankBack : ∀ c ∈ back, isBlank c = true := fun c last => blank c (List.mem_append_right _ last)
  have noneBehind : dropBlankEnd back = [] := by
    rw [dropBlankEnd, List.reverse_eq_nil_iff, List.dropWhile_eq_nil_iff]
    exact fun c last => blankBack c (List.mem_reverse.mp last)
  rw [strip, dropBlank, List.append_assoc, List.dropWhile_append_of_pos blankFront]
  cases word with
  | nil =>
    rw [List.nil_append, List.dropWhile_eq_nil_iff.mpr blankBack]
    rfl
  | cons c rest =>
    have first : isBlank c = false := bounds.begins c rfl
    rw [List.cons_append, List.dropWhile_cons_of_neg (by simp [first]), ← List.cons_append]
    obtain ⟨before, last, chars⟩ := (List.eq_nil_or_concat (c :: rest)).resolve_left (List.cons_ne_nil c rest)
    have solid : isBlank last = false := by
      refine bounds.ends last ?_
      rw [chars, List.concat_eq_append, List.getLast?_concat]
      rfl
    rw [chars, List.concat_eq_append, List.append_assoc, List.singleton_append, dropBlankEnd_append solid, noneBehind]

/-- Stripping leaves nothing of blanks alone. -/
theorem strip_eq_nil_iff {chars : List Char} : strip chars = [] ↔ ∀ c ∈ chars, isBlank c = true := by
  constructor
  · intro nothing
    obtain ⟨front, back, parts, blank⟩ := exists_strip chars
    rw [nothing, List.append_nil] at parts
    exact parts ▸ blank
  · intro blank
    have stripped : strip (chars ++ [] ++ []) = [] :=
      strip_of_bounds (unpadded_of_solid (by simp)) (by simpa using blank)
    simpa using stripped

theorem trim_of_bounds {text : String} (bounds : Unpadded text.toList) : trim text = text := by
  have word : strip ([] ++ text.toList ++ []) = text.toList := strip_of_bounds bounds (by simp)
  rw [List.nil_append, List.append_nil] at word
  rw [trim, word, String.ofList_toList]

/-- A word without blanks is what stripping leaves of it. -/
theorem strip_of_solid {front word back : List Char} (solid : ∀ c ∈ word, isBlank c = false)
    (blank : ∀ c ∈ front ++ back, isBlank c = true) : strip (front ++ word ++ back) = word :=
  strip_of_bounds (unpadded_of_solid solid) blank

end EngineClient.Text
