import EngineClient.Proofs.Http.HeadReading
/-!
# The lines of a head

A head is lines, each with its line end, and an empty line (`heading`). Splitting gives the lines back where
none of them is empty or holds a carriage return (`splitFirst_heading`, `crlfLines_intercalate`), and a reader
finds the end of the head there and not before (`lead_heading`).
-/

namespace EngineClient.Http

/-- The two bytes that end a line. -/
def lineEnd : Bytes := [0x0D, 0x0A]

/-- The bytes of a head with these lines. -/
def heading (lines : List Bytes) : Bytes := (lines.flatMap fun line => line ++ lineEnd) ++ lineEnd

/-- What stands before and after the first `mark` in bytes. -/
def splitFirst (mark : Bytes) : Bytes → Option (Bytes × Bytes)
  | [] => none
  | b :: rest =>
    if mark.isPrefixOf (b :: rest) then some ([], (b :: rest).drop mark.length)
    else (splitFirst mark rest).map fun (front, back) => (b :: front, back)

/-- The pieces of bytes between the line ends. -/
def crlfLines : Bytes → List Bytes
  | [] => [[]]
  | 0x0D :: 0x0A :: rest => [] :: crlfLines rest
  | b :: rest => (crlfLines rest).modifyHead (b :: ·)

/-- A line that stays one: it is not empty and holds no byte of a line end. -/
def Solid (line : Bytes) : Prop := line ≠ [] ∧ 0x0D ∉ line ∧ 0x0A ∉ line

/-- Bytes within a line. -/
def InLine (bytes : Bytes) : Prop := 0x0D ∉ bytes ∧ 0x0A ∉ bytes

/-- The colon and the space between name and value. -/
def fieldMark : Bytes := [0x3A, 0x20]

/-- The line of a field. -/
def fieldLine (field : Bytes × Bytes) : Bytes := field.1 ++ (fieldMark ++ field.2)

/-! ## The first mark -/

private theorem splitFirst_here {mark : Bytes} (filled : mark ≠ []) (rest : Bytes) :
    splitFirst mark (mark ++ rest) = some ([], rest) := by
  obtain ⟨b, more, rfl⟩ := List.exists_cons_of_ne_nil filled
  have starts : (b :: more).isPrefixOf (b :: (more ++ rest)) = true :=
    List.isPrefixOf_iff_prefix.mpr (List.prefix_append (b :: more) rest)
  simp [splitFirst, starts]

private theorem splitFirst_later {mark : Bytes} {b : UInt8} {rest : Bytes} (other : ¬ mark <+: b :: rest) :
    splitFirst mark (b :: rest) = (splitFirst mark rest).map fun (front, back) => (b :: front, back) := by
  rw [splitFirst, if_neg]
  exact fun starts => other (List.isPrefixOf_iff_prefix.mp starts)

/-- Bytes are split at the place where the mark stands and before which it does not. -/
theorem splitFirst_eq_some_iff {mark bytes front back : Bytes} (filled : mark ≠ []) :
    splitFirst mark bytes = some (front, back) ↔
      bytes = front ++ mark ++ back ∧ ¬ mark <:+: (front ++ mark).dropLast := by
  have short (front : Bytes) : (front ++ mark).dropLast.length < front.length + mark.length := by
    have := List.length_pos_iff.mpr filled
    rw [List.length_dropLast, List.length_append]
    omega
  induction bytes generalizing front with
  | nil => simp [splitFirst, filled]
  | cons b rest ih =>
    by_cases starts : mark <+: b :: rest
    · obtain ⟨more, same⟩ := starts
      rw [← same, splitFirst_here filled]
      constructor
      · intro found
        cases found
        refine ⟨rfl, fun again => ?_⟩
        have := again.length_le
        have := short []
        simp only [List.nil_append, List.length_nil] at *
        omega
      · rintro ⟨parts, first⟩
        cases front with
        | nil => simpa using parts
        | cons c front =>
          -- The mark stands at the start of both, so it would end before the front does.
          refine absurd (List.IsPrefix.isInfix ?_) first
          have here : mark <+: (c :: front) ++ mark ++ back := ⟨more, parts⟩
          have rest : (c :: front ++ mark).dropLast <+: (c :: front) ++ mark ++ back :=
            (List.dropLast_prefix _).trans (List.prefix_append _ _)
          exact List.prefix_of_prefix_length_le here rest (by simp)
    · rw [splitFirst_later starts]
      constructor
      · intro found
        obtain ⟨⟨front', back'⟩, found, same⟩ := Option.map_eq_some_iff.mp found
        cases same
        obtain ⟨rfl, first⟩ := ih.mp found
        refine ⟨rfl, ?_⟩
        rw [List.cons_append, List.dropLast_cons_of_ne_nil (by simp [filled]), List.infix_cons_iff]
        rintro (here | later)
        · refine starts (here.trans ?_)
          have before : b :: (front' ++ mark).dropLast <+: b :: (front' ++ mark) :=
            List.cons_prefix_cons.mpr ⟨rfl, List.dropLast_prefix _⟩
          exact before.trans (by simp)
        · exact first later
      · rintro ⟨parts, first⟩
        cases front with
        | nil => exact absurd ⟨back, parts.symm⟩ starts
        | cons c front =>
          obtain ⟨rfl, rest'⟩ := List.cons.inj parts
          rw [List.cons_append, List.dropLast_cons_of_ne_nil (by simp [filled]), List.infix_cons_iff, not_or] at first
          rw [ih.mpr ⟨rest', first.2⟩]
          rfl

/-- A mark is not found in bytes without its first byte. -/
theorem splitFirst_append {b : UInt8} {mark front : Bytes} (free : b ∉ front) (rest : Bytes) :
    splitFirst (b :: mark) (front ++ rest) =
      (splitFirst (b :: mark) rest).map fun (front', back) => (front ++ front', back) := by
  induction front with
  | nil => simp
  | cons c front ih =>
    rw [List.mem_cons, not_or] at free
    obtain ⟨other, free⟩ := free
    have notHere : ¬ b :: mark <+: c :: (front ++ rest) := fun starts => other (List.cons_prefix_cons.mp starts).1
    rw [List.cons_append, splitFirst_later notHere, ih free, Option.map_map]
    rfl

/-- Bytes are split at a mark of whose first byte there is none before. -/
theorem splitFirst_of_free {b : UInt8} {mark front : Bytes} (free : b ∉ front) (back : Bytes) :
    splitFirst (b :: mark) (front ++ (b :: mark ++ back)) = some (front, back) := by
  rw [splitFirst_append free, splitFirst_here (List.cons_ne_nil b mark)]
  simp

/-! ## Lines -/

private theorem crlfLines_line {line : Bytes} (free : 0x0D ∉ line) (rest : Bytes) :
    crlfLines (line ++ (lineEnd ++ rest)) = line :: crlfLines rest := by
  induction line with
  | nil => rfl
  | cons b line ih =>
    rw [List.mem_cons, not_or] at free
    obtain ⟨other, free⟩ := free
    rw [List.cons_append, crlfLines, ih free]
    · rfl
    · rintro _ rfl
      exact absurd rfl other

private theorem crlfLines_last {line : Bytes} (free : 0x0D ∉ line) : crlfLines line = [line] := by
  induction line with
  | nil => rfl
  | cons b line ih =>
    rw [List.mem_cons, not_or] at free
    obtain ⟨other, free⟩ := free
    rw [crlfLines, ih free]
    · rfl
    · rintro _ rfl
      exact absurd rfl other

/-- Lines with line ends between them are split into these lines. -/
theorem crlfLines_intercalate {lines : List Bytes} (present : lines ≠ []) (solid : ∀ line ∈ lines, Solid line) :
    crlfLines (lineEnd.intercalate lines) = lines := by
  induction lines with
  | nil => exact absurd rfl present
  | cons line lines ih =>
    obtain ⟨⟨-, free, -⟩, solid⟩ := List.forall_mem_cons.mp solid
    cases lines with
    | nil => simpa using crlfLines_last free
    | cons next lines =>
      rw [List.intercalate_cons_of_ne_nil (List.cons_ne_nil next lines), List.append_assoc, crlfLines_line free,
        ih (List.cons_ne_nil next lines) solid]

/-- A head is split from the body after its last line. -/
theorem splitFirst_heading {lines : List Bytes} (present : lines ≠ []) (solid : ∀ line ∈ lines, Solid line)
    (body : Bytes) :
    splitFirst blankLine (heading lines ++ body) = some (lineEnd.intercalate lines, body) := by
  induction lines with
  | nil => exact absurd rfl present
  | cons line lines ih =>
    obtain ⟨⟨-, free, -⟩, solid⟩ := List.forall_mem_cons.mp solid
    cases lines with
    | nil =>
      have parts : heading [line] ++ body = line ++ (blankLine ++ body) := by simp [heading, lineEnd, blankLine]
      rw [parts, blankLine, splitFirst_of_free free]
      simp
    | cons next lines =>
      have parts : heading (line :: next :: lines) ++ body =
          line ++ (0x0D :: 0x0A :: (heading (next :: lines) ++ body)) := by
        simp [heading, lineEnd]
      have rest := ih (List.cons_ne_nil next lines) solid
      obtain ⟨⟨filled, free', -⟩, -⟩ := List.forall_mem_cons.mp solid
      -- The line end of the first line is no blank line, for the next line starts with another byte.
      have notHere : ¬ blankLine <+: 0x0D :: 0x0A :: (heading (next :: lines) ++ body) := by
        obtain ⟨b, more, rfl⟩ := List.exists_cons_of_ne_nil filled
        intro starts
        simp only [blankLine, heading, List.flatMap_cons, List.cons_append, List.cons_prefix_cons, true_and] at starts
        exact free' (starts.1 ▸ List.mem_cons_self)
      have notNext : ¬ blankLine <+: 0x0A :: (heading (next :: lines) ++ body) := by
        intro starts
        exact absurd (List.cons_prefix_cons.mp starts).1 (by decide)
      rw [parts, List.intercalate_cons_of_ne_nil (List.cons_ne_nil next lines)]
      have skip (rest : Bytes) : splitFirst blankLine (line ++ rest) =
          (splitFirst blankLine rest).map fun (front, back) => (line ++ front, back) := splitFirst_append free rest
      rw [skip, splitFirst_later notHere, splitFirst_later notNext, rest]
      simp [lineEnd]

/-- The end of a head is found after its last line and not before. -/
theorem lead_heading {lines : List Bytes} (present : lines ≠ []) (solid : ∀ line ∈ lines, Solid line) :
    Lead (heading lines) := by
  have split := splitFirst_heading present solid []
  rw [List.append_nil, splitFirst_eq_some_iff (by decide), List.append_nil] at split
  rw [split.1]
  exact ⟨List.suffix_append _ _, split.2⟩

/-- Every line of a head takes a part of it, which its line end and the empty line are not. -/
theorem length_line_le {lines : List Bytes} {line : Bytes} (listed : line ∈ lines) :
    line.length + 4 ≤ (heading lines).length := by
  obtain ⟨before, after, rfl⟩ := List.append_of_mem listed
  simp only [heading, lineEnd, List.flatMap_append, List.flatMap_cons, List.length_append, List.length_cons,
    List.length_nil]
  omega

/-! ## Lines of fields -/

theorem solid_fieldLine {field : Bytes × Bytes} (name : InLine field.1) (value : InLine field.2) :
    Solid (fieldLine field) := by
  refine ⟨by simp [fieldLine, fieldMark], ?_, ?_⟩
  · simp [fieldLine, fieldMark, name.1, value.1]
  · simp [fieldLine, fieldMark, name.2, value.2]

end EngineClient.Http
