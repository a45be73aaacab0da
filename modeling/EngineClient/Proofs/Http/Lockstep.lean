import EngineClient.Proofs.Http.Message
import Mathlib.Data.List.Forall2
/-!
# Reading in step

Sources whose pieces have the same lengths are read in step: reads take the same number of bytes of both, so a head that
ends in the same place is found by the same read (`readHead_shaped`), and a body of some length by the same reads
(`readBody_length_shaped`).
-/

namespace EngineClient

/-- Pieces of the same lengths, one after the other. -/
def Shaped (pieces pieces' : List Bytes) : Prop :=
  List.Forall₂ (fun piece piece' => piece.length = piece'.length) pieces pieces'

theorem Shaped.eq_of_flatten {pieces pieces' : List Bytes} (shaped : Shaped pieces pieces')
    (bytes : pieces.flatten = pieces'.flatten) : pieces = pieces' := by
  induction shaped with
  | nil => rfl
  | cons same _ ih =>
    obtain ⟨rfl, more⟩ := List.append_inj bytes same
    rw [ih more]

namespace Source

/-! ## Reads -/

private theorem readEvents_whole {piece : Bytes} (filled : piece ≠ []) {most : Nat} (fits : piece.length ≤ most)
    (ending : Ending) (more : List Event) :
    readEvents most ending (.bytes piece :: more) = (.got piece, ⟨more, ending⟩) := by
  obtain ⟨b, tail, rfl⟩ := List.exists_cons_of_ne_nil filled
  rw [readEvents, List.drop_of_length_le fits]

private theorem readEvents_front {piece : Bytes} {most : Nat} (long : most < piece.length) (ending : Ending)
    (more : List Event) :
    readEvents most ending (.bytes piece :: more) =
      (.got (piece.take most), ⟨.bytes (piece.drop most) :: more, ending⟩) := by
  have left : piece.drop most ≠ [] := by simpa using long
  obtain ⟨b, tail, rfl⟩ := List.exists_cons_of_length_pos (Nat.zero_lt_of_lt long)
  rw [readEvents]
  split
  · contradiction
  · rfl

private theorem gatherEvents_whole {piece : Bytes} {want : Nat} (fits : piece.length ≤ want) (ending : Ending)
    (before : Bytes) (more : List Event) :
    gatherEvents ending want before (.bytes piece :: more) =
      gatherEvents ending (want - piece.length) (before ++ piece) more := by
  simp only [gatherEvents, List.drop_of_length_le fits]

private theorem gatherEvents_front {piece : Bytes} {want : Nat} (long : want < piece.length) (ending : Ending)
    (before : Bytes) (more : List Event) :
    gatherEvents ending want before (.bytes piece :: more) =
      (.ok (before ++ piece.take want), ⟨.bytes (piece.drop want) :: more, ending⟩) := by
  have left : piece.drop want ≠ [] := by simpa using long
  simp only [gatherEvents]

section
variable {pieces pieces' : List Bytes} (shaped : Shaped pieces pieces') (ending : Ending)
include shaped

/-- One read takes bytes of both sources, equally many, or of none. -/
theorem read_shaped (most : Nat) :
    (∃ piece piece' rest rest', (inPieces pieces ending).read most = (.got piece, inPieces rest ending) ∧
      (inPieces pieces' ending).read most = (.got piece', inPieces rest' ending) ∧ piece.length = piece'.length ∧
      Shaped rest rest') ∨
    pieces.flatten = [] ∧ pieces'.flatten = [] := by
  simp only [read, inPieces]
  induction shaped with
  | nil => exact .inr ⟨rfl, rfl⟩
  | @cons first first' others others' same more ih =>
    by_cases filled : first = []
    · subst filled
      obtain rfl : first' = [] := List.length_eq_zero_iff.mp same.symm
      simpa [readEvents] using ih
    · have filled' : first' ≠ [] := by
        rintro rfl
        exact filled (List.length_eq_zero_iff.mp same)
      left
      rw [List.map_cons, List.map_cons]
      by_cases fits : first.length ≤ most
      · rw [readEvents_whole filled fits, readEvents_whole filled' (same ▸ fits)]
        exact ⟨first, first', others, others', rfl, rfl, same, more⟩
      · have long : most < first.length := Nat.lt_of_not_le fits
        rw [readEvents_front long, readEvents_front (same ▸ long)]
        refine ⟨first.take most, first'.take most, first.drop most :: others, first'.drop most :: others', rfl, rfl, ?_,
          .cons ?_ more⟩
        · rw [List.length_take, List.length_take, same]
        · rw [List.length_drop, List.length_drop, same]

private theorem gatherEvents_shaped (want : Nat) {before before' : Bytes} (lengths : before.length = before'.length) :
    (∃ cause rest rest', gatherEvents ending want before (pieces.map .bytes) = (.error cause, rest) ∧
      gatherEvents ending want before' (pieces'.map .bytes) = (.error cause, rest')) ∨
    ∃ body body' rest rest',
      gatherEvents ending want before (pieces.map .bytes) = (.ok body, inPieces rest ending) ∧
      gatherEvents ending want before' (pieces'.map .bytes) = (.ok body', inPieces rest' ending) ∧
      body.length = body'.length ∧ before ++ pieces.flatten = body ++ rest.flatten ∧
      before' ++ pieces'.flatten = body' ++ rest'.flatten := by
  induction shaped generalizing want before before' with
  | nil =>
    simp only [List.map_nil, gatherEvents]
    by_cases enough : want = 0
    · rw [if_pos enough, if_pos enough]
      exact .inr ⟨before, before', [], [], rfl, rfl, lengths, rfl, rfl⟩
    · rw [if_neg enough, if_neg enough]
      cases ending with
      | closed => exact .inr ⟨before, before', [], [], rfl, rfl, lengths, rfl, rfl⟩
      | failing cause => exact .inl ⟨cause, _, _, rfl, rfl⟩
  | @cons first first' others others' same more ih =>
    rw [List.map_cons, List.map_cons]
    by_cases fits : first.length ≤ want
    · rw [gatherEvents_whole fits, gatherEvents_whole (same ▸ fits)]
      have longer : (before ++ first).length = (before' ++ first').length := by
        rw [List.length_append, List.length_append, lengths, same]
      simpa [same] using ih (want - first.length) longer
    · have long : want < first.length := Nat.lt_of_not_le fits
      rw [gatherEvents_front long, gatherEvents_front (same ▸ long)]
      refine .inr ⟨before ++ first.take want, before' ++ first'.take want, first.drop want :: others,
        first'.drop want :: others', rfl, rfl, ?_, ?_, ?_⟩
      · rw [List.length_append, List.length_append, List.length_take, List.length_take, lengths, same]
      · rw [List.flatten_cons, List.flatten_cons, List.append_assoc, ← List.append_assoc (first.take want),
          List.take_append_drop]
      · rw [List.flatten_cons, List.flatten_cons, List.append_assoc, ← List.append_assoc (first'.take want),
          List.take_append_drop]

/-- Both sources are gathered from for equally many bytes, or both fail. -/
theorem gather_shaped (length : Nat) {before before' : Bytes} (lengths : before.length = before'.length) :
    (∃ cause rest rest', (inPieces pieces ending).gather before length = (.error cause, rest) ∧
      (inPieces pieces' ending).gather before' length = (.error cause, rest')) ∨
    ∃ body body' rest rest', (inPieces pieces ending).gather before length = (.ok body, inPieces rest ending) ∧
      (inPieces pieces' ending).gather before' length = (.ok body', inPieces rest' ending) ∧
      body.length = body'.length ∧ before ++ pieces.flatten = body ++ rest.flatten ∧
      before' ++ pieces'.flatten = body' ++ rest'.flatten := by
  rw [gather, gather, ← lengths]
  exact gatherEvents_shaped shaped ending (length - before.length) lengths

end

end Source

namespace Http

/-! ## Heads -/

/-- Whether the first bytes hold a head is told by where the head of all bytes ends. -/
theorem headEnd_front (front more : Bytes) :
    headEnd front = (headEnd (front ++ more)).filter fun length => decide (length ≤ front.length) := by
  cases found : headEnd front with
  | some length =>
    obtain ⟨lead, rest, isLead, rfl, rfl⟩ := headEnd_eq_some_iff.mp found
    rw [List.append_assoc, headEnd_append isLead, Option.filter_some, if_pos (by simp)]
  | none =>
    cases whole : headEnd (front ++ more) with
    | none => rfl
    | some length =>
      obtain ⟨lead, rest, isLead, parts, rfl⟩ := headEnd_eq_some_iff.mp whole
      have longer := isLead.longer found parts
      rw [Option.filter_some, if_neg (by simpa using longer)]

section
variable {pieces pieces' : List Bytes} {ending : Ending}

private theorem readHeadFor_shaped {buffer buffer' : Bytes} (lengths : buffer.length = buffer'.length)
    (shaped : Shaped pieces pieces')
    (ends : headEnd (buffer ++ pieces.flatten) = headEnd (buffer' ++ pieces'.flatten)) (reads : Nat) :
    (∃ error rest rest', readHeadFor (.inPieces pieces ending) buffer reads = (.error error, rest) ∧
      readHeadFor (.inPieces pieces' ending) buffer' reads = (.error error, rest')) ∨
    ∃ lead lead' leftover leftover' rest rest',
      readHeadFor (.inPieces pieces ending) buffer reads = (.ok (lead, leftover), .inPieces rest ending) ∧
      readHeadFor (.inPieces pieces' ending) buffer' reads = (.ok (lead', leftover'), .inPieces rest' ending) ∧
      lead.length = lead'.length ∧ leftover.length = leftover'.length ∧ Shaped rest rest' := by
  induction reads generalizing pieces pieces' buffer buffer' with
  | zero => exact .inl ⟨_, _, _, rfl, rfl⟩
  | succ reads ih =>
    have here : headEnd buffer = headEnd buffer' := by
      rw [headEnd_front buffer pieces.flatten, headEnd_front buffer' pieces'.flatten, ends, lengths]
    rw [readHeadFor, readHeadFor, ← here]
    cases headEnd buffer with
    | some length =>
      right
      refine ⟨_, _, _, _, pieces, pieces', rfl, rfl, ?_, ?_, shaped⟩
      · rw [List.length_take, List.length_take, lengths]
      · rw [List.length_drop, List.length_drop, lengths]
    | none =>
      rw [← lengths]
      by_cases long : headLimit < buffer.length
      · simp only [if_pos long]
        exact .inl ⟨_, _, _, rfl, rfl⟩
      · simp only [if_neg long]
        rcases Source.read_shaped shaped ending headReadSize with
          ⟨piece, piece', rest, rest', got, got', same, more⟩ | ⟨none, none'⟩
        · have bytes := congrArg Stream.bytes (Source.read_stream (by decide) got).2
          have bytes' := congrArg Stream.bytes (Source.read_stream (by decide) got').2
          simp only [Source.inPieces_stream, Stream.prepend_bytes] at bytes bytes'
          simp only [got, got']
          refine ih ?_ more ?_
          · rw [List.length_append, List.length_append, lengths, same]
          · rw [List.append_assoc, List.append_assoc, ← bytes, ← bytes', ends]
        · left
          simp only [Source.read_inPieces_nil none, Source.read_inPieces_nil none']
          cases ending with
          | closed => exact ⟨_, _, _, rfl, rfl⟩
          | failing cause => exact ⟨_, _, _, rfl, rfl⟩

/-- Heads that end in the same place are found by the same read, or found neither. -/
theorem readHead_shaped (ending : Ending) (shaped : Shaped pieces pieces')
    (ends : headEnd pieces.flatten = headEnd pieces'.flatten) :
    (∃ error rest rest', readHead (.inPieces pieces ending) = (.error error, rest) ∧
      readHead (.inPieces pieces' ending) = (.error error, rest')) ∨
    ∃ lead lead' leftover leftover' rest rest',
      readHead (.inPieces pieces ending) = (.ok (lead, leftover), .inPieces rest ending) ∧
      readHead (.inPieces pieces' ending) = (.ok (lead', leftover'), .inPieces rest' ending) ∧
      lead.length = lead'.length ∧ leftover.length = leftover'.length ∧ Shaped rest rest' :=
  readHeadFor_shaped rfl shaped ends (headLimit + 2)

/-! ## Bodies of some length -/

/-- Bodies of the same length are read in step: both fail, or both are found, and bytes beyond both were taken or beyond
neither. -/
theorem readBody_length_shaped (ending : Ending) (length : Nat) {leftover leftover' : Bytes}
    (lengths : leftover.length = leftover'.length) (shaped : Shaped pieces pieces') :
    (∃ error error' rest rest', readBody (.length length) leftover (.inPieces pieces ending) = (.error error, rest) ∧
      readBody (.length length) leftover' (.inPieces pieces' ending) = (.error error', rest')) ∨
    ∃ body body' exact rest rest',
      readBody (.length length) leftover (.inPieces pieces ending) = (.ok (body, exact), .inPieces rest ending) ∧
      readBody (.length length) leftover' (.inPieces pieces' ending) = (.ok (body', exact), .inPieces rest' ending) ∧
      (exact = true → length ≤ body.length ∧ body.length = body'.length ∧
        leftover ++ pieces.flatten = body ++ rest.flatten ∧ leftover' ++ pieces'.flatten = body' ++ rest'.flatten) := by
  rw [readBody, readBody, ← lengths]
  by_cases surplus : length < leftover.length
  · rw [if_pos surplus, if_pos surplus]
    right
    refine ⟨_, _, false, pieces, pieces', rfl, rfl, ?_⟩
    intro exact
    contradiction
  · rw [if_neg surplus, if_neg surplus]
    rcases Source.gather_shaped shaped ending length lengths with
      ⟨cause, rest, rest', found, found'⟩ | ⟨body, body', rest, rest', found, found', same, bytes, bytes'⟩
    · simp only [found, found']
      exact .inl ⟨_, _, _, _, rfl, rfl⟩
    · simp only [found, found', ← same]
      by_cases short : body.length < length
      · simp only [if_pos short]
        exact .inl ⟨_, _, _, _, rfl, rfl⟩
      · simp only [if_neg short]
        right
        refine ⟨body, body', true, rest, rest', rfl, rfl, ?_⟩
        intro _
        exact ⟨Nat.le_of_not_lt short, same, bytes, bytes'⟩

end

end Http

end EngineClient
