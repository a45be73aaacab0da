import EngineClient.Proofs.Http.Message
import EngineClient.Proofs.Http.Tokens
import EngineClient.Proofs.Text.Numerals
/-!
# Fields of lengths

Which texts announce the length of a body (`framing_length_iff`) and the size of a chunk (`Chunked.coded_iff`): digits,
or digits behind a plus sign. Of several lengths the first alone is read.
-/

namespace EngineClient.Http

/-! ## The length of a body -/

/-- Responses that have a body, as far as method and status tell, whose end no chunks tell. -/
structure Unchunked (method : Method) (head : Head) : Prop where
  notHead : method.isHead = false
  hasBody : head.status.isBodiless = false
  plain : ¬ Token head.headers "transfer-encoding" "chunked"

theorem Head.contentLength_eq_some_iff {head : Head} {length : Nat} :
    head.contentLength = .ok (some length) ↔
      length < Text.limit64 ∧ ∃ value others text digits,
        head.headers.values "content-length" = value :: others ∧ Headers.visibleText value = some text ∧
        Text.Decimal length digits ∧ (Text.trim text = digits ∨ Text.trim text = "+" ++ digits) := by
  rw [contentLength]
  rcases values : head.headers.values "content-length" with - | ⟨value, others⟩
  · simp
  · rcases visible : Headers.visibleText value with - | text
    · simp [visible]
    · have numeral : Text.decimal Text.limit64 (Text.trim text) = some length ↔ _ := Text.decimal_eq_some_iff
      rcases found : Text.decimal Text.limit64 (Text.trim text) with - | announced
      · rw [found] at numeral
        simpa [visible, found] using numeral
      · rw [found] at numeral
        simpa [visible, found] using numeral

/-- The length of a body is announced by the first value of its header, in digits or in digits behind a plus sign. -/
theorem framing_length_iff {method : Method} {head : Head} {length : Nat} :
    framing method head = .ok (.length length) ↔
      Unchunked method head ∧ length < Text.limit64 ∧ ∃ value others text digits,
        head.headers.values "content-length" = value :: others ∧ Headers.visibleText value = some text ∧
        Text.Decimal length digits ∧ (Text.trim text = digits ∨ Text.trim text = "+" ++ digits) := by
  rw [← Head.contentLength_eq_some_iff]
  have chunked : head.isChunked = true ↔ Token head.headers "transfer-encoding" "chunked" := elements_iff (by decide +kernel)
  have unchunked : Unchunked method head ↔
      (method.isHead || head.status.isBodiless) = false ∧ head.isChunked = false := by
    rw [Bool.or_eq_false_iff, ← Bool.not_eq_true head.isChunked, chunked]
    exact ⟨fun ⟨notHead, hasBody, plain⟩ => ⟨⟨notHead, hasBody⟩, plain⟩,
      fun ⟨⟨notHead, hasBody⟩, plain⟩ => ⟨notHead, hasBody, plain⟩⟩
  rw [unchunked, framing]
  cases method.isHead || head.status.isBodiless with
  | true => simp
  | false =>
    cases head.isChunked with
    | true => simp
    | false =>
      rcases head.contentLength with fault | - | announced
      · simp [Except.map]
      · simp [Except.map]
      · simp [Except.map]

/-! ## The sizes of chunks -/

namespace Chunked

/-- How the bytes of a chunked body lie: lines, each of them in front of data and the last one in front of the trailer.
`sizes` has the lines and the number of bytes of data behind each. -/
inductive Sized : (cut : Bool) → (wire body : Bytes) → (sizes : List (String × Nat)) → Prop
  | last {cut : Bool} {line trailer : Bytes} {text : String} (isLine : Line false line)
      (decoded : Text.decode line = .ok text) (trails : Trailer cut trailer) :
      Sized cut (line ++ trailer) [] [(text, 0)]
  | lastCut {line : Bytes} {text : String} (isLine : Line true line) (decoded : Text.decode line = .ok text) :
      Sized true line [] [(text, 0)]
  | chunk {cut : Bool} {line data wire body : Bytes} {text : String} {sizes : List (String × Nat)}
      (isLine : Line false line) (decoded : Text.decode line = .ok text) (some : data ≠ [])
      (rest : Sized cut wire body sizes) :
      Sized cut (line ++ (data ++ ([0x0D, 0x0A] ++ wire))) (data ++ body) ((text, data.length) :: sizes)

/-- The field of a size line writes the number: in digits, or in digits behind a plus sign. -/
def Writes (text : String) (size : Nat) : Prop :=
  ∃ digits, Text.Hexadecimal size digits ∧ (sizeField text = digits ∨ sizeField text = "+" ++ digits)

theorem readSize_eq_ok_iff {text : String} {size : Nat} :
    readSize text = .ok size ↔ size < Text.limit64 ∧ Writes text size := by
  rw [Writes, ← Text.hexadecimal_eq_some_iff, readSize]
  cases Text.hexadecimal Text.limit64 (sizeField text) with
  | none => simp
  | some announced => simp

private theorem Coded.sized {cut : Bool} {start : Nat} {wire body : Bytes} (coded : Coded cut start wire body) :
    (body ≠ [] → start + body.length < Text.limit64) ∧
      ∃ sizes, Sized cut wire body sizes ∧ ∀ entry ∈ sizes, Writes entry.1 entry.2 := by
  induction coded with
  | last size trails =>
    obtain ⟨isLine, text, decoded, announced⟩ := size
    refine ⟨by simp, _, .last isLine decoded trails, ?_⟩
    simpa using (readSize_eq_ok_iff.mp announced).2
  | lastCut size =>
    obtain ⟨isLine, text, decoded, announced⟩ := size
    refine ⟨by simp, _, .lastCut isLine decoded, ?_⟩
    simpa using (readSize_eq_ok_iff.mp announced).2
  | @chunk cut start line data wire body size some fits coded ih =>
    obtain ⟨isLine, text, decoded, announced⟩ := size
    obtain ⟨small, sizes, sized, written⟩ := ih
    refine ⟨fun _ => ?_, _, .chunk isLine decoded some sized, ?_⟩
    · rw [List.length_append]
      by_cases none : body = []
      · simpa [none] using fits
      · have := small none
        omega
    · exact List.forall_mem_cons.mpr ⟨(readSize_eq_ok_iff.mp announced).2, written⟩

private theorem Sized.coded {cut : Bool} {wire body : Bytes} {sizes : List (String × Nat)}
    (sized : Sized cut wire body sizes) (written : ∀ entry ∈ sizes, Writes entry.1 entry.2) {start : Nat}
    (fits : start + body.length < Text.limit64) : Coded cut start wire body := by
  have announces {text : String} {size : Nat} (small : size < Text.limit64) (writes : Writes text size) :
      readSize text = .ok size := readSize_eq_ok_iff.mpr ⟨small, writes⟩
  induction sized generalizing start with
  | last isLine decoded trails =>
    exact .last ⟨isLine, _, decoded, announces (by decide) (written _ List.mem_cons_self)⟩ trails
  | lastCut isLine decoded =>
    exact .lastCut ⟨isLine, _, decoded, announces (by decide) (written _ List.mem_cons_self)⟩
  | @chunk cut line data wire body text sizes isLine decoded some sized ih =>
    rw [List.length_append] at fits
    obtain ⟨here, later⟩ := List.forall_mem_cons.mp written
    exact .chunk ⟨isLine, text, decoded, announces (by omega) here⟩ some (by omega) (ih later (by omega))

/-- The bytes of a chunked body are those whose lines write the sizes of what stands behind them. -/
theorem coded_iff {cut : Bool} {wire body : Bytes} :
    Coded cut 0 wire body ↔ body.length < Text.limit64 ∧
      ∃ sizes, Sized cut wire body sizes ∧ ∀ entry ∈ sizes, Writes entry.1 entry.2 := by
  constructor
  · intro coded
    obtain ⟨small, sized⟩ := coded.sized
    refine ⟨?_, sized⟩
    by_cases none : body = []
    · simp [none, Text.limit64]
    · simpa using small none
  · rintro ⟨small, sizes, sized, written⟩
    exact sized.coded written (by simpa using small)

end Chunked

/-! ## Responses -/

/-- The fields by which a response that was read tells its length. A length is announced by the first value of its
header, whatever the other values say, and the body is as long; the body is in chunks where each size line announces
the data behind it. Both numbers are written in digits or in digits behind a plus sign. -/
theorem length_fields_of_response {method : Method} {source rest : Source} {exchange : Exchange}
    (read : readResponse method source = (.ok exchange, rest)) :
    (∀ length, framing method exchange.response.head = .ok (.length length) ↔
      Unchunked method exchange.response.head ∧ length = exchange.response.body.length ∧ length < Text.limit64 ∧
      ∃ value others text digits, exchange.response.head.headers.values "content-length" = value :: others ∧
        Headers.visibleText value = some text ∧ Text.Decimal length digits ∧
        (Text.trim text = digits ∨ Text.trim text = "+" ++ digits)) ∧
    (framing method exchange.response.head = .ok .chunked →
      exchange.response.body.length < Text.limit64 ∧
      ∃ lead cut wire surplus sizes, Lead lead ∧ source.stream.Takes (lead ++ wire) cut (rest.stream.prepend surplus) ∧
        Chunked.Sized cut wire exchange.response.body sizes ∧
        ∀ entry ∈ sizes, ∃ digits, Text.Hexadecimal entry.2 digits ∧
          (Chunked.sizeField entry.1 = digits ∨ Chunked.sizeField entry.1 = "+" ++ digits)) := by
  obtain ⟨form, cut, wire, surplus, message, takes, -⟩ := readResponse_sound read
  obtain ⟨lead, _, body, isLead, -, rfl, carried⟩ := message.parts
  have framed := message.framed
  constructor
  · intro length
    have announced : framing method exchange.response.head = .ok (.length length) ↔ _ := framing_length_iff
    constructor
    · intro sized
      obtain ⟨unchunked, small, written⟩ := announced.mp sized
      refine ⟨unchunked, ?_, small, written⟩
      rw [sized, Except.ok.injEq] at framed
      subst framed
      cases carried with
      | length exact => exact exact.symm
    · rintro ⟨unchunked, -, small, written⟩
      exact announced.mpr ⟨unchunked, small, written⟩
  · intro chunked
    rw [chunked, Except.ok.injEq] at framed
    subst framed
    cases carried with
    | chunked coded =>
      obtain ⟨small, sizes, sized, written⟩ := Chunked.coded_iff.mp coded
      exact ⟨small, lead, cut, body, surplus, sizes, isLead, takes, sized, written⟩

/-- A length with a sign, and behind it another that does not agree. -/
private def signedLength : Source :=
  .inPieces [Text.encode "HTTP/1.1 200 OK\r\nContent-Length:  +02\r\nContent-Length: 7\r\n\r\nhi"] .closed

private def signedHead : Head :=
  ⟨.http11, ⟨200⟩, ⟨[("content-length", [Text.encode "+02", Text.encode "7"])]⟩⟩

private theorem readResponse_signedLength :
    readResponse .get signedLength = (.ok ⟨⟨signedHead, Text.encode "hi"⟩, true⟩, .inPieces [] .closed) := by
  decide +kernel

theorem length_fields_of_response_signed :
    readResponse .get signedLength = (.ok ⟨⟨signedHead, Text.encode "hi"⟩, true⟩, .inPieces [] .closed) ∧
    (∀ length, framing .get signedHead = .ok (.length length) ↔
      Unchunked .get signedHead ∧ length = (Text.encode "hi").length ∧ length < Text.limit64 ∧
      ∃ value others text digits, signedHead.headers.values "content-length" = value :: others ∧
        Headers.visibleText value = some text ∧ Text.Decimal length digits ∧
        (Text.trim text = digits ∨ Text.trim text = "+" ++ digits)) ∧
    (framing .get signedHead = .ok .chunked →
      (Text.encode "hi").length < Text.limit64 ∧
      ∃ lead cut wire surplus sizes, Lead lead ∧
        signedLength.stream.Takes (lead ++ wire) cut ((Source.inPieces [] .closed).stream.prepend surplus) ∧
        Chunked.Sized cut wire (Text.encode "hi") sizes ∧
        ∀ entry ∈ sizes, ∃ digits, Text.Hexadecimal entry.2 digits ∧
          (Chunked.sizeField entry.1 = digits ∨ Chunked.sizeField entry.1 = "+" ++ digits)) :=
  ⟨readResponse_signedLength, length_fields_of_response readResponse_signedLength⟩

/-- Not every value that announces the length of a body is digits alone. -/
theorem signed_length_taken :
    ¬ ∀ (method : Method) (source rest : Source) (exchange : Exchange) (length : Nat),
      readResponse method source = (.ok exchange, rest) →
      framing method exchange.response.head = .ok (.length length) →
        ∀ value ∈ exchange.response.head.headers.values "content-length",
          ∃ text, Headers.visibleText value = some text ∧ Text.Decimal length (Text.trim text) := by
  intro strict
  have framed : framing .get signedHead = .ok (.length 2) := by decide +kernel
  have listed : Text.encode "+02" ∈ signedHead.headers.values "content-length" := by decide +kernel
  obtain ⟨text, visible, written⟩ := strict _ _ _ _ 2 readResponse_signedLength framed _ listed
  have shown : Headers.visibleText (Text.encode "+02") = some "+02" := by decide +kernel
  rw [shown, Option.some.injEq] at visible
  subst visible
  have sign : '+' ∈ (Text.trim "+02").toList := by decide +kernel
  exact absurd (written.figures '+' sign) (by decide)

end EngineClient.Http
