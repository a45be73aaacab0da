import EngineClient.Proofs.Http.HeadParsing
import EngineClient.Proofs.Http.Message
import EngineClient.Proofs.Http.Tokens
import EngineClient.Proofs.Text.Numerals
/-!
# Responses on the wire

A response that is put together from a status line, fields that announce the length of its body, and the body is a
message with these parts (`SentResponse.WellFormed.message`), so it is read back however it is cut into pieces.
-/

namespace EngineClient.Http

/-- A response as it is sent: among its fields one announces the length of the body. -/
structure SentResponse where
  version : Version
  code : Nat
  reason : Bytes
  before : List (String × Bytes)
  /-- The name of the announcing field, in letters of either case. -/
  lengthName : String
  /-- The announced length, which may have leading zeros. -/
  digits : String
  after : List (String × Bytes)
  body : Bytes
deriving Repr, DecidableEq

namespace SentResponse

/-- All fields in their order. -/
def fields (r : SentResponse) : List (String × Bytes) := r.before ++ (r.lengthName, Text.encode r.digits) :: r.after

/-- The bytes before the body. -/
def head (r : SentResponse) : Bytes := heading (statusLine r.version r.code r.reason :: r.fields.map namedLine)

/-- All bytes. -/
def wire (r : SentResponse) : Bytes := r.head ++ r.body

/-- What a peer keeps to that sends a final response with a body whose length it announces once. -/
structure WellFormed (r : SentResponse) : Prop where
  final : 200 ≤ r.code ∧ r.code ≤ 999
  hasBody : r.code ≠ 204 ∧ r.code ≠ 304
  reason : ∀ b ∈ r.reason, Headers.isValueByte b = true
  sendable : ∀ field ∈ r.before ++ r.after, Sendable field
  others : ∀ field ∈ r.before ++ r.after,
    Text.lower field.1 ≠ "content-length" ∧ Text.lower field.1 ≠ "transfer-encoding"
  few : (r.before ++ r.after).length ≤ 95
  announces : Text.lower r.lengthName = "content-length"
  decimal : r.digits ≠ "" ∧ ∀ c ∈ r.digits.toList, c.isDigit = true
  exact : Nat.ofDigitChars 10 r.digits.toList 0 = r.body.length
  /-- The number of bytes of a body that fits into memory is a 64-bit number. -/
  fits : r.body.length < Text.limit64

end SentResponse

/-! ## The head as a whole -/

theorem solid_lines {version : Version} {code : Nat} {reason : Bytes} {fields : List (String × Bytes)}
    (legal : ∀ b ∈ reason, Headers.isValueByte b = true) (sendable : ∀ field ∈ fields, Sendable field) :
    ∀ line ∈ statusLine version code reason :: fields.map namedLine, Solid line := by
  rw [List.forall_mem_cons]
  constructor
  · have versionLine : InLine (Text.encode version.text) := by
      refine (inLine_encode (visible_of_all ?_)).1
      cases version <;> decide
    have codeLine := inLine_toString code
    have reasonLine := inLine_value legal
    refine ⟨by simp [statusLine], ?_, ?_⟩
    · simp only [statusLine, List.mem_append, List.mem_cons, versionLine.1, codeLine.1, reasonLine.1]
      decide
    · simp only [statusLine, List.mem_append, List.mem_cons, versionLine.2, codeLine.2, reasonLine.2]
      decide
  · intro line member
    obtain ⟨field, listed, rfl⟩ := List.mem_map.mp member
    have sent := sendable field listed
    have name := (inLine_encode fun c among => (token_visible (sent.token c among)).1).1
    exact solid_fieldLine name (inLine_value sent.legal)

private theorem named_of_fits {version : Version} {code : Nat} {reason : Bytes} {fields : List (String × Bytes)}
    (sendable : ∀ field ∈ fields, Sendable field)
    (fits : (heading (statusLine version code reason :: fields.map namedLine)).length ≤ headLimit) :
    ∀ field ∈ fields, Headers.normalName field.1 = some (Text.lower field.1) := by
  intro field listed
  have sent := sendable field listed
  refine Headers.normalName_eq_some_iff.mpr ⟨⟨sent.filled, sent.token, ?_⟩, rfl⟩
  -- A name that is too long does not fit into a head within the limit.
  have written : namedLine field ∈ statusLine version code reason :: fields.map namedLine :=
    List.mem_cons_of_mem _ (List.mem_map_of_mem listed)
  have inside := length_line_le written
  have bytes := congrArg List.length (Text.encode_ascii fun c among => (token_visible (sent.token c among)).2.1)
  rw [List.length_map, String.length_toList] at bytes
  simp only [namedLine, fieldLine, List.length_append, bytes] at inside
  rw [headLimit] at fits
  rw [Headers.maxNameLength]
  omega

/-! ## The announced length -/

private theorem contentLength_digits {version : Version} {status : Status} {headers : Headers} {text : String}
    {length : Nat} (announced : headers.values "content-length" = [Text.encode text]) (filled : text ≠ "")
    (digits : ∀ c ∈ text.toList, c.isDigit = true) (value : Nat.ofDigitChars 10 text.toList 0 = length)
    (small : length < Text.limit64) : Head.contentLength ⟨version, status, headers⟩ = .ok (some length) := by
  have figures : ∀ c ∈ text.toList, 48 ≤ c.toNat ∧ c.toNat ≤ 57 := fun c member => Text.digit_bounds (digits c member)
  have shown : Headers.visibleText (Text.encode text) = some text :=
    visibleText_encode fun c member => by
      have := figures c member
      omega
  have written : Text.Decimal length text := ⟨filled, digits, value⟩
  simp only [Head.contentLength, announced, shown, Option.bind_some, Text.trim_of_bounds written.unpadded, written.read,
    if_pos small]

/-! ## Reading a response back -/

namespace SentResponse
variable {r : SentResponse}

private theorem token_of_announces {name : String} (announces : Text.lower name = "content-length") :
    ∀ c ∈ name.toList, isTokenChar c = true := by
  intro c member
  have lowered : Text.lowerAscii c ∈ "content-length".toList := by
    rw [← announces, Text.lower, String.toList_ofList]
    exact List.mem_map_of_mem member
  rw [Text.lowerAscii] at lowered
  split_ifs at lowered with upper
  · have letters : ∀ n < 91, 65 ≤ n → isTokenChar (Char.ofNat n) = true := by decide
    have token := letters c.toNat (Nat.lt_succ_of_le upper.2) upper.1
    rwa [Char.ofNat_toNat] at token
  · exact of_contains (List.contains_iff_mem.mpr lowered) (by decide)

private theorem figures_sendable {name text : String} (announces : Text.lower name = "content-length")
    (digits : ∀ c ∈ text.toList, c.isDigit = true) : Sendable (name, Text.encode text) := by
  have figures : ∀ b ∈ Text.encode text, 48 ≤ b.toNat ∧ b.toNat ≤ 57 := by
    have range : ∀ c ∈ text.toList, 48 ≤ c.toNat ∧ c.toNat ≤ 57 := fun c member => Text.digit_bounds (digits c member)
    rw [Text.encode_ascii fun c member => by have := range c member; omega]
    intro b member
    obtain ⟨c, listed, rfl⟩ := List.mem_map.mp member
    have bounds := range c listed
    simp only [UInt8.toNat_ofNat']
    omega
  have plain : ∀ b ∈ Text.encode text, Headers.isValueByte b = true ∧ Head.isPad b = false := by
    intro b member
    have small : ∀ n < 58, 48 ≤ n →
        Headers.isValueByte (UInt8.ofNat n) = true ∧ Head.isPad (UInt8.ofNat n) = false := by decide
    have bounds := figures b member
    have known := small b.toNat (by omega) bounds.1
    rwa [UInt8.ofNat_toNat] at known
  refine ⟨?_, token_of_announces announces, fun b member => (plain b member).1, ?_, ?_⟩
  · rintro rfl
    exact absurd announces (by decide)
  · exact fun b first => (plain b (List.mem_of_mem_head? first)).2
  · exact fun b last => (plain b (List.mem_of_getLast? last)).2

theorem WellFormed.sendable_fields (formed : r.WellFormed) : ∀ field ∈ r.fields, Sendable field := by
  intro field listed
  rcases List.mem_append.mp listed with before | rest
  · exact formed.sendable field (List.mem_append_left _ before)
  · rcases List.mem_cons.mp rest with rfl | after
    · exact figures_sendable formed.announces formed.decimal.2
    · exact formed.sendable field (List.mem_append_right _ after)

theorem WellFormed.lead (formed : r.WellFormed) : Lead r.head :=
  lead_heading (List.cons_ne_nil _ _) (solid_lines formed.reason formed.sendable_fields)

/-- Only the announcing field has its name, and none has that of a coding. -/
theorem WellFormed.valuesIn_fields (formed : r.WellFormed) :
    valuesIn r.fields "content-length" = [Text.encode r.digits] ∧ valuesIn r.fields "transfer-encoding" = [] := by
  have none {part : List (String × Bytes)} {name : String} (apart : ∀ field ∈ part, Text.lower field.1 ≠ name) :
      part.filter (fun field => Text.lower field.1 == name) = [] :=
    List.filter_eq_nil_iff.mpr fun field listed => by simpa using apart field listed
  have left := fun field listed => formed.others field (List.mem_append_left _ listed)
  have right := fun field listed => formed.others field (List.mem_append_right _ listed)
  constructor
  · simp [valuesIn, fields, none fun field listed => (left field listed).1,
      none fun field listed => (right field listed).1, formed.announces]
  · simp [valuesIn, fields, none fun field listed => (left field listed).2,
      none fun field listed => (right field listed).2, formed.announces]

/-- The bytes of a response are a message with its version, status, fields by name, and body. -/
theorem WellFormed.message (formed : r.WellFormed) (short : r.head.length ≤ headLimit) {method : Method}
    (notHead : method.isHead = false) :
    Message method (.length r.body.length) false r.wire ⟨⟨r.version, ⟨r.code⟩, ⟨gathered r.fields⟩⟩, r.body⟩ := by
  have sendable := formed.sendable_fields
  obtain ⟨announced, uncoded⟩ := formed.valuesIn_fields
  have final := formed.final
  have few : r.fields.length ≤ headerLimit := by
    have := formed.few
    simp only [fields, headerLimit, List.length_append, List.length_cons] at *
    omega
  refine .mk formed.lead
    (Head.parse_heading ⟨by omega, by omega⟩ formed.reason sendable few (named_of_fits sendable short)) ?_ (.length rfl)
  have bodied : (Status.mk r.code).isBodiless = false := by
    have hasBody := formed.hasBody
    simp [Status.isBodiless, Status.isInformational, hasBody.1, hasBody.2]
    omega
  have unchunked : Head.isChunked ⟨r.version, ⟨r.code⟩, ⟨gathered r.fields⟩⟩ = false := by
    simp [Head.isChunked, Headers.elements, Headers.values_gathered, uncoded]
  have length : Head.contentLength ⟨r.version, ⟨r.code⟩, ⟨gathered r.fields⟩⟩ = .ok (some r.body.length) :=
    contentLength_digits ((Headers.values_gathered r.fields "content-length").trans announced) formed.decimal.1
      formed.decimal.2 formed.exact formed.fits
  simp [framing, notHead, bodied, unchunked, length, Except.map]

end SentResponse

/-- A response with one announced length is read back from its bytes, cut into pieces in any way and however the
stream ends after them: version, status and body as they are, and every name with its values in their order. -/
theorem answer_wire {r : SentResponse} (formed : r.WellFormed) (short : r.head.length ≤ headLimit) {method : Method}
    (notHead : method.isHead = false) {pieces : List Bytes} (cut : pieces.flatten = r.wire) (ending : Ending) :
    answer method (.inPieces pieces ending) = .ok ⟨⟨r.version, ⟨r.code⟩, ⟨gathered r.fields⟩⟩, r.body⟩ := by
  have message := formed.message short notHead
  rcases answer_complete ending message (cut.trans (List.append_nil _).symm) (by simp) with
    answered | ⟨lead, isLead, ⟨rest, starts⟩, long, -⟩
  · exact answered
  · -- The bytes begin with one head only, and that is short enough.
    obtain ⟨rfl, -⟩ := isLead.unique formed.lead starts
    exact absurd short (Nat.not_le_of_lt long)

/-- Names in letters of either case, an empty value, bytes above ASCII, leading zeros; byte by byte. -/
theorem answer_wire_mixedCase :
    ∃ r : SentResponse, r.WellFormed ∧ r.head.length ≤ headLimit ∧ Method.get.isHead = false ∧
      answer .get (.inPieces (r.wire.map ([·])) (.failing .tryAgain)) =
        .ok ⟨⟨.http10, ⟨299⟩, ⟨[("x-tag", [[0x61, 0x09, 0xFF], []]), ("content-length", [Text.encode "03"]),
          ("accept", [[0x62]])]⟩⟩, [0x0D, 0x0A, 0x0D]⟩ := by
  let r : SentResponse := ⟨.http10, 299, [], [("X-Tag", [0x61, 0x09, 0xFF])], "content-Length", "03",
    [("Accept", [0x62]), ("x-tAG", [])], [0x0D, 0x0A, 0x0D]⟩
  have formed : r.WellFormed :=
    { final := by decide
      hasBody := by decide
      reason := List.forall_mem_nil _
      sendable := by decide
      others := by decide
      few := by decide
      announces := by decide
      decimal := ⟨by decide, List.all_eq_true.mp (by decide)⟩
      exact := by decide
      fits := by decide }
  have short : r.head.length ≤ headLimit := by decide +kernel
  have cut : (r.wire.map ([·])).flatten = r.wire := by decide +kernel
  have kept : gathered r.fields =
      [("x-tag", [[0x61, 0x09, 0xFF], []]), ("content-length", [Text.encode "03"]), ("accept", [[0x62]])] := by
    decide +kernel
  have read : answer .get (.inPieces (r.wire.map ([·])) (.failing .tryAgain)) =
      .ok ⟨⟨r.version, ⟨r.code⟩, ⟨gathered r.fields⟩⟩, r.body⟩ := answer_wire formed short rfl cut _
  rw [kept] at read
  exact ⟨r, formed, short, rfl, read⟩

end EngineClient.Http
