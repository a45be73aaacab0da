import EngineClient.Proofs.Http.Message
/-!
# Segmentation

How the bytes of a stream are cut into the pieces that single reads answer with does not matter
(`answer_segmentation`), and neither does what comes behind a message that has ended.
-/

namespace EngineClient.Http

/-- Two ways of cutting one stream into pieces have the same answer. -/
private theorem answer_congr {pieces pieces' : List Bytes} (same : pieces.flatten = pieces'.flatten)
    (fits : ∀ lead, Lead lead → lead <+: pieces.flatten → lead.length ≤ headLimit) (method : Method)
    (ending : Ending) : answer method (.inPieces pieces ending) = answer method (.inPieces pieces' ending) := by
  cases found : headEnd pieces.flatten with
  | none =>
    have headless := readHead_none ending found
    have headless' := readHead_none ending (same ▸ found)
    rw [answer_of_headless headless, answer_of_headless headless', same]
  | some length =>
    obtain ⟨lead, rest, isLead, bytes, -⟩ := headEnd_eq_some_iff.mp found
    have short := fits lead isLead ⟨rest, bytes.symm⟩
    rcases answer_lead method ending isLead bytes with answered | ⟨long, -⟩
    · rcases answer_lead method ending isLead (same.symm.trans bytes) with
        answered' | ⟨long, -⟩
      · rw [answered, answered']
      · omega
    · omega

/-- Of a stream whose head is within the limit, the reader answers the same however it is cut into pieces.
When the stream begins with a message that its own framing ends, that message is the answer whatever comes
behind it: more bytes, the end of the stream, or reads that all fail. -/
theorem answer_segmentation (method : Method) (s : Bytes)
    (fits : ∀ lead, Lead lead → lead <+: s → lead.length ≤ headLimit) :
    (∀ (pieces pieces' : List Bytes) (ending : Ending), pieces.flatten = s → pieces'.flatten = s →
      answer method (.inPieces pieces ending) = answer method (.inPieces pieces' ending)) ∧
    (∀ (form : Framing) (wire : Bytes) (response : Response), Message method form false wire response → wire <+: s →
      ∀ (pieces : List Bytes) (more : Bytes) (ending : Ending), pieces.flatten = wire ++ more →
        answer method (.inPieces pieces ending) = .ok response) := by
  constructor
  · rintro pieces pieces' ending rfl same
    exact answer_congr same.symm fits method ending
  · intro form wire response message begins pieces more ending bytes
    rcases answer_complete ending message bytes (by simp) with
      answered | ⟨lead, isLead, starts, long, -⟩
    · exact answered
    · have short := fits lead isLead (starts.trans begins)
      omega

/-- The head of a response that announces two bytes. -/
private def twoBytesHead : Bytes := Text.encode "HTTP/1.1 200 OK\r\nContent-Length: 2\r\n\r\n"

private def twoBytes : Response :=
  ⟨⟨.http11, ⟨200⟩, ⟨[("content-length", [Text.encode "2"])]⟩⟩, Text.encode "hi"⟩

private theorem twoBytes_message : Message .get (.length 2) false (twoBytesHead ++ Text.encode "hi") twoBytes :=
  have parsed : Head.parse twoBytesHead = .ok (twoBytes.head, []) := by decide +kernel
  .mk (by simp only [Lead]; decide +kernel) parsed (by decide +kernel) (.length (by decide +kernel))

/-- Byte by byte or at once, and with nothing but failures behind it. -/
theorem answer_segmentation_twoBytes :
    (∀ lead, Lead lead → lead <+: twoBytesHead ++ Text.encode "hi" → lead.length ≤ headLimit) ∧
    answer .get (.inPieces [twoBytesHead ++ Text.encode "hi"] .closed) =
      answer .get (.inPieces ((twoBytesHead ++ Text.encode "hi").map ([·])) .closed) ∧
    answer .get (.inPieces [twoBytesHead, Text.encode "h", Text.encode "i more"] (.failing .tryAgain)) =
      .ok twoBytes := by
  have fits : ∀ lead, Lead lead → lead <+: twoBytesHead ++ Text.encode "hi" → lead.length ≤ headLimit :=
    fun _ _ starts => Nat.le_trans starts.length_le (by decide +kernel)
  obtain ⟨anyPieces, anyMore⟩ := answer_segmentation .get _ fits
  refine ⟨fits, anyPieces _ _ .closed (by decide +kernel) (by decide +kernel), ?_⟩
  exact anyMore _ _ _ twoBytes_message (List.prefix_refl _) _ (Text.encode " more") _ (by decide +kernel)

end EngineClient.Http
