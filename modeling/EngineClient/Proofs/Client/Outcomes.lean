import EngineClient.Proofs.Client.Connections
import EngineClient.Proofs.Pooling.AlikeReplies
/-!
# What a call comes to

The status and the body of a response decide what a call comes to (`Client.Decodes`, `Client.Pings`), and have no part in
what becomes of its connection: that is told by the framing, so that what the daemon refuses and what is no document
costs no connection (`ClientSession.call_outcome`).
-/

namespace EngineClient

/-- Whether a status is one of success. -/
def Http.Status.Good (status : Status) : Prop := 200 ≤ status.code ∧ status.code < 300

theorem Http.Status.isSuccess_iff {status : Status} : status.isSuccess = true ↔ status.Good := by
  simp [isSuccess, Good]

namespace Client

/-- What the daemon says of an error in a body: the text under `message` of the object that the whole body writes, or the
body as text when it writes no object with such a text. -/
inductive Tells (body : Bytes) : String → Prop
  | told {members : List (String × Json.Value)} {words : String} (wrote : Json.read .any body = .ok (.object members))
      (listed : members.lookup "message" = some (.text words)) : Tells body words
  | plain (untold : ∀ members words, Json.read .any body = .ok (.object members) →
      members.lookup "message" ≠ some (.text words)) : Tells body (Text.trim (Text.decodeLossy body))

/-- A call ends in an error of the daemon exactly when the status is none of success: with that status, and with what the
daemon says. -/
def Refuses {α : Type} (response : Http.Response) (outcome : Except ClientError α) : Prop :=
  ∀ status words, outcome = .error (.api status words) ↔
    ¬response.head.status.Good ∧ status = response.head.status ∧ Tells response.body words

/-- What a call for a document of some shape comes to with a response. -/
structure Decodes (shape : Json.Shape) (response : Http.Response) (outcome : Except ClientError Json.Value) : Prop where
  document : ∀ value, outcome = .ok value ↔
    response.head.status.Good ∧ Json.read shape response.body = .ok value
  other : (∃ fault, outcome = .error (.json fault)) ↔
    response.head.status.Good ∧ ∀ value, Json.read shape response.body ≠ .ok value
  refused : Refuses response outcome

/-- What asking whether the daemon is there comes to with a response. -/
structure Pings (response : Http.Response) (outcome : Except ClientError Bool) : Prop where
  told : ∀ isThere, outcome = .ok isThere ↔
    response.head.status.Good ∧ (isThere = true ↔ response.body = Text.encode "OK")
  refused : Refuses response outcome

/-! ## Words -/

theorem tells_errorWords (body : Bytes) : Tells body (errorWords body) := by
  unfold errorWords
  cases read : Json.read .any body with
  | error fault =>
    refine .plain ?_
    intro members words wrote
    cases read.symm.trans wrote
  | ok value =>
    simp only
    cases found : (value.member "message").bind Json.Value.asText with
    | none =>
      refine .plain ?_
      intro members words wrote listed
      obtain rfl := Except.ok.inj (read.symm.trans wrote)
      simp [Json.Value.member, listed, Json.Value.asText] at found
    | some words =>
      obtain ⟨member, listed, text⟩ := Option.bind_eq_some_iff.mp found
      cases value with
      | object members =>
        cases member with
        | text content =>
          obtain rfl := Option.some.inj text
          exact .told read listed
        | _ => cases text
      | _ => cases listed

theorem Tells.unique {body : Bytes} {words words' : String} (tells : Tells body words) (tells' : Tells body words') :
    words = words' := by
  cases tells with
  | told wrote listed =>
    cases tells' with
    | told wrote' listed' =>
      obtain rfl := Json.Value.object.inj (Except.ok.inj (wrote.symm.trans wrote'))
      exact Json.Value.text.inj (Option.some.inj (listed.symm.trans listed'))
    | plain untold => exact absurd listed (untold _ _ wrote)
  | plain untold =>
    cases tells' with
    | told wrote listed => exact absurd listed (untold _ _ wrote)
    | plain => rfl

/-! ## Responses -/

section
variable {response : Http.Response}

theorem checkStatus_of_good (good : response.head.status.Good) : checkStatus response = .ok response.body := by
  rw [checkStatus, if_pos (Http.Status.isSuccess_iff.mpr good)]

theorem checkStatus_of_not_good (bad : ¬response.head.status.Good) :
    checkStatus response = .error (.api response.head.status (errorWords response.body)) := by
  rw [checkStatus, if_neg (mt Http.Status.isSuccess_iff.mp bad)]

theorem refuses_of_good {α : Type} {outcome : Except ClientError α} (good : response.head.status.Good)
    (other : ∀ status words, outcome ≠ .error (.api status words)) : Refuses response outcome := by
  intro status words
  constructor
  · intro refused
    exact absurd refused (other status words)
  · rintro ⟨bad, -⟩
    exact absurd good bad

theorem refuses_of_not_good {α : Type} (bad : ¬response.head.status.Good) :
    Refuses response (.error (.api response.head.status (errorWords response.body)) : Except ClientError α) := by
  intro status words
  constructor
  · intro same
    cases same
    exact ⟨bad, rfl, tells_errorWords _⟩
  · rintro ⟨-, rfl, tells⟩
    rw [tells.unique (tells_errorWords _)]

end

theorem decodes_checkStatus (shape : Json.Shape) (response : Http.Response) :
    Decodes shape response (match checkStatus response with
      | .error error => .error error
      | .ok body => (Json.read shape body).mapError .json) := by
  by_cases good : response.head.status.Good
  · rw [checkStatus_of_good good]
    simp only
    cases read : Json.read shape response.body with
    | ok value =>
      refine ⟨?_, ?_, refuses_of_good good (by simp [Except.mapError])⟩
      · simp [Except.mapError, good, read]
      · simp [Except.mapError, read]
    | error fault =>
      refine ⟨?_, ?_, refuses_of_good good (by simp [Except.mapError])⟩
      · simp [Except.mapError, read]
      · simp [Except.mapError, good, read]
  · rw [checkStatus_of_not_good good]
    refine ⟨?_, ?_, refuses_of_not_good good⟩
    · simp [good]
    · simp [good]

theorem pings_checkStatus (response : Http.Response) :
    Pings response ((checkStatus response).map (· == Text.encode "OK")) := by
  by_cases good : response.head.status.Good
  · rw [checkStatus_of_good good]
    refine ⟨?_, refuses_of_good good (by simp [Except.map])⟩
    intro isThere
    cases isThere <;> simp [Except.map, good]
  · rw [checkStatus_of_not_good good]
    refine ⟨?_, refuses_of_not_good good⟩
    simp [Except.map, good]

/-! ## Calls -/

section
variable {client : Client} {path : String} {request : Http.Request} {w : World}
  (built : Http.Request.build "GET" (client.uriOf path) [] [] = .ok request)
include built

theorem method_of_built : request.method = .get := by
  obtain rfl := build_uriOf built
  rfl

/-- A call that gets a connection ends as its response says. -/
theorem outcome_of_lent {guard : Guard} {reply : Reply} {exchange : Http.Exchange} {rest : Source}
    (unsent : ∀ i, (w.connection i).Unsent) (lent : client.dispatcher.lendFor request w = .ok guard)
    (read : Http.readResponse .get reply.source = (.ok exchange, rest)) :
    (client.get path reply w).1.outcome = checkStatus exchange.response := by
  have sent := Dispatcher.send_eq unsent client.dispatcher request reply
  rw [lent] at sent
  simp only [Dispatcher.ownDelivery, method_of_built built, Http.answer, read] at sent
  simp only [get, built, sent, Except.map]

/-- What a call leaves is what its request leaves, whatever it comes to. -/
theorem get_leaves (reply : Reply) :
    (client.get path reply w).2 = ({ client with dispatcher := (client.dispatcher.send request reply w).2.1 },
      (client.dispatcher.send request reply w).2.2) := by
  simp only [get, built]

end

theorem getJson_leaves (client : Client) (shape : Json.Shape) (path : String) (reply : Reply) (w : World) :
    (client.getJson shape path reply w).2 = (client.get path reply w).2 := rfl

theorem ping_leaves (client : Client) (reply : Reply) (w : World) :
    (client.ping reply w).2 = (client.get "/_ping" reply w).2 := rfl

/-- Replies that are alike leave the client the same, whatever the calls come to. -/
theorem get_alike {reply reply' : Reply} (close : reply'.close = reply.close)
    (alike : Http.Alike .get reply.data reply'.data) (client : Client) (path : String) (w : World) :
    (client.get path reply' w).2.1 = (client.get path reply w).2.1 ∧
      (client.get path reply w).2.2.SameButUnread (client.get path reply' w).2.2 := by
  cases built : Http.Request.build "GET" (client.uriOf path) [] [] with
  | error fault =>
    simp only [get, built]
    exact ⟨trivial, .inl rfl⟩
  | ok request =>
    rw [← method_of_built built] at alike
    obtain ⟨pools, worlds⟩ := Dispatcher.send_alike close alike client.dispatcher w
    rw [get_leaves built, get_leaves built]
    exact ⟨congrArg (fun dispatcher => { client with dispatcher }) pools, worlds⟩

end Client

namespace ClientSession

/-- What calls come to, whatever was done with the client before. A call whose response is read comes to what the status
and the body say, and so does asking whether the daemon is there. Whichever that is, nothing is left lent, and the
connection is parked on top of its pool when the framing leaves it reusable, and closed when it does not. Replies that
differ in nothing but the digits of the status, of responses that may have a body, and the content of a body of announced
length leave the client the same; and a call leaves what its request leaves, however it reads the body. -/
theorem call_outcome {settings : Settings} {client : Client} (created : Client.create settings = .ok client)
    (helperEnvironment : Environment) (files : Files) (before : List ClientStep) :
    let s := (start { client with helperEnvironment } files).run before
    let d := s.client.dispatcher
    (∀ (path : String) (request : Http.Request) (guard : Guard) (reply : Reply) (exchange : Http.Exchange)
        (rest : Source),
      Http.Request.build "GET" (s.client.uriOf path) [] [] = .ok request →
      d.lendFor request s.world = .ok guard → Http.readResponse .get reply.source = (.ok exchange, rest) →
      (∀ shape, Client.Decodes shape exchange.response (s.client.getJson shape path reply s.world).1.outcome) ∧
      (path = "/_ping" → Client.Pings exchange.response (s.client.ping reply s.world).1.outcome) ∧
      (∃ front more, Http.StatusFront front ∧
        reply.data = front ++ (exchange.response.head.status.digits ++ more)) ∧
      let i := (d.lookup defaultPoolKey s.world).1
      let after := (s.client.get path reply s.world).2
      (∀ j, (after.1.dispatcher.pool j).lent = []) ∧
      ∃ others, guard.channel ∉ others ∧
        (after.1.dispatcher.pool i).idle = (if exchange.reusable then guard.channel :: others else others) ∧
        (after.2.channel guard.channel).held = exchange.reusable) ∧
    (∀ (path : String) (reply reply' : Reply), reply'.close = reply.close → Http.Alike .get reply.data reply'.data →
      (s.client.get path reply' s.world).2.1 = (s.client.get path reply s.world).2.1 ∧
        (s.client.get path reply s.world).2.2.SameButUnread (s.client.get path reply' s.world).2.2) ∧
    ∀ reply : Reply,
      (∀ shape path, (s.client.getJson shape path reply s.world).2 = (s.client.get path reply s.world).2) ∧
      (s.client.ping reply s.world).2 = (s.client.get "/_ping" reply s.world).2 := by
  intro s d
  have starts := start_local created helperEnvironment files
  have here : s.Local settings := run_local starts before
  have sound : s.Sound := run_sound starts (start_sound created helperEnvironment files) before
  refine ⟨?_, ?_, ?_⟩
  · intro path request guard reply exchange rest built lent read
    have outcome := Client.outcome_of_lent built here.unsent lent read
    refine ⟨?_, ?_, Http.exists_statusFront read, ?_⟩
    · intro shape
      have decodes := Client.decodes_checkStatus shape exchange.response
      rwa [← outcome] at decodes
    · rintro rfl
      have pings := Client.pings_checkStatus exchange.response
      rwa [← outcome] at pings
    · have back := sent_gives_back here sound lent reply
      rw [(Client.requestBytes_uriOf built).2, Client.method_of_built built, read] at back
      simp only [Client.get_leaves built]
      exact back
  · intro path reply reply' close alike
    exact Client.get_alike close alike s.client path s.world
  · intro reply
    exact ⟨fun shape path => s.client.getJson_leaves shape path reply s.world, s.client.ping_leaves reply s.world⟩

private def notFound : Reply :=
  ⟨Text.encode "HTTP/1.1 404 Not Found\r\nContent-Length: 16\r\n\r\n\x7b\"message\":\"no\"\x7d", false⟩

private def found : Reply :=
  ⟨Text.encode "HTTP/1.1 200 Not Found\r\nContent-Length: 16\r\n\r\n\x7b\"ApiVersion\":1\x7d", false⟩

/-- What follows the digits of both statuses, up to the body. -/
private def announcement : Bytes := Text.encode " Not Found\r\nContent-Length: 16\r\n\r\n"

private def refusal : Bytes := Text.encode "\x7b\"message\":\"no\"\x7d"

private def document : Bytes := Text.encode "\x7b\"ApiVersion\":1\x7d"

private def notFoundHead : Http.Head :=
  ⟨.http11, ⟨404⟩, Http.Headers.empty.append "content-length" (Text.encode "16")⟩

/-- The refusal and the document differ in the digits of their statuses and in bodies of one length. -/
private theorem alike_notFound : Http.Alike .get notFound.data found.data := by
  have starts : Http.StatusFront (Text.encode "HTTP/1.1 ") := ⟨[], .http11, by simp, by decide +kernel⟩
  have bodied : (⟨404⟩ : Http.Status).Bodied := ⟨by decide, by decide, by decide, by decide⟩
  have bodied' : (⟨200⟩ : Http.Status).Bodied := ⟨by decide, by decide, by decide, by decide⟩
  have isLead : Http.Lead (Text.encode "HTTP/1.1 " ++ ((⟨404⟩ : Http.Status).digits ++ announcement)) :=
    ⟨by decide +kernel, by decide +kernel⟩
  have parsed : Http.Head.parse (Text.encode "HTTP/1.1 " ++ ((⟨404⟩ : Http.Status).digits ++ announcement)) =
      .ok (notFoundHead, []) := by decide +kernel
  have framed : Http.framing .get notFoundHead = .ok (.length 16) := by decide +kernel
  have lengths : refusal.length = 16 ∧ document.length = 16 := by decide +kernel
  have alike : Http.Alike .get _ (_ ++ (document ++ [])) :=
    .content starts bodied bodied' isLead parsed framed (lengths.1.trans lengths.2.symm) lengths.1.le
  have data : notFound.data =
      Text.encode "HTTP/1.1 " ++ ((⟨404⟩ : Http.Status).digits ++ announcement) ++ (refusal ++ []) := by decide +kernel
  have data' : found.data =
      Text.encode "HTTP/1.1 " ++ ((⟨200⟩ : Http.Status).digits ++ announcement) ++ (document ++ []) := by decide +kernel
  rw [data, data']
  exact alike

/-- The daemon refuses a call in a body of the length of the document that it could have sent. The connection is parked
as it would have been after that. -/
theorem call_outcome_notFound :
    let s := (start standardClient standardDaemon).run []
    (s.client.getJson .any "/version" notFound s.world).1.outcome = .error (.api ⟨404⟩ "no") ∧
    0 ∈ ((s.client.get "/version" notFound s.world).2.1.dispatcher.pool 0).idle ∧
    (s.client.get "/version" found s.world).2.1 = (s.client.get "/version" notFound s.world).2.1 := by
  have outcome := call_outcome create_standardClient [] standardDaemon []
  have plain : ({ standardClient with helperEnvironment := [] } : Client) = standardClient := rfl
  rw [plain] at outcome
  generalize first : (start standardClient standardDaemon).run [] = s at outcome ⊢
  obtain ⟨calls, alike, -⟩ := outcome
  have built : Http.Request.build "GET" (s.client.uriOf "/version") [] [] =
      .ok ⟨.get, ⟨some "http+docker", some "localhost", some "/v1.45/version"⟩, .empty, []⟩ := by
    rw [← first]
    decide +kernel
  have lent : s.client.dispatcher.lendFor
      ⟨.get, ⟨some "http+docker", some "localhost", some "/v1.45/version"⟩, .empty, []⟩ s.world = .ok ⟨1, 0, false⟩ := by
    rw [← first]
    decide +kernel
  have read : Http.readResponse .get notFound.source =
      (.ok ⟨⟨notFoundHead, refusal⟩, true⟩, ⟨[], .failing .tryAgain⟩) := by decide +kernel
  have words : Client.errorWords refusal = "no" := by decide +kernel
  have looked : (s.client.dispatcher.lookup defaultPoolKey s.world).1 = 0 := by
    rw [← first]
    decide +kernel
  obtain ⟨decodes, -, -, -, others, -, parked, -⟩ := calls "/version" _ _ notFound _ _ built lent read
  rw [looked, if_pos rfl] at parked
  refine ⟨?_, ?_, ?_⟩
  · refine ((decodes .any).refused ⟨404⟩ "no").mpr ⟨?_, rfl, words ▸ Client.tells_errorWords refusal⟩
    rintro ⟨-, below⟩
    exact absurd below (by decide)
  · exact parked ▸ List.mem_cons_self
  · exact (alike "/version" notFound found rfl alike_notFound).1

end ClientSession

end EngineClient
