import EngineClient.Http.Writing
import EngineClient.Proofs.Http.HeaderLists
import EngineClient.Proofs.Http.UriText
import EngineClient.Proofs.Sink
/-!
# Requests on the wire

The bytes of a request are split back into what it was built from (`dissect_requestBytes`): three words, the
fields, the body. So no method, URI or header value starts a line of its own or ends the head.
-/

namespace EngineClient.Http

/-- What bytes say as a request: the words of the first line, the fields of the other lines, and what follows the
empty line. -/
structure Dissection where
  words : List Bytes
  fields : List (Bytes × Bytes)
  body : Bytes
deriving Repr, DecidableEq

/-- Bytes split at their first empty line, the part before it into lines, the first line into words, and every
other line at its first mark. -/
def dissect (wire : Bytes) : Option Dissection :=
  match splitFirst blankLine wire with
  | none => none
  | some (head, body) =>
    match crlfLines head with
    | [] => none
    | line :: lines => (lines.mapM (splitFirst fieldMark)).map fun fields => ⟨line.splitOn 0x20, fields, body⟩

/-! ## Splitting what was put together -/

private theorem mapM_fieldLine {fields : List (Bytes × Bytes)} (free : ∀ field ∈ fields, 0x3A ∉ field.1) :
    (fields.map fieldLine).mapM (splitFirst fieldMark) = some fields := by
  induction fields with
  | nil => rfl
  | cons field fields ih =>
    obtain ⟨first, others⟩ := List.forall_mem_cons.mp free
    have split : splitFirst fieldMark (fieldLine field) = some field := splitFirst_of_free first field.2
    simp [List.mapM_cons, split, ih others]

/-- A head of words and fields is split into these. -/
theorem dissect_heading {line : Bytes} {fields : List (Bytes × Bytes)} (solid : Solid line)
    (inLine : ∀ field ∈ fields, InLine field.1 ∧ 0x3A ∉ field.1 ∧ InLine field.2) (body : Bytes) :
    dissect (heading (line :: fields.map fieldLine) ++ body) = some ⟨line.splitOn 0x20, fields, body⟩ := by
  have lines : ∀ text ∈ line :: fields.map fieldLine, Solid text := by
    refine List.forall_mem_cons.mpr ⟨solid, ?_⟩
    intro text member
    obtain ⟨field, listed, rfl⟩ := List.mem_map.mp member
    obtain ⟨name, -, value⟩ := inLine field listed
    exact solid_fieldLine name value
  have present : line :: fields.map fieldLine ≠ [] := List.cons_ne_nil _ _
  have marks := mapM_fieldLine fun field listed => (inLine field listed).2.1
  simp only [dissect, splitFirst_heading present lines, crlfLines_intercalate present lines, marks, Option.map_some]

/-! ## The lines of a request -/

/-- The `Host` field of a request that has no such header. -/
def hostField (request : Request) : List (Bytes × Bytes) :=
  if request.headers.contains "host" then []
  else [(Text.encode "Host", Text.encode (request.uri.host.getD "localhost"))]

/-- The `Content-Length` field of a request that has no such header and has, or usually has, a body. -/
def lengthField (request : Request) : List (Bytes × Bytes) :=
  if (!request.body.isEmpty || request.method.sendsBody) && !request.headers.contains "content-length"
  then [(Text.encode "Content-Length", Text.encode (toString request.body.length))]
  else []

/-- The first line of a request. -/
def requestLine (request : Request) (target : String) : Bytes :=
  [0x20].intercalate [Text.encode request.method.name, Text.encode target, Text.encode "HTTP/1.1"]

private theorem encode_lineEnd : Text.encode "\r\n" = lineEnd := by
  rw [Text.encode_eq_flatMap]
  decide

private theorem encode_fieldMark : Text.encode ": " = fieldMark := by
  rw [Text.encode_eq_flatMap]
  decide

private theorem encode_space : Text.encode " " = [0x20] := by
  rw [Text.encode_eq_flatMap]
  decide

/-- The head of a request is its first line and its fields. -/
theorem requestHead_eq_heading (request : Request) (target : String) :
    requestHead request target = heading (requestLine request target ::
      (hostField request ++ (request.headers.lines.map fun line => (Text.encode line.1, line.2)) ++
        lengthField request).map fieldLine) := by
  have first : Text.encode (request.method.name ++ " " ++ target ++ " HTTP/1.1\r\n") =
      requestLine request target ++ lineEnd := by
    have parts : " HTTP/1.1\r\n" = " " ++ "HTTP/1.1" ++ "\r\n" := by decide
    simp only [parts, Text.encode_append, encode_space, encode_lineEnd, requestLine, List.intercalate_cons_cons,
      List.intercalate_singleton, List.append_assoc]
  have host : hostLine request = (hostField request).flatMap fun field => fieldLine field ++ lineEnd := by
    rw [hostLine, hostField]
    split_ifs
    · rfl
    · have name : Text.encode "Host: " = Text.encode "Host" ++ fieldMark := by
        rw [← encode_fieldMark, ← Text.encode_append]
        rfl
      simp [name, Text.encode_append, encode_lineEnd, fieldLine]
  have whole : requestHead request target = Text.encode (request.method.name ++ " " ++ target ++ " HTTP/1.1\r\n") ++
      hostLine request ++ (request.headers.lines.flatMap fun line => headerLine line.1 line.2) ++
      lengthLine request ++ Text.encode "\r\n" := rfl
  have given : (request.headers.lines.flatMap fun line => headerLine line.1 line.2) =
      (request.headers.lines.map fun line => (Text.encode line.1, line.2)).flatMap
        fun field => fieldLine field ++ lineEnd := by
    simp [List.flatMap_map, headerLine, encode_lineEnd, encode_fieldMark, fieldLine]
  have length : lengthLine request = (lengthField request).flatMap fun field => fieldLine field ++ lineEnd := by
    rw [lengthLine, lengthField]
    split_ifs
    · have name : Text.encode "Content-Length: " = Text.encode "Content-Length" ++ fieldMark := by
        rw [← encode_fieldMark, ← Text.encode_append]
        rfl
      simp [name, Text.encode_append, encode_lineEnd, fieldLine]
    · rfl
  rw [whole, first, host, given, length, encode_lineEnd, heading]
  simp [List.flatMap_map]

/-! ## Nothing in a request ends a line -/

private theorem inLine_name {name : String} (normal : Headers.normalName name = some (Text.lower name)) :
    InLine (Text.encode (Text.lower name)) ∧ 0x3A ∉ Text.encode (Text.lower name) := by
  obtain ⟨-, token, -⟩ := (Headers.normalName_eq_some_iff.mp normal).1
  have visible : ∀ c ∈ (Text.lower name).toList, Visible c ∧ c ≠ ':' := by
    intro c member
    rw [Text.lower, String.toList_ofList] at member
    obtain ⟨letter, listed, rfl⟩ := List.mem_map.mp member
    obtain ⟨visible, -, other⟩ := token_visible (token letter listed)
    exact lowerAscii_visible visible other
  refine ⟨(inLine_encode fun c member => (visible c member).1).1, fun member => ?_⟩
  have colon := (Text.mem_encode_iff (c := ':') (by decide)).mp member
  exact (visible ':' colon).2 rfl

/-- The parts that a request is built from. -/
theorem Request.build_eq_ok {method uri : String} {given : List (String × Bytes)} {body : Bytes} {request : Request}
    (built : Request.build method uri given body = .ok request) :
    request.method = ⟨method⟩ ∧ (method ≠ "" ∧ ∀ c ∈ method.toList, isTokenChar c = true) ∧
      Uri.parse uri = .ok request.uri ∧ Headers.empty.extend given = .ok request.headers ∧ request.body = body := by
  rw [Request.build] at built
  split at built
  · cases built
  · rename_i method' named
    rw [Method.ofText, Option.ite_none_right_eq_some] at named
    obtain ⟨token, same⟩ := named
    cases same
    split at built
    · cases built
    · rename_i uri' parsed
      split at built
      · cases built
      · rename_i headers extended
        cases built
        simp only [Bool.and_eq_true, Bool.not_eq_true', String.isEmpty_eq_false_iff, List.all_eq_true] at token
        exact ⟨rfl, token, parsed, extended, rfl⟩

private theorem requestLine_words {request : Request} {target : String}
    (method : ∀ c ∈ request.method.name.toList, Visible c) (path : ∀ c ∈ target.toList, Visible c) :
    Solid (requestLine request target) ∧
      (requestLine request target).splitOn 0x20 =
        [Text.encode request.method.name, Text.encode target, Text.encode "HTTP/1.1"] := by
  obtain ⟨methodLine, methodWord⟩ := inLine_encode method
  obtain ⟨pathLine, pathWord⟩ := inLine_encode path
  have version : ∀ c ∈ "HTTP/1.1".toList, Visible c := visible_of_all (by decide)
  obtain ⟨versionLine, versionWord⟩ := inLine_encode version
  have line : requestLine request target =
      Text.encode request.method.name ++ 0x20 :: (Text.encode target ++ 0x20 :: Text.encode "HTTP/1.1") := by
    simp [requestLine]
  refine ⟨⟨?_, ?_, ?_⟩, List.splitOn_intercalate 0x20 ?_ (List.cons_ne_nil _ _)⟩
  · simp [line]
  · simp [line, methodLine.1, pathLine.1, versionLine.1]
  · simp [line, methodLine.2, pathLine.2, versionLine.2]
  · simp [methodWord, pathWord, versionWord]

private theorem inLine_hostField {request : Request} (parts : request.uri.VisibleParts) :
    ∀ field ∈ hostField request, InLine field.1 ∧ 0x3A ∉ field.1 ∧ InLine field.2 := by
  rw [hostField]
  split_ifs
  · simp
  · rw [List.forall_mem_singleton]
    refine ⟨(inLine_encode (visible_of_all (by decide))).1, (Text.mem_encode_iff (c := ':') (by decide)).not.mpr (by decide), ?_⟩
    refine (inLine_encode ?_).1
    cases named : request.uri.host with
    | none => exact visible_of_all (by decide)
    | some host => exact parts.host host named

private theorem inLine_lengthField (request : Request) :
    ∀ field ∈ lengthField request, InLine field.1 ∧ 0x3A ∉ field.1 ∧ InLine field.2 := by
  rw [lengthField]
  split_ifs
  · rw [List.forall_mem_singleton]
    exact ⟨(inLine_encode (visible_of_all (by decide))).1, (Text.mem_encode_iff (c := ':') (by decide)).not.mpr (by decide),
      inLine_toString _⟩
  · simp

private theorem inLine_gathered {given : List (String × Bytes)}
    (legal : ∀ field ∈ given, Headers.normalName field.1 = some (Text.lower field.1) ∧
      ∀ b ∈ field.2, Headers.isValueByte b = true) :
    ∀ field ∈ (gathered given).flatMap fun group => group.2.map fun value => (Text.encode group.1, value),
      InLine field.1 ∧ 0x3A ∉ field.1 ∧ InLine field.2 := by
  intro field member
  obtain ⟨group, kept, among⟩ := List.mem_flatMap.mp member
  obtain ⟨value, valued, rfl⟩ := List.mem_map.mp among
  obtain ⟨written, listed, lower, rfl⟩ := mem_gathered kept valued
  obtain ⟨normal, allowed⟩ := legal written listed
  rw [← lower]
  exact ⟨(inLine_name normal).1, (inLine_name normal).2, inLine_value allowed⟩

/-! ## Reading a request back -/

/-- The bytes of a request are split into its three words, its fields and its body. -/
theorem dissect_requestBytes {method uri : String} {given : List (String × Bytes)} {body : Bytes} {request : Request}
    (built : Request.build method uri given body = .ok request) :
    dissect (requestBytes request request.target) = some
      { words := [Text.encode method, Text.encode request.target, Text.encode "HTTP/1.1"]
        fields := hostField request ++
          ((gathered given).flatMap fun group => group.2.map fun value => (Text.encode group.1, value)) ++
          lengthField request
        body := body } := by
  obtain ⟨sameMethod, ⟨-, token⟩, parsed, extended, rfl⟩ := Request.build_eq_ok built
  obtain ⟨groups, legal⟩ := Headers.extend_groups extended
  have parts := Uri.parse_visible parsed
  have lines : request.headers.lines.map (fun line => (Text.encode line.1, line.2)) =
      (gathered given).flatMap fun group => group.2.map fun value => (Text.encode group.1, value) := by
    rw [Headers.lines, groups, List.map_flatMap]
    simp [Function.comp_def]
  have path : ∀ c ∈ request.target.toList, Visible c := by
    rw [Request.target]
    cases known : request.uri.pathAndQuery with
    | none => exact visible_of_all (by decide)
    | some path => exact parts.target path known
  have name : ∀ c ∈ request.method.name.toList, Visible c := by
    rw [sameMethod]
    exact fun c member => (token_visible (token c member)).1
  obtain ⟨solid, words⟩ := requestLine_words name path
  rw [requestBytes, requestHead_eq_heading, lines, dissect_heading solid, words, sameMethod]
  intro field member
  rcases List.mem_append.mp member with others | last
  · rcases List.mem_append.mp others with first | given
    · exact inLine_hostField parts field first
    · exact inLine_gathered legal field given
  · exact inLine_lengthField request field last

/-- Writing that succeeds has sent the bytes of the request and flushed once. -/
theorem writeRequest_takes {sink after : Sink} {request : Request} {target : String}
    (written : writeRequest sink request target = (.ok (), after)) :
    after.taken.toList = sink.taken.toList ++ requestBytes request target ∧ after.flushes = sink.flushes + 1 := by
  rw [writeRequest] at written
  split at written
  · simp at written
  · rename_i next head
    split at written
    · simp at written
    · rename_i last body
      cases written
      obtain ⟨_, _, parts, taken, flushes, whole⟩ := Sink.writeAll_takes head
      obtain ⟨_, _, parts', taken', flushes', whole'⟩ := Sink.writeAll_takes body
      rw [whole rfl, List.append_nil] at parts
      rw [whole' rfl, List.append_nil] at parts'
      subst parts parts'
      refine ⟨?_, by simp only [Sink.flush, flushes', flushes]⟩
      simp only [Sink.flush, taken', taken, requestBytes, List.append_assoc]

theorem writeRequest_willing {sink : Sink} (willing : sink.Willing) (request : Request) (target : String) :
    ∃ after, writeRequest sink request target = (.ok (), after) := by
  obtain ⟨next, head, willing'⟩ := Sink.writeAll_willing willing (requestHead request target)
  obtain ⟨last, body, -⟩ := Sink.writeAll_willing willing' request.body
  exact ⟨last.flush, by simp only [writeRequest, head, body]⟩

/-- Whether a field of this name, which is in lower case, is among those given. -/
def names (given : List (String × Bytes)) (name : String) : Bool :=
  given.any fun field => Text.lower field.1 == name

/-- A request is sent as bytes that are split back into what it was built from: method, target and version without
a space in them; the given fields by name, their values unchanged and in their order, after a `Host` field if none
was given, and before a `Content-Length` field with the number of bytes of the body if none was given and there is,
or usually is, a body; and the body. A sink that takes a byte of every call takes all of them. -/
theorem writeRequest_dissects {method uri : String} {given : List (String × Bytes)} {body : Bytes} {request : Request}
    (built : Request.build method uri given body = .ok request) :
    ∃ wire,
      dissect wire = some
        { words := [Text.encode method, Text.encode request.target, Text.encode "HTTP/1.1"]
          fields :=
            (if names given "host" then []
              else [(Text.encode "Host", Text.encode (request.uri.host.getD "localhost"))]) ++
            ((gathered given).flatMap fun group => group.2.map fun value => (Text.encode group.1, value)) ++
            (if names given "content-length" ∨ body = [] ∧ method ∉ ["POST", "PUT", "PATCH"] then []
              else [(Text.encode "Content-Length", Text.encode (toString body.length))])
          body := body } ∧
      (∀ sink after, writeRequest sink request request.target = (.ok (), after) →
        after.taken.toList = sink.taken.toList ++ wire ∧ after.flushes = sink.flushes + 1) ∧
      ∀ sink : Sink, sink.Willing → ∃ after, writeRequest sink request request.target = (.ok (), after) := by
  refine ⟨requestBytes request request.target, ?_, fun sink after written => writeRequest_takes written,
    fun sink willing => writeRequest_willing willing request request.target⟩
  obtain ⟨sameMethod, -, -, extended, sameBody⟩ := Request.build_eq_ok built
  have groups := (Headers.extend_groups extended).1
  have contains (name : String) : request.headers.contains name = names given name := by
    rw [names, ← Headers.contains_gathered, ← groups]
  have host : hostField request = if names given "host" then []
      else [(Text.encode "Host", Text.encode (request.uri.host.getD "localhost"))] := by
    rw [hostField, contains]
  have length : lengthField request =
      if names given "content-length" ∨ body = [] ∧ method ∉ ["POST", "PUT", "PATCH"] then []
      else [(Text.encode "Content-Length", Text.encode (toString body.length))] := by
    rw [lengthField, contains, sameMethod, sameBody, ← ite_not]
    refine if_congr ?_ rfl rfl
    simp only [Method.sendsBody, Bool.and_eq_true, Bool.or_eq_true, Bool.not_eq_true', List.isEmpty_eq_false_iff,
      beq_iff_eq, List.mem_cons, List.not_mem_nil, or_false, not_or, not_and, Bool.not_eq_false]
    tauto
  rw [dissect_requestBytes built, host, length]

/-- A body that starts with an empty line, and headers given twice and with a mark in their value. -/
theorem writeRequest_dissects_repeated :
    ∃ request, Request.build "POST" "http://engine:80/v1?x=1#y"
        [("X-Tag", [0x61, 0x3A, 0x20]), ("Accept", []), ("x-tag", [0xFF])] [0x0D, 0x0A, 0x0D, 0x0A] = .ok request ∧
      ∃ wire, dissect wire = some
          { words := [Text.encode "POST", Text.encode "/v1?x=1", Text.encode "HTTP/1.1"]
            fields := [(Text.encode "Host", Text.encode "engine"), (Text.encode "x-tag", [0x61, 0x3A, 0x20]),
              (Text.encode "x-tag", [0xFF]), (Text.encode "accept", []),
              (Text.encode "Content-Length", Text.encode "4")]
            body := [0x0D, 0x0A, 0x0D, 0x0A] } ∧
        ∃ after, writeRequest (.fresh (fun _ => 1) (some (3, .interruptedOnce))) request request.target =
            (.ok (), after) ∧
          after.taken.toList = wire := by
  have built : Request.build "POST" "http://engine:80/v1?x=1#y"
      [("X-Tag", [0x61, 0x3A, 0x20]), ("Accept", []), ("x-tag", [0xFF])] [0x0D, 0x0A, 0x0D, 0x0A] =
      .ok ⟨⟨"POST"⟩, ⟨some "http", some "engine:80", some "/v1?x=1"⟩,
        ⟨[("x-tag", [[0x61, 0x3A, 0x20], [0xFF]]), ("accept", [[]])]⟩, [0x0D, 0x0A, 0x0D, 0x0A]⟩ := by
    decide +kernel
  obtain ⟨wire, split, takes, succeeds⟩ := writeRequest_dissects built
  refine ⟨_, built, wire, split, ?_⟩
  obtain ⟨after, written⟩ := succeeds (.fresh (fun _ => 1) (some (3, .interruptedOnce)))
    ⟨fun _ => Nat.one_pos, by rintro _ _ ⟨⟩; rfl⟩
  exact ⟨after, written, (takes _ after written).1⟩

end EngineClient.Http
