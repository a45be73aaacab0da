import EngineClient.Helper.Store
import EngineClient.Proofs.Json.QuotedText
import Mathlib.Tactic.SplitIfs
/-!
# Records in transit

What a helper is given to store is the document of a record, from which the same record is read
(`read_payload`).
-/

namespace EngineClient

/-- The fields of a record as they are written. -/
private def members (c : Credentials) : List (String × String) :=
  [("ServerURL", c.serverUrl), ("Username", c.username), ("Secret", c.secret)]

private theorem encode_json (c : Credentials) : Text.encode c.json = Json.recordBytes (members c) := by
  have brace : Text.encode "\x7b" = [0x7B] := by
    rw [Text.encode_eq_flatMap]
    decide
  have closing : Text.encode "\x7d" = [0x7D] := by
    rw [Text.encode_eq_flatMap]
    decide
  have colon : Text.encode ":" = [0x3A] := by
    rw [Text.encode_eq_flatMap]
    decide
  have comma : Text.encode "," = [0x2C] := by
    rw [Text.encode_eq_flatMap]
    decide
  have around (front name back : String) : Text.encode (front ++ Json.quote name ++ back) =
      Text.encode front ++ Text.encode (Json.quote name) ++ Text.encode back := by
    rw [Text.encode_append, Text.encode_append]
  have server : "\x7b\"ServerURL\":" = "\x7b" ++ Json.quote "ServerURL" ++ ":" := by decide +kernel
  have username : ",\"Username\":" = "," ++ Json.quote "Username" ++ ":" := by decide +kernel
  have secret : ",\"Secret\":" = "," ++ Json.quote "Secret" ++ ":" := by decide +kernel
  have pieces (a b c d e f g : String) : Text.encode (a ++ b ++ c ++ d ++ e ++ f ++ g) =
      Text.encode a ++ Text.encode b ++ Text.encode c ++ Text.encode d ++ Text.encode e ++ Text.encode f ++
        Text.encode g := by
    simp only [Text.encode_append]
  refine (pieces ..).trans ?_
  rw [(congrArg Text.encode server).trans (around ..), (congrArg Text.encode username).trans (around ..),
    (congrArg Text.encode secret).trans (around ..), brace, closing, colon, comma]
  simp [members, Json.recordBytes, Json.memberBytes]

/-- What was put under a name is found there, in whatever order the members are kept. -/
private theorem lookup_putMember (name other : String) (value : Json.Value) (kept : List (String × Json.Value)) :
    (Json.putMember name value kept).lookup other = if other = name then some value else kept.lookup other := by
  have lookup_cons (known : String) (old : Json.Value) (rest : List (String × Json.Value)) :
      ((known, old) :: rest).lookup other = if other = known then some old else rest.lookup other := by
    by_cases same : other = known
    · rw [if_pos same, same, List.lookup_cons_self]
    · rw [if_neg same, List.lookup_cons, beq_eq_false_iff_ne.mpr same]
  induction kept with
  | nil => rw [Json.putMember, lookup_cons]
  | cons first rest ih =>
    obtain ⟨known, old⟩ := first
    rw [Json.putMember, lookup_cons]
    by_cases before : name < known
    · rw [if_pos before, lookup_cons, lookup_cons]
    · rw [if_neg before]
      by_cases same : name = known
      · rw [if_pos same, lookup_cons, ← same]
        split_ifs <;> rfl
      · rw [if_neg same, lookup_cons, ih]
        by_cases here : other = known
        · rw [if_pos here, if_neg fun again => same (again.symm.trans here), if_pos here]
        · rw [if_neg here, if_neg here]

/-- The value of a record has all of it. -/
theorem Credentials.ofValue_toValue (c : Credentials) : ofValue c.toValue = c := by
  simp [toValue, Json.Value.ofMembers, lookup_putMember, ofValue, Json.Value.member, Json.Value.asText]

/-- The payload of a record is read as that record. -/
theorem HelperStore.read_payload (server username secret : String) :
    Credentials.read (HelperStore.payload server username secret) = .ok ⟨server, username, secret⟩ := by
  have apart : ((members ⟨server, username, secret⟩).map (·.1)).Nodup := by simp [members]
  have known : ∀ member ∈ members ⟨server, username, secret⟩,
      [("ServerURL", Json.Shape.text), ("Username", .text), ("Secret", .text)].lookup member.1 = some .text := by
    simp [members, List.lookup_cons]
  rw [HelperStore.payload, encode_json, Credentials.read, Credentials.shape, Json.read_record apart known]
  exact congrArg Except.ok (Credentials.ofValue_toValue ⟨server, username, secret⟩)

end EngineClient
