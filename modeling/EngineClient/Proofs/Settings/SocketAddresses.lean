import EngineClient.Proofs.Socket.EncodedPaths
import EngineClient.Settings.Basic
/-!
# Addresses of sockets

The address of a socket may be spelled as a path or as a URL of either scheme. A path without escapes is taken as it is
in all three spellings (`endpoint_bare`, `endpoint_schemed`), but nothing except slashes is refused in a URL only, so
the spellings agree exactly on the paths that have something beside slashes (`spellings_agree_iff`).
-/

namespace EngineClient.Settings

/-- What the spellings of one address come to agrees: all are the same socket, or all are refused. -/
def Agree (results : List (Except ConfigError Endpoint)) : Prop :=
  (∃ path, ∀ result ∈ results, result = .ok (.unix path)) ∨ ∀ result ∈ results, ∃ error, result = .error error

/-- What the address comes to when it is this one. -/
def endpointAt (s : Settings) (address : String) : Except ConfigError Endpoint :=
  ({ s with baseUrl := address } : Settings).endpoint

section
variable {p : String} (rooted : p.toList.head? = some '/')
include rooted

/-- A path has no scheme of a socket URL. -/
theorem afterScheme_of_rooted : SocketUrl.afterScheme p = none := by
  rw [Option.eq_none_iff_forall_ne_some]
  intro rest behind
  rcases SocketUrl.afterScheme_eq_some_iff.mp behind with rfl | rfl
  · simp at rooted
  · simp at rooted

theorem endpoint_bare (bounds : Text.Unpadded p.toList) (s : Settings) : s.endpointAt p = .ok (.unix p) := by
  simp only [endpointAt, endpoint, Text.trim_of_bounds bounds, afterScheme_of_rooted rooted, Option.isSome_none,
    Bool.false_eq_true, if_false, rooted, if_true]

/-- A URL is not padded when the path in it is not. -/
theorem unpadded_schemed (bounds : Text.Unpadded p.toList) {url : String}
    (spelled : url = "unix://" ++ p ∨ url = "http+unix://" ++ p) : Text.Unpadded url.toList := by
  have filled : p.toList ≠ [] := by
    intro none
    simp [none] at rooted
  have ends : ∀ scheme : String, ∀ c ∈ (scheme ++ p).toList.getLast?, Text.isBlank c = false := by
    intro scheme c last
    rw [String.toList_append, List.getLast?_append_of_ne_nil _ filled] at last
    exact bounds.ends c last
  rcases spelled with rfl | rfl
  · exact ⟨by simp; decide, ends "unix://"⟩
  · exact ⟨by simp; decide, ends "http+unix://"⟩

theorem endpoint_schemed (bounds : Text.Unpadded p.toList) (free : '%' ∉ p.toList) {url : String}
    (spelled : url = "unix://" ++ p ∨ url = "http+unix://" ++ p) (s : Settings) :
    s.endpointAt url =
      if SocketUrl.Slashes p then .error (.invalid (.socketUrl url .emptyPath)) else .ok (.unix p) := by
  have behind := SocketUrl.afterScheme_eq_some_iff.mpr spelled
  have plain : 0x25 ∉ Text.encode p := fun member => free ((Text.mem_encode_iff (c := '%') (by decide)).mp member)
  have path := SocketUrl.path_of_afterScheme behind
  rw [SocketUrl.decodePath_of_text (SocketUrl.encodes_self plain).standsFor, if_pos rooted] at path
  simp only [endpointAt, endpoint, Text.trim_of_bounds (unpadded_schemed rooted bounds spelled), behind,
    Option.isSome_some, if_true, path]
  by_cases bare : SocketUrl.Slashes p
  · simp only [if_pos bare]
  · simp only [if_neg bare]

end

/-- The path of a socket is below the root, and it is nothing but slashes only when the address is. -/
theorem path_of_endpoint {s : Settings} {path : String} (found : s.endpoint = .ok (.unix path)) :
    path.toList.head? = some '/' ∧ (SocketUrl.Slashes path ↔ SocketUrl.Slashes (Text.trim s.baseUrl)) := by
  simp only [endpoint] at found
  cases behind : SocketUrl.afterScheme (Text.trim s.baseUrl) with
  | some rest =>
    rw [behind, Option.isSome_some, if_pos rfl, SocketUrl.path_of_afterScheme behind] at found
    cases read : SocketUrl.decodePath rest with
    | error reason => simp [read] at found
    | ok named =>
      rw [read, Except.ok.injEq, Endpoint.unix.injEq] at found
      subst found
      obtain ⟨rooted, filled⟩ := SocketUrl.decodePath_rooted read
      refine ⟨rooted, iff_of_false filled fun bare => ?_⟩
      -- Both schemes begin with a letter.
      rcases SocketUrl.afterScheme_eq_some_iff.mp behind with parts | parts
      · exact absurd (bare 'u' (by simp [parts])) (by decide)
      · exact absurd (bare 'h' (by simp [parts])) (by decide)
  | none =>
    rw [behind, Option.isSome_none, if_neg Bool.false_ne_true] at found
    by_cases rooted : (Text.trim s.baseUrl).toList.head? = some '/'
    · rw [if_pos rooted, Except.ok.injEq, Endpoint.unix.injEq] at found
      subst found
      exact ⟨rooted, Iff.rfl⟩
    · -- Behind another scheme there is a host.
      rw [if_neg rooted] at found
      split at found
      · cases found
      · split_ifs at found <;> cases found

theorem agree_ok (path : String) : Agree [.ok (.unix path), .ok (.unix path), .ok (.unix path)] :=
  .inl ⟨path, by simp⟩

theorem not_agree_of_refused {path : String} {error : ConfigError} {more : List (Except ConfigError Endpoint)} :
    ¬ Agree (.ok (.unix path) :: .error error :: more) := by
  rintro (⟨path, same⟩ | refused)
  · exact nomatch same (.error error) (by simp)
  · obtain ⟨_, none⟩ := refused (.ok (.unix path)) (by simp)
    cases none

/-- A path that is not padded and has no escapes comes to itself in every spelling when there is something beside
slashes in it; of a path of slashes only, the URLs are refused and the path itself is not. In every address, the path of
a socket is below the root, and it is nothing but slashes exactly when the address is, without the blanks around it. -/
theorem spellings_agree_iff (s : Settings) :
    (∀ p : String, p.toList.head? = some '/' → '%' ∉ p.toList → Text.Unpadded p.toList →
      (Agree [s.endpointAt p, s.endpointAt ("unix://" ++ p), s.endpointAt ("http+unix://" ++ p)] ↔
        ∃ c ∈ p.toList, c ≠ '/') ∧
      ((∃ c ∈ p.toList, c ≠ '/') → ∀ address ∈ [p, "unix://" ++ p, "http+unix://" ++ p],
        s.endpointAt address = .ok (.unix p)) ∧
      ((∀ c ∈ p.toList, c = '/') →
        s.endpointAt p = .ok (.unix p) ∧ ∀ address ∈ ["unix://" ++ p, "http+unix://" ++ p],
          s.endpointAt address = .error (.invalid (.socketUrl address .emptyPath)))) ∧
    ∀ path, s.endpoint = .ok (.unix path) →
      path.toList.head? = some '/' ∧
        ((∀ c ∈ path.toList, c = '/') ↔ ∀ c ∈ (Text.trim s.baseUrl).toList, c = '/') := by
  refine ⟨fun p rooted free bounds => ?_, fun path found => path_of_endpoint found⟩
  have bare := endpoint_bare rooted bounds s
  have unix := endpoint_schemed rooted bounds free (.inl rfl) s
  have http := endpoint_schemed rooted bounds free (.inr rfl) s
  by_cases slashes : SocketUrl.Slashes p
  · rw [if_pos slashes] at unix http
    have nothing : ¬ ∃ c ∈ p.toList, c ≠ '/' := fun filled => SocketUrl.not_slashes_iff.mpr filled slashes
    rw [bare, unix, http]
    exact ⟨iff_of_false not_agree_of_refused nothing, fun filled => absurd filled nothing,
      fun _ => ⟨rfl, by simp [unix, http]⟩⟩
  · rw [if_neg slashes] at unix http
    rw [bare, unix, http]
    exact ⟨iff_of_true (agree_ok p) (SocketUrl.not_slashes_iff.mp slashes), fun _ => by simp [bare, unix, http],
      fun only => absurd only slashes⟩

private def withCertificates : Settings := { standard with tls := some (.inDirectory "/certs" true) }

private def blankAround : Settings := { standard with baseUrl := " http+unix://%2fd.sock\n" }

/-- A path with a scheme inside, and an address with blanks around it. -/
theorem spellings_agree_nested :
    Agree [withCertificates.endpointAt "/run//unix:///d.sock",
      withCertificates.endpointAt "unix:///run//unix:///d.sock",
      withCertificates.endpointAt "http+unix:///run//unix:///d.sock"] ∧
    blankAround.endpoint = .ok (.unix "/d.sock") ∧ "/d.sock".toList.head? = some '/' ∧
    ((∀ c ∈ "/d.sock".toList, c = '/') ↔ ∀ c ∈ (Text.trim blankAround.baseUrl).toList, c = '/') := by
  have agree := ((spellings_agree_iff withCertificates).1 "/run//unix:///d.sock" (by decide) (by decide)
    (Text.unpadded_of_all (by decide) (by decide))).1
  have found : blankAround.endpoint = .ok (.unix "/d.sock") := by decide +kernel
  exact ⟨agree.mpr ⟨'r', by decide, by decide⟩, found, (spellings_agree_iff blankAround).2 "/d.sock" found⟩

/-- The root itself is a socket as a path, and refused in a URL. -/
theorem root_spellings_differ :
    "/".toList.head? = some '/' ∧ '%' ∉ "/".toList ∧ Text.Unpadded "/".toList ∧
      ¬ Agree [standard.endpointAt "/", standard.endpointAt "unix:///", standard.endpointAt "http+unix:///"] ∧
      standard.endpointAt "/" = .ok (.unix "/") ∧ ¬ ∃ c ∈ "/".toList, c ≠ '/' := by
  have bare : standard.endpointAt "/" = .ok (.unix "/") := by decide
  have refused : standard.endpointAt "unix:///" = .error (.invalid (.socketUrl "unix:///" .emptyPath)) := by
    decide +kernel
  have slashes : SocketUrl.Slashes "/" := by decide
  refine ⟨by decide, by decide, Text.unpadded_of_all (by decide) (by decide), ?_, bare, fun filled =>
    SocketUrl.not_slashes_iff.mpr filled slashes⟩
  rw [bare, refused]
  exact not_agree_of_refused

end EngineClient.Settings
