import EngineClient.Client.Calls
import EngineClient.Proofs.Helper.Verdicts
import EngineClient.Proofs.Text.Cutting
/-!
# The helper of a registry

Which helper serves a registry is told by the first of four sources that names one (`Client.Choice`), and an address of
a registry counts in two forms: as written, and by the host in it (`RegistryFile.HostIn`). One helper is asked at most,
and what it answers is passed on (`Client.registryCredentials_of_some`).
-/

namespace EngineClient

namespace RegistryFile

/-! ## Hosts in addresses -/

/-- The schemes that are left out of an address. -/
def schemes : List String := ["https://", "http://"]

/-- A path behind a host, or nothing. -/
def IsPath (path : String) : Prop := ∀ c ∈ path.toList.head?, c = '/'

/-- An address without its scheme, if it has one. -/
inductive Unschemed (address : String) : String → Prop
  | schemed {scheme rest : String} (known : scheme ∈ schemes) (parts : address = scheme ++ rest) : Unschemed address rest
  | bare (plain : ∀ scheme ∈ schemes, ¬ scheme.toList <+: address.toList) : Unschemed address address

/-- The host in an address: what stands behind the scheme and before the first slash. -/
structure HostIn (address host : String) : Prop where
  free : '/' ∉ host.toList
  parts : ∃ path, Unschemed address (host ++ path) ∧ IsPath path

private theorem known_scheme {scheme : String} : scheme ∈ schemes ↔ scheme = "https://" ∨ scheme = "http://" := by
  simp [schemes]

private theorem not_secure_of_plain {address : String} (plain : "http://".toList <+: address.toList) :
    ¬ "https://".toList <+: address.toList := by
  intro secure
  have both : "http://".toList <+: "https://".toList := List.prefix_of_prefix_length_le plain secure (by decide)
  exact absurd both (by decide)

private theorem unschemed_iff {address rest : String} :
    (Text.afterLead "https://" address).getD ((Text.afterLead "http://" address).getD address) = rest ↔
      Unschemed address rest := by
  constructor
  · rintro rfl
    cases first : Text.afterLead "https://" address with
    | some rest => exact .schemed (known_scheme.mpr (.inl rfl)) (Text.afterLead_eq_some_iff.mp first)
    | none =>
      cases second : Text.afterLead "http://" address with
      | some rest => exact .schemed (known_scheme.mpr (.inr rfl)) (Text.afterLead_eq_some_iff.mp second)
      | none =>
        refine .bare ?_
        intro scheme known
        rcases known_scheme.mp known with rfl | rfl
        · exact Text.afterLead_eq_none_iff.mp first
        · exact Text.afterLead_eq_none_iff.mp second
  · intro unschemed
    cases unschemed with
    | schemed known parts =>
      rcases known_scheme.mp known with rfl | rfl
      · rw [Text.afterLead_eq_some_iff.mpr parts, Option.getD_some]
      · have begins : "http://".toList <+: address.toList := by
          rw [parts, String.toList_append]
          exact List.prefix_append ..
        rw [Text.afterLead_eq_none_iff.mpr (not_secure_of_plain begins), Option.getD_none,
          Text.afterLead_eq_some_iff.mpr parts, Option.getD_some]
    | bare plain =>
      rw [Text.afterLead_eq_none_iff.mpr (plain _ (known_scheme.mpr (.inl rfl))), Option.getD_none,
        Text.afterLead_eq_none_iff.mpr (plain _ (known_scheme.mpr (.inr rfl))), Option.getD_none]

/-- The characters before the first slash, and a path. -/
private theorem beforeSlash_eq_iff {text host : String} :
    String.ofList (text.toList.takeWhile (· != '/')) = host ↔ ∃ path, text = host ++ path ∧ '/' ∉ host.toList ∧ IsPath path := by
  constructor
  · rintro rfl
    refine ⟨String.ofList (text.toList.dropWhile (· != '/')), ?_, ?_, ?_⟩
    · apply String.toList_injective
      rw [String.toList_append, String.toList_ofList, String.toList_ofList, List.takeWhile_append_dropWhile]
    · rw [String.toList_ofList]
      intro member
      simpa using List.mem_takeWhile_imp member
    · intro c first
      rw [String.toList_ofList] at first
      have slash := List.head?_dropWhile_not (· != '/') text.toList
      rw [Option.mem_def.mp first] at slash
      simpa using slash
  · rintro ⟨path, rfl, free, isPath⟩
    apply String.toList_injective
    rw [String.toList_ofList, String.toList_append, List.takeWhile_append_of_pos]
    · cases behind : path.toList with
      | nil => simp
      | cons c rest =>
        obtain rfl : c = '/' := isPath c (by rw [behind]; rfl)
        simp
    · intro c member
      simp only [bne_iff_ne, ne_eq]
      rintro rfl
      exact free member

/-- An address has one host. -/
theorem hostOf_eq_iff {address host : String} : hostOf address = host ↔ HostIn address host := by
  rw [hostOf, beforeSlash_eq_iff]
  constructor
  · rintro ⟨path, rest, free, isPath⟩
    exact ⟨free, path, unschemed_iff.mp rest, isPath⟩
  · rintro ⟨free, path, unschemed, isPath⟩
    exact ⟨path, unschemed_iff.mpr unschemed, free, isPath⟩

/-- A text without a slash is its own host. -/
theorem hostIn_self {host : String} (free : '/' ∉ host.toList) : HostIn host host := by
  refine ⟨free, "", ?_, by simp [IsPath]⟩
  rw [String.append_empty]
  refine .bare ?_
  rintro scheme known ⟨rest, parts⟩
  have slash : '/' ∈ scheme.toList := by
    rcases known_scheme.mp known with rfl | rfl
    · decide
    · decide
  exact free (parts ▸ List.mem_append_left rest slash)

/-- What stands before a host: a scheme, or nothing where the host and what follows do not bring one along. -/
def IsLead (lead rest : String) : Prop := lead ∈ schemes ∨ lead = "" ∧ ∀ scheme ∈ schemes, ¬ scheme.toList <+: rest.toList

theorem hostIn_of_parts {lead host path : String} (free : '/' ∉ host.toList) (isLead : IsLead lead (host ++ path))
    (isPath : IsPath path) : HostIn (lead ++ host ++ path) host := by
  refine ⟨free, path, ?_, isPath⟩
  rcases isLead with known | ⟨rfl, plain⟩
  · exact .schemed known String.append_assoc
  · rw [String.empty_append]
    exact .bare plain

end RegistryFile

open RegistryFile (HostIn IsLead IsPath schemes)

namespace Client
variable {client : Client} {file : RegistryFile} {registry : String}

/-! ## The choice of a helper -/

/-- The helper that serves a registry for a client: the one of the registry as written, else the one of its host, else
the one of the settings, else the one that the file has for all, if it has one. -/
inductive Choice (client : Client) (file : RegistryFile) (registry : String) : Option String → Prop
  | named {helper : String} (own : file.credHelpers.lookup registry = some helper) : Choice client file registry (some helper)
  | hosted {host helper : String} (unnamed : file.credHelpers.lookup registry = none) (inside : HostIn registry host)
      (own : file.credHelpers.lookup host = some helper) : Choice client file registry (some helper)
  | settings {host helper : String} (unnamed : file.credHelpers.lookup registry = none) (inside : HostIn registry host)
      (unhosted : file.credHelpers.lookup host = none) (store : client.settings.credentialsStore = some helper) :
      Choice client file registry (some helper)
  | standard {host : String} (unnamed : file.credHelpers.lookup registry = none) (inside : HostIn registry host)
      (unhosted : file.credHelpers.lookup host = none) (unset : client.settings.credentialsStore = none) :
      Choice client file registry file.credsStore

theorem helperFor_of_unnamed (unnamed : file.credHelpers.lookup registry = none) {host : String}
    (inside : HostIn registry host) :
    client.helperFor registry file =
      ((file.credHelpers.lookup host).or client.settings.credentialsStore).or file.credsStore := by
  rw [← RegistryFile.hostOf_eq_iff] at inside
  subst inside
  unfold helperFor RegistryFile.helperFor
  cases client.settings.credentialsStore with
  | none =>
    rw [Option.or_none]
    simp only [unnamed]
    cases file.credHelpers.lookup (RegistryFile.hostOf registry) <;> rfl
  | some store =>
    simp only [unnamed]
    cases file.credHelpers.lookup (RegistryFile.hostOf registry) <;> rfl

theorem helperFor_of_named {helper : String} (own : file.credHelpers.lookup registry = some helper) :
    client.helperFor registry file = some helper := by
  unfold helperFor RegistryFile.helperFor
  cases client.settings.credentialsStore with
  | none => simp only [own]
  | some store => simp only [own]

/-- There is one choice for every registry. -/
theorem helperFor_eq_iff {helper : Option String} :
    client.helperFor registry file = helper ↔ client.Choice file registry helper := by
  have inside : HostIn registry (RegistryFile.hostOf registry) := RegistryFile.hostOf_eq_iff.mp rfl
  constructor
  · rintro rfl
    cases unnamed : file.credHelpers.lookup registry with
    | some helper =>
      rw [helperFor_of_named unnamed]
      exact .named unnamed
    | none =>
      rw [helperFor_of_unnamed unnamed inside]
      cases unhosted : file.credHelpers.lookup (RegistryFile.hostOf registry) with
      | some helper => exact .hosted unnamed inside unhosted
      | none =>
        cases store : client.settings.credentialsStore with
        | some helper => exact .settings unnamed inside unhosted store
        | none => exact .standard unnamed inside unhosted store
  · intro choice
    cases choice with
    | named own => exact helperFor_of_named own
    | hosted unnamed inside own => simp [helperFor_of_unnamed unnamed inside, own]
    | settings unnamed inside unhosted store => simp [helperFor_of_unnamed unnamed inside, unhosted, store]
    | standard unnamed inside unhosted unset => simp [helperFor_of_unnamed unnamed inside, unhosted, unset]

/-- An address of which nothing is said as written is served like its host. -/
theorem helperFor_of_host (unnamed : file.credHelpers.lookup registry = none) {host : String}
    (inside : HostIn registry host) : client.helperFor registry file = client.helperFor host file := by
  rw [helperFor_of_unnamed unnamed inside]
  cases own : file.credHelpers.lookup host with
  | some helper =>
    rw [helperFor_of_named own]
    rfl
  | none => rw [helperFor_of_unnamed own (RegistryFile.hostIn_self inside.free), own]

/-! ## The answer of a helper -/

/-- What a client makes of the answer of a helper: there are no credentials where the helper knows none, and every other
error is passed on. -/
def passedOn : Except CredentialError Credentials → Except ClientError (Option Credentials)
  | .ok record => .ok (some record)
  | .error (.notFound _) => .ok none
  | .error (.store cause) => .error (.credentials (.store cause))

theorem registryCredentials_of_none (none : client.helperFor registry file = none) (process : Environment) (w : World) :
    client.registryCredentials registry file process w = (.ok .none, w) := by
  unfold registryCredentials
  rw [none]

/-- Where there is a helper it is asked for the registry as written, once. -/
theorem registryCredentials_of_some {helper : String} (some : client.helperFor registry file = some helper)
    (process : Environment) (w : World) :
    let store := HelperStore.create helper process client.helperEnvironment w.files
    client.registryCredentials registry file process w =
      (passedOn (store.get registry w).1, store.perform w (.get registry)) := by
  intro store
  unfold registryCredentials HelperStore.perform
  simp only [some]
  rcases store.get registry w with ⟨answer, after⟩
  cases answer with
  | ok record => rfl
  | error error => cases error <;> rfl

/-- A request to get leaves the world to the helper, which is started once at most. -/
theorem perform_get {store : HelperStore} (patient : store.timeout = none) (w : World) :
    store.perform w (.get registry) =
      match store.executable with
      | none => w
      | some path => (w.start path ["get"] store.environment (some (Text.encode registry)) false).2 := by
  cases found : store.executable with
  | none => exact (store.answer_of_missing w (.get registry) found).2
  | some path =>
    rw [HelperStore.perform_of_found found, patient]
    rfl

/-! ## The credentials of a registry -/

/-- For every registry there is one choice. Where no helper is chosen there are no credentials, and nothing is started.
Where one is chosen, it is asked for the registry as written, it alone is started, once at most, and what it answers is
passed on. Of an address with a host in it the choice is the one for the host, unless the file has a helper for the
address as written. -/
theorem credentials_of_registry :
    (∀ (client : Client) (file : RegistryFile) (registry : String), ∃! helper, client.Choice file registry helper) ∧
    (∀ (client : Client) (file : RegistryFile) (registry : String) (process : Environment) (w : World),
      client.Choice file registry none → client.registryCredentials registry file process w = (.ok none, w)) ∧
    (∀ (client : Client) (file : RegistryFile) (registry : String) (process : Environment) (w : World) (helper : String),
      client.Choice file registry (some helper) →
      let store := HelperStore.create helper process client.helperEnvironment w.files
      let asked := client.registryCredentials registry file process w
      store.program = helperPrefix ++ helper ∧ asked.1 = passedOn (store.get registry w).1 ∧
        Given "get" (some (Text.encode registry)) w asked.2 ∧
        asked.2 =
          match store.executable with
          | none => w
          | some path => (w.start path ["get"] store.environment (some (Text.encode registry)) false).2) ∧
    ∀ (client : Client) (file : RegistryFile) (lead host path : String) (helper : Option String),
      '/' ∉ host.toList → IsLead lead (host ++ path) → IsPath path →
      file.credHelpers.lookup (lead ++ host ++ path) = none →
      (client.Choice file (lead ++ host ++ path) helper ↔ client.Choice file host helper) := by
  refine ⟨?_, ?_, ?_, ?_⟩
  · intro client file registry
    refine ⟨client.helperFor registry file, helperFor_eq_iff.mp rfl, ?_⟩
    intro helper choice
    exact (helperFor_eq_iff.mpr choice).symm
  · intro client file registry process w choice
    exact registryCredentials_of_none (helperFor_eq_iff.mpr choice) process w
  · intro client file registry process w helper choice store asked
    have answered : asked = (passedOn (store.get registry w).1, store.perform w (.get registry)) :=
      registryCredentials_of_some (helperFor_eq_iff.mpr choice) process w
    rw [answered]
    exact ⟨rfl, rfl, store.perform_given w (.get registry), perform_get rfl w⟩
  · intro client file lead host path helper free isLead isPath unnamed
    rw [← helperFor_eq_iff, ← helperFor_eq_iff, helperFor_of_host unnamed (RegistryFile.hostIn_of_parts free isLead isPath)]

theorem credentials_of_registry_unknown :
    let dispatcher := Dispatcher.create "/var/run/docker.sock" .standard
    let plain : Client := ⟨.standard, dispatcher, []⟩
    let client : Client := ⟨{ Settings.standard with credentialsStore := some "vault" }, dispatcher, []⟩
    let file : RegistryFile := ⟨some "desktop", [("quay.io", "robot")], []⟩
    let place : Place := .outside ["bin", "docker-credential-robot"]
    let w := World.fresh ⟨[(place, .program (HelperStore.forgetful true) true)]⟩
    let asked := client.registryCredentials "https://quay.io/v2/" file [("PATH", "/bin")] w
    (∃! helper, client.Choice file "https://quay.io/v2/" helper) ∧
    plain.registryCredentials "quay.io" .empty [] w = (.ok none, w) ∧
    asked.1 = .ok none ∧ Given "get" (some (Text.encode "https://quay.io/v2/")) w asked.2 ∧
    asked.2 = (w.start "/bin/docker-credential-robot" ["get"] [("PATH", "/bin")]
      (some (Text.encode "https://quay.io/v2/")) false).2 ∧
    asked.2.started.length = 1 := by
  intro dispatcher plain client file place w asked
  obtain ⟨unique, unserved, served, hosted⟩ := credentials_of_registry
  have free : '/' ∉ "quay.io".toList := by decide
  have isPath : IsPath "/v2/" := by simp [IsPath]
  have choice : client.Choice file "https://quay.io/v2/" (some "robot") :=
    (hosted client file "https://" "quay.io" "/v2/" (some "robot") free (.inl (by decide)) isPath (by decide)).mpr
      (.named (by decide))
  have nobody : plain.Choice .empty "quay.io" none := .standard rfl (RegistryFile.hostIn_self free) rfl rfl
  obtain ⟨-, answered, given, left⟩ := served client file "https://quay.io/v2/" [("PATH", "/bin")] w "robot" choice
  have found : (HelperStore.create "robot" [("PATH", "/bin")] [] w.files).executable =
      some "/bin/docker-credential-robot" := by
    decide +kernel
  refine ⟨unique client file "https://quay.io/v2/", unserved plain .empty "quay.io" [] w nobody, answered.trans ?_, given,
    left.trans ?_, ?_⟩
  · decide +kernel
  · simp only [client, found]
    rfl
  · decide +kernel

/-- With no scheme before a host the address may still begin with one: the host is then another. -/
theorem credentials_of_host_with_scheme :
    ¬ ∀ (client : Client) (file : RegistryFile) (lead host path : String) (helper : Option String),
      '/' ∉ host.toList → lead ∈ schemes ∨ lead = "" → IsPath path →
      file.credHelpers.lookup (lead ++ host ++ path) = none →
      (client.Choice file (lead ++ host ++ path) helper ↔ client.Choice file host helper) := by
  intro same
  let client : Client := ⟨.standard, .create "/var/run/docker.sock" .standard, []⟩
  let file : RegistryFile := ⟨none, [("https:", "a"), ("quay.io", "b")], []⟩
  have bare := same client file "" "https:" "//quay.io" (some "a") (by decide) (.inr rfl) (by simp [IsPath]) (by decide)
  rw [← helperFor_eq_iff, ← helperFor_eq_iff] at bare
  exact absurd bare (by decide +kernel)

end Client

end EngineClient
