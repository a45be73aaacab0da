import EngineClient.Command.Run
import EngineClient.Proofs.Client.RegistryHelpers
import EngineClient.Proofs.Helper.NamedPrograms
/-!
# Two ways to credentials

Credentials are got from a helper that is told, or searched for a registry whose helper is chosen. Where no helper is
told and the registry has none of its own, both ask the same helper in the same way, and tell the same of its answer:
only where it knows nothing of the registry, getting fails and searching finds nothing (`Agree`).
-/

namespace EngineClient

open RegistryFile (HostIn)

/-! ## Answers of a helper -/

namespace World

/-- Where there is nothing to do for a program, nothing is printed. -/
theorem start_of_idle {w : World} {path : String} (idle : w.awaiting path = none) (arguments : List String)
    (env : Environment) (input : Option Bytes) {outcome : Outcome}
    (ended : (w.start path arguments env input false).1 = .ended outcome) : outcome = ⟨[], [], .exited 0⟩ := by
  unfold World.awaiting at idle
  unfold World.start at ended
  split_ifs at ended with unpassable
  cases located : w.files.locate path with
  | error cause => simp [located] at ended
  | ok place =>
    simp only [located] at idle ended
    split at idle
    · rename_i program found
      simp only [found] at ended
      rw [show program.next = (none, program.next.2) from Prod.ext idle rfl] at ended
      simpa using ended.symm
    · rename_i other
      split at ended
      · rename_i program found
        exact absurd found (other program)
      all_goals cases ended

/-- A program that comes to an end has been started, or does nothing. -/
theorem started_of_ended {w : World} {path : String} {arguments : List String} {env : Environment} {input : Option Bytes}
    {outcome : Outcome} (ended : (w.start path arguments env input false).1 = .ended outcome) :
    outcome = ⟨[], [], .exited 0⟩ ∨ ∃ start, (w.start path arguments env input false).2.started = w.started ++ [start] := by
  cases passable : env.all fun entry => isPassable entry.1 && isPassable entry.2 with
  | true =>
    cases next : w.awaiting path with
    | none => exact .inl (start_of_idle next arguments env input ended)
    | some behaviour => exact .inr (start_of_awaiting next passable arguments input).2
  | false =>
    unfold World.start at ended
    rw [if_pos (by rw [Bool.not_eq_true']; exact passable)] at ended
    cases ended

end World

namespace HelperStore
variable {store : HelperStore} {request : Request} {launch : Launch} {server : String} {w : World}

/-- A run that prints nothing and succeeds does not tell that a server is unknown. -/
theorem Verdict.not_silent {program : String} :
    ¬ store.Verdict request (.ended ⟨[], [], .exited 0⟩) (.error (.notFound program)) := by
  intro verdict
  have unread : Credentials.read [] = .error .ending := by decide +kernel
  cases verdict with
  | unknown fails tells marked => exact fails rfl
  | empty succeeds gets printed blank => exact absurd (unread.symm.trans printed) (by simp)

/-- An error of getting credentials is the verdict on what came of the helper, where there is one. -/
theorem verdict_of_get {path : String} (found : store.executable = some path) (patient : store.timeout = none)
    {error : CredentialError} (wrong : (store.get server w).1 = .error error) :
    store.Verdict (.get server) (w.start path ["get"] store.environment (some (Text.encode server)) false).1
      (.error error) := by
  obtain ⟨-, -, verdict⟩ := store.answer_of_found path w (.get server) found patient rfl
  apply (verdict _).mp
  rw [answer, wrong]
  rfl

/-- Every error of getting credentials tells of the helper. -/
theorem get_program {error : CredentialError} (wrong : (store.get server w).1 = .error error) :
    error.program = store.program := by
  have failed : store.answer w (.get server) = .error error := by
    rw [answer, wrong]
    rfl
  exact program_of_answer failed

/-- A helper that knows nothing of a server was started. -/
theorem started_of_notFound (patient : store.timeout = none) {program : String}
    (lost : (store.get server w).1 = .error (.notFound program)) :
    ∃ start, (store.perform w (.get server)).started = w.started ++ [start] := by
  cases found : store.executable with
  | none =>
    simp only [get, execute, found] at lost
    cases lost
  | some path =>
    have verdict := verdict_of_get found patient lost
    rw [perform_of_found found, patient]
    change ∃ start, (w.start path ["get"] store.environment (some (Text.encode server)) false).2.started = _
    cases launch : (w.start path ["get"] store.environment (some (Text.encode server)) false).1 with
    | failed cause =>
      rw [launch] at verdict
      cases verdict
    | overdue =>
      rw [launch] at verdict
      cases verdict
    | ended outcome =>
      rcases World.started_of_ended launch with rfl | started
      · rw [launch] at verdict
        exact absurd verdict Verdict.not_silent
      · exact started

end HelperStore

theorem Client.create_settings {settings : Settings} {client : Client} (created : create settings = .ok client) :
    client.settings = settings := by
  unfold create at created
  split at created
  · cases created
  · split at created
    all_goals cases created
    rfl

/-! ## Words of errors -/

theorem Credentials.toValue_inj {record other : Credentials} (same : record.toValue = other.toValue) :
    record = other := by
  rw [← record.ofValue_toValue, same, other.ofValue_toValue]

theorem Credentials.toValue_ne_null (record : Credentials) : record.toValue ≠ .null := by
  unfold toValue Json.Value.ofMembers
  simp

private theorem head?_append {lead : String} {c : Char} (first : lead.toList.head? = some c) (text : String) :
    (lead ++ text).toList.head? = some c := by
  rw [String.toList_append, List.head?_append, first, Option.some_or]

/-- That a server is unknown is told in words of its own. -/
theorem StoreError.message_ne {cause : StoreError} {helper : String} (own : cause.program = helperPrefix ++ helper)
    (program : String) : cause.message ≠ (CredentialError.notFound program).message := by
  have unknown : (CredentialError.notFound program).message.toList.head? = some 'N' := head?_append (by decide) program
  have other : ∃ c ∈ cause.message.toList.head?, c ≠ 'N' := by
    cases cause with
    | notInstalled named =>
      obtain rfl : named = helperPrefix ++ helper := own
      exact ⟨'d', head?_append (head?_append (by decide) helper) _, by decide⟩
    | launch named number words =>
      exact ⟨'U', head?_append (head?_append (head?_append (by decide) words) _) _, by decide⟩
    | helperFailed named code words =>
      exact ⟨'C', head?_append (head?_append (head?_append (head?_append (by decide) named) _) words) _, by decide⟩
    | timeout named after =>
      exact ⟨'C', head?_append (head?_append (head?_append (by decide) named) _) _, by decide⟩
    | malformedOutput named fault =>
      exact ⟨'C', head?_append (head?_append (head?_append (by decide) named) _) _, by decide⟩
    | io named trouble =>
      exact ⟨'I', head?_append (head?_append (head?_append (by decide) named) _) _, by decide⟩
  intro same
  obtain ⟨c, first, differs⟩ := other
  rw [same, unknown] at first
  exact differs (Option.some.inj first).symm

namespace Command
variable {settings : Settings} {client : Client} {s : Surroundings} {w : World} {file : RegistryFile}
  {registry helper : String}

/-! ## Getting and searching -/

/-- Why getting fails where no helper is known. -/
def noHelper : Chain := ["no credential helper given; pass --helper or set credsStore"]

/-- The helper that is asked where none is told: the one of the settings, or else the one of the registry file. -/
theorem helperName_eq (loaded : RegistryFile.loadStandard w.files s.env s.home = .ok file) :
    helperName none settings s w.files =
      match settings.credentialsStore.or file.credsStore with
      | none => .error noHelper
      | some helper => .ok helper := by
  unfold helperName
  cases settings.credentialsStore with
  | some helper => rfl
  | none =>
    simp only [loaded, Option.none_or]
    cases file.credsStore with
    | none => rfl
    | some helper => rfl

/-- What getting tells of the answer of a helper. -/
def gotten : Except CredentialError Credentials → Except Chain Json.Value
  | .ok record => .ok record.toValue
  | .error error => .error (credentialChain error)

/-- What searching tells of credentials. -/
def searched : Except ClientError (Option Credentials) → Except Chain Json.Value
  | .ok none => .ok .null
  | .ok (some record) => .ok record.toValue
  | .error error => .error (clientChain error)

theorem run_get_of_none (named : helperName none settings s w.files = .error noHelper) :
    run (.get none registry) settings s w = .alone (.error noHelper) w := by
  simp only [run, withHelper, named]

theorem run_get_of_some (named : helperName none settings s w.files = .ok helper) :
    let store := HelperStore.create helper s.process s.env w.files
    run (.get none registry) settings s w = .alone (gotten (store.get registry w).1) (store.perform w (.get registry)) := by
  intro store
  simp only [run, withHelper, named, HelperStore.perform]
  rcases store.get registry w with ⟨answer, after⟩
  cases answer with
  | ok record => rfl
  | error error => rfl

/-- Searching is asking the client, which gives the helper the variables of the command. -/
theorem run_lookup (created : Client.create settings = .ok client)
    (loaded : RegistryFile.loadStandard w.files s.env s.home = .ok file) :
    let asked := { client with helperEnvironment := s.env }.registryCredentials registry file s.process w
    run (.lookup registry) settings s w = .alone (searched asked.1) asked.2 := by
  intro asked
  simp only [run, lookup, created, loaded]
  rcases answered : asked with ⟨answer, after⟩
  simp only [asked] at answered
  rw [answered]
  cases answer with
  | error error => rfl
  | ok found =>
    cases found with
    | none => rfl
    | some record => rfl

/-! ## Agreement -/

section
variable {answer : Except CredentialError Credentials} {program : String}

theorem gotten_record_iff (record : Credentials) :
    gotten answer = .ok record.toValue ↔ searched (Client.passedOn answer) = .ok record.toValue := by
  cases answer with
  | ok found => rfl
  | error error =>
    constructor
    · intro told
      cases told
    · intro told
      cases error with
      | notFound program => exact absurd (Except.ok.inj told).symm record.toValue_ne_null
      | store cause => cases told

theorem gotten_unknown_iff (own : ∀ error, answer = .error error → error.program = helperPrefix ++ helper) :
    (∃ program, gotten answer = .error (credentialChain (.notFound program))) ↔
      searched (Client.passedOn answer) = .ok .null := by
  cases answer with
  | ok record =>
    constructor
    · rintro ⟨program, told⟩
      cases told
    · intro told
      exact absurd (Except.ok.inj told) record.toValue_ne_null
  | error error =>
    cases error with
    | notFound program => exact ⟨fun _ => rfl, fun _ => ⟨program, rfl⟩⟩
    | store cause =>
      constructor
      · rintro ⟨program, told⟩
        have words : cause.message = (CredentialError.notFound program).message := (List.cons.inj (Except.error.inj told)).1
        exact absurd words (StoreError.message_ne (own _ rfl) program)
      · intro told
        cases told

theorem gotten_failure_iff (own : ∀ error, answer = .error error → error.program = program) {chain : Chain}
    (other : chain ≠ credentialChain (.notFound program)) :
    gotten answer = .error chain ↔ searched (Client.passedOn answer) = .error chain := by
  cases answer with
  | ok record =>
    constructor
    · intro told
      cases told
    · intro told
      cases told
  | error error =>
    cases error with
    | notFound named =>
      obtain rfl : named = program := own _ rfl
      constructor
      · intro told
        exact absurd (Except.error.inj told).symm other
      · intro told
        cases told
    | store cause => rfl

theorem notFound_of_nothing (told : searched (Client.passedOn answer) = .ok .null) :
    ∃ program, answer = .error (.notFound program) := by
  cases answer with
  | ok record => exact absurd (Except.ok.inj told) record.toValue_ne_null
  | error error =>
    cases error with
    | notFound program => exact ⟨program, rfl⟩
    | store cause => cases told

end

/-- Getting and searching run one helper in the same way, and tell the same of its answer: both the same record, or both
the same failure. Where the helper was started and knows nothing of the registry, getting fails and searching finds
nothing. -/
structure Agree (store : HelperStore) (registry : String) (w : World) (got found : Result) : Prop where
  worlds : got.world = found.world
  given : Given "get" (some (Text.encode registry)) w got.world
  started : got.world =
    match store.executable with
    | none => w
    | some path => (w.start path ["get"] store.environment (some (Text.encode registry)) false).2
  answers : got.outcome = gotten (store.get registry w).1 ∧ found.outcome = searched (Client.passedOn (store.get registry w).1)
  records : ∀ record : Credentials, got.outcome = .ok record.toValue ↔ found.outcome = .ok record.toValue
  same : ∀ record other : Credentials, got.outcome = .ok record.toValue → found.outcome = .ok other.toValue →
    record = other
  unknown : (∃ program, got.outcome = .error (credentialChain (.notFound program))) ↔
    found.outcome = .ok .null ∧ ∃ start, found.world.started = w.started ++ [start]
  failures : ∀ chain, chain ≠ credentialChain (.notFound store.program) →
    (got.outcome = .error chain ↔ found.outcome = .error chain)

/-- What one answer of a helper is told as agrees. -/
theorem agree_of_answer {store : HelperStore} (patient : store.timeout = none)
    (own : store.program = helperPrefix ++ helper) (w : World) (registry : String) :
    Agree store registry w (.alone (gotten (store.get registry w).1) (store.perform w (.get registry)))
      (.alone (searched (Client.passedOn (store.get registry w).1)) (store.perform w (.get registry))) where
  worlds := rfl
  given := store.perform_given w (.get registry)
  started := Client.perform_get patient w
  answers := ⟨rfl, rfl⟩
  records := gotten_record_iff
  same record other told shown :=
    Credentials.toValue_inj (Except.ok.inj (((gotten_record_iff record).mp told).symm.trans shown))
  unknown := by
    refine (gotten_unknown_iff fun error wrong => (HelperStore.get_program wrong).trans own).trans ?_
    constructor
    · intro nothing
      obtain ⟨program, lost⟩ := notFound_of_nothing nothing
      exact ⟨nothing, HelperStore.started_of_notFound patient lost⟩
    · rintro ⟨nothing, -⟩
      exact nothing
  failures chain other := gotten_failure_iff (fun error wrong => HelperStore.get_program wrong) other

/-- Getting credentials without telling a helper, and searching them for a registry that has no helper of its own, agree
for every helper and whatever it does. Where there is no helper getting fails, searching finds nothing, and nothing is
started. -/
theorem credential_commands_agree (created : Client.create settings = .ok client)
    (loaded : RegistryFile.loadStandard w.files s.env s.home = .ok file)
    (unnamed : file.credHelpers.lookup registry = none)
    (unhosted : ∀ host, HostIn registry host → file.credHelpers.lookup host = none) :
    let got := run (.get none registry) settings s w
    let found := run (.lookup registry) settings s w
    match settings.credentialsStore.or file.credsStore with
    | none => got.outcome = .error noHelper ∧ found.outcome = .ok .null ∧ got.world = w ∧ found.world = w
    | some helper => Agree (.create helper s.process s.env w.files) registry w got found := by
  intro got found
  let asking : Client := { client with helperEnvironment := s.env }
  have inside : HostIn registry (RegistryFile.hostOf registry) := RegistryFile.hostOf_eq_iff.mp rfl
  have chosen : asking.helperFor registry file = settings.credentialsStore.or file.credsStore := by
    rw [Client.helperFor_of_unnamed unnamed inside, unhosted _ inside, Option.none_or]
    exact congrArg (·.credentialsStore.or file.credsStore) (Client.create_settings created)
  have named : helperName none settings s w.files = _ := helperName_eq loaded
  have searching : found = .alone (searched (asking.registryCredentials registry file s.process w).1)
      (asking.registryCredentials registry file s.process w).2 := run_lookup created loaded
  cases serves : settings.credentialsStore.or file.credsStore with
  | none =>
    rw [serves] at chosen named
    have getting : got = .alone (.error noHelper) w := run_get_of_none named
    rw [Client.registryCredentials_of_none chosen] at searching
    rw [getting, searching]
    exact ⟨rfl, rfl, rfl, rfl⟩
  | some helper =>
    rw [serves] at chosen named
    have getting : got = .alone _ _ := run_get_of_some named
    rw [Client.registryCredentials_of_some chosen s.process w] at searching
    rw [getting, searching]
    exact agree_of_answer rfl rfl w registry

/-- The helper of the registry file is asked for a registry that it does not know. -/
theorem credential_commands_agree_unknown :
    let content := Text.encode "\x7b\"credsStore\":\"robot\"\x7d"
    let files : Files := ⟨[(.outside ["etc", "config.json"], .file content false),
      (.outside ["bin", "docker-credential-robot"], .program (HelperStore.forgetful true) true)]⟩
    let s : Surroundings := ⟨[], [("DOCKER_CONFIG", "/etc"), ("PATH", "/bin")], "/root", [], ⟨[], true⟩⟩
    let w := World.fresh files
    let got := run (.get none "quay.io") .standard s w
    let found := run (.lookup "quay.io") .standard s w
    Agree (.create "robot" [] s.env files) "quay.io" w got found ∧
      (∃ program, got.outcome = .error (credentialChain (.notFound program))) ∧
      ∃ start, got.world.started = [start] := by
  intro content files s w got found
  have created : Client.create .standard =
      .ok ⟨.standard, .create "/var/run/docker.sock" Settings.standard.dispatchSettings, []⟩ := by
    decide +kernel
  have loaded : RegistryFile.loadStandard w.files s.env s.home = .ok ⟨some "robot", [], []⟩ := by decide +kernel
  have agree : Agree (.create "robot" [] s.env files) "quay.io" w got found :=
    credential_commands_agree created loaded rfl fun _ _ => rfl
  have lost : ((HelperStore.create "robot" [] s.env files).get "quay.io" w).1 =
      .error (.notFound "docker-credential-robot") := by
    decide +kernel
  have nothing : found.outcome = .ok .null := by
    rw [agree.answers.2, lost]
    rfl
  have asked : got.world.started.length = 1 := by decide +kernel
  obtain ⟨start, alone⟩ := List.length_eq_one_iff.mp asked
  refine ⟨agree, agree.unknown.mpr ⟨nothing, start, ?_⟩, start, alone⟩
  rw [← agree.worlds, alone]
  rfl

end Command

end EngineClient
