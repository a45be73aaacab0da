import EngineClient.Proofs.Command.CredentialCommands
/-!
# Helpers named in reports

A command that asks a helper (`Asks`) reports the error of the request when it fails (`exit_of_asks`), so the report
names the helper exactly where the message of the error does: unless the system refused to start it
(`failures_name_helper_iff`).
-/

namespace EngineClient.Command

open HelperStore (Request)

variable {settings : Settings} {s : Surroundings} {w : World} {action : Action} {helper : String} {request : Request}
  {error : CredentialError} {program : String}

/-! ## Requests of commands -/

/-- A command asks a helper: the one that it was told or would take without being told, or the one that serves a
registry. -/
inductive Asks (settings : Settings) (s : Surroundings) (w : World) : Action → String → Request → Prop
  | get {named : Option String} {helper server : String} (takes : helperName named settings s w.files = .ok helper) :
      Asks settings s w (.get named server) helper (.get server)
  | store {named : Option String} {helper server username secret : String}
      (takes : helperName named settings s w.files = .ok helper) (typed : Text.decode s.stdin = .ok secret) :
      Asks settings s w (.store named server username) helper (.put server username (secretOf secret))
  | erase {named : Option String} {helper server : String} (takes : helperName named settings s w.files = .ok helper) :
      Asks settings s w (.erase named server) helper (.erase server)
  | list {named : Option String} {helper : String} (takes : helperName named settings s w.files = .ok helper) :
      Asks settings s w (.list named) helper .list
  | lookup {client : Client} {file : RegistryFile} {helper registry : String}
      (created : Client.create settings = .ok client)
      (loaded : RegistryFile.loadStandard w.files s.env s.home = .ok file)
      (serves : Client.Choice { client with helperEnvironment := s.env } file registry (some helper)) :
      Asks settings s w (.lookup registry) helper (.get registry)

/-- The helper as a command has it. -/
def asked (s : Surroundings) (w : World) (helper : String) : HelperStore := .create helper s.process s.env w.files

/-- What a failure leaves behind. -/
def failureExit (chain : Chain) : Exit := ⟨1, "", some (report chain)⟩

private theorem error_of_map {ε α β : Type} {outcome : Except ε α} {wrap : α → β} {error : ε}
    (failed : outcome.map wrap = .error error) : outcome = .error error := by
  cases outcome with
  | ok value => cases failed
  | error cause => exact congrArg Except.error (Except.error.inj failed)

theorem told_of_failed {α β : Type} {operation : Operation α} {wrap : α → β}
    (failed : operation.1.map wrap = .error error) (render : α → Json.Value) :
    (told render operation).1 = .error (credentialChain error) := by
  obtain ⟨outcome, after⟩ := operation
  obtain rfl : outcome = .error error := error_of_map failed
  rfl

theorem exit_of_takes {named : Option String} (takes : helperName named settings s w.files = .ok helper)
    {use : HelperStore → World → Except Chain Json.Value × World} {chain : Chain}
    (failed : (use (asked s w helper) w).1 = .error chain) :
    exitOf (.ran (withHelper named settings s w use)) = failureExit chain := by
  have outcome : (withHelper named settings s w use).outcome = .error chain := by
    simp only [withHelper, takes]
    exact failed
  have goesOn : (withHelper named settings s w use).stopped = false := by
    simp only [withHelper, takes]
    rfl
  simp only [exitOf, outcome, goesOn]
  rfl

/-- A command whose request fails reports the error, where it is not only that nothing is known of a registry it looks
for. -/
theorem exit_of_asks (asks : Asks settings s w action helper request)
    (failed : (asked s w helper).answer w request = .error error)
    (told : ∀ registry, action = .lookup registry → error.isNotFound = false) :
    exitOf (.ran (run action settings s w)) = failureExit (credentialChain error) := by
  cases asks with
  | get takes => exact exit_of_takes takes (told_of_failed failed _)
  | store takes typed =>
    refine exit_of_takes takes ?_
    simp only [storeSecret, typed]
    exact told_of_failed failed _
  | erase takes => exact exit_of_takes takes (told_of_failed failed _)
  | list takes => exact exit_of_takes takes (told_of_failed failed _)
  | @lookup client file helper registry created loaded serves =>
    have got : ((asked s w helper).get registry w).1 = .error error := error_of_map failed
    have searching : run (.lookup registry) settings s w = _ := run_lookup created loaded
    rw [Client.registryCredentials_of_some (Client.helperFor_eq_iff.mpr serves)] at searching
    change _ = Result.alone (searched (Client.passedOn ((asked s w helper).get registry w).1)) _ at searching
    rw [searching, got]
    cases error with
    -- That a helper knows nothing of a registry is no failure of looking for it.
    | notFound program => cases told registry rfl
    | store cause => rfl

/-! ## Names in reports -/

theorem names_report {message : String} (named : Names message program) (causes : List String) :
    Names (report (message :: causes)) program := by
  cases causes with
  | nil => exact (named.prepend _).append _
  | cons cause more =>
    cases more with
    | nil => exact (((named.prepend _).append _).append _).append _
    | cons next rest => exact (((named.prepend _).append _).append _).append _

/-- The report of a refusal is made of its message alone. -/
theorem markless_report (refuses : error.Refuses) (markless : Markless error.message) :
    Markless (report (credentialChain error)) := by
  rw [credentialChain, CredentialError.causes_of_refuses refuses]
  have opened : Markless ("Error: " ++ error.message) := .append (by decide +kernel) markless (.inl (by decide +kernel))
  exact opened.append (by decide +kernel) (.inr (by decide +kernel))

/-- Every text of a credential error names its program, alone and as an error of the client, unless it is a refusal of
the system to start the program: the text of one is the same for all programs. So a request that fails tells which
helper failed, in the message of the error and in the report of the command that asked for it, exactly where the system
did not refuse to start the helper. -/
theorem failures_name_helper_iff (error : CredentialError) :
    (ClientError.credentials error).message = error.message ∧
    (¬ error.Refuses → Names error.message error.program) ∧
    (error.Refuses → ∀ program, (error.about program).message = error.message) ∧
    ((∀ program, Names (error.about program).message program) ↔ ¬ error.Refuses) ∧
    (∀ (store : HelperStore) (helper : String) (w : World) (request : Request),
      store.program = helperPrefix ++ helper → store.answer w request = .error error →
      error.program = store.program ∧ (error.Refuses ↔ store.Refused w request) ∧
        (Names error.message store.program ↔ ¬ store.Refused w request)) ∧
    ∀ (settings : Settings) (s : Surroundings) (w : World) (action : Action) (helper : String) (request : Request),
      Asks settings s w action helper request → (asked s w helper).answer w request = .error error →
      (∀ registry, action = .lookup registry → error.isNotFound = false) →
      ∃ text, exitOf (.ran (run action settings s w)) = ⟨1, "", some text⟩ ∧
        (Names text (helperPrefix ++ helper) ↔ ¬ (asked s w helper).Refused w request) := by
  refine ⟨rfl, CredentialError.names_of_not_refuses, CredentialError.message_about, CredentialError.names_about_iff,
    ?_, ?_⟩
  · intro store helper w request own failed
    exact ⟨HelperStore.program_of_answer failed, HelperStore.refuses_iff failed,
      HelperStore.names_iff_of_answer own failed id fun _ markless => markless⟩
  · intro settings s w action helper request asks failed told
    have names :=
      HelperStore.names_iff_of_answer rfl failed (fun named => names_report named error.causes) markless_report
    exact ⟨_, exit_of_asks asks failed told, names⟩

/-- A file in the place of a helper that is no program. -/
private def stubbed : World :=
  .fresh ⟨[(.outside ["bin", "docker-credential-robot"], .program (HelperStore.forgetful true) true),
    (.outside ["bin", "docker-credential-stub"], .file (Text.encode "no program") true)]⟩

private def inBin : Surroundings := ⟨[("PATH", "/bin")], [], "/root", [], ⟨[], true⟩⟩

private def stubRefused : CredentialError :=
  .store (.launch "docker-credential-stub" 8 "Exec format error (os error 8)")

theorem failures_name_helper_iff_stub :
    let overdue : CredentialError := .store (.timeout "docker-credential-robot" (.ofSeconds 5))
    (¬ overdue.Refuses ∧ Names overdue.message "docker-credential-robot") ∧
    (stubRefused.Refuses ∧ (stubRefused.about "docker-credential-robot").message = stubRefused.message) ∧
    ((asked inBin stubbed "robot").answer stubbed (.get "quay.io") = .error (.notFound "docker-credential-robot") ∧
      ¬ (asked inBin stubbed "robot").Refused stubbed (.get "quay.io")) ∧
    Asks .standard inBin stubbed (.erase (some "stub") "quay.io") "stub" (.erase "quay.io") ∧
    (asked inBin stubbed "stub").answer stubbed (.erase "quay.io") = .error stubRefused ∧
    ∃ text, exitOf (.ran (run (.erase (some "stub") "quay.io") .standard inBin stubbed)) = ⟨1, "", some text⟩ ∧
      ¬ Names text "docker-credential-stub" := by
  intro overdue
  have lost : (asked inBin stubbed "robot").answer stubbed (.get "quay.io") =
      .error (.notFound "docker-credential-robot") := by
    decide +kernel
  have refused : (asked inBin stubbed "stub").answer stubbed (.erase "quay.io") = .error stubRefused := by
    decide +kernel
  have asks : Asks .standard inBin stubbed (.erase (some "stub") "quay.io") "stub" (.erase "quay.io") := .erase rfl
  obtain ⟨-, named, -⟩ := failures_name_helper_iff overdue
  obtain ⟨-, -, -, -, found, -⟩ := failures_name_helper_iff (.notFound "docker-credential-robot")
  obtain ⟨-, -, same, -, refusal, told⟩ := failures_name_helper_iff stubRefused
  obtain ⟨-, -, started⟩ := found _ "robot" stubbed (.get "quay.io") rfl lost
  obtain ⟨-, isRefused, -⟩ := refusal _ "stub" stubbed (.erase "quay.io") rfl refused
  obtain ⟨text, left, names⟩ := told _ _ _ _ _ _ asks refused (by simp)
  exact ⟨⟨id, named id⟩, ⟨trivial, same trivial _⟩, ⟨lost, started.mp (by decide +kernel)⟩, asks, refused, text, left,
    mt names.mp (not_not_intro (isRefused.mp trivial))⟩

/-- A helper that the system refuses to start is named by no text of the error, and not by the report of a command. -/
theorem refusal_hides_helper :
    let words := ["credentials", "get", "--helper", "stub", "quay.io"]
    let text := "Error: Unexpected OS error \"Exec format error (os error 8)\", errno=8\n"
    stubRefused.program = "docker-credential-stub" ∧ ¬ Names stubRefused.message "docker-credential-stub" ∧
      ¬ Names (ClientError.credentials stubRefused).message "docker-credential-stub" ∧
      ((asked inBin stubbed "stub").get "quay.io" stubbed).1 = .error stubRefused ∧
      exitOf (complete words inBin stubbed) = ⟨1, "", some text⟩ ∧ ¬ Names text "docker-credential-stub" := by
  refine ⟨rfl, ?_, ?_, ?_, ?_, ?_⟩ <;> decide +kernel

end EngineClient.Command
