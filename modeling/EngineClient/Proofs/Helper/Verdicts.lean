import EngineClient.Proofs.Helper.RoundTrip
import EngineClient.Proofs.Json.TextMap
import EngineClient.Proofs.System.AlikeWorlds
import Mathlib.Data.List.Infix
/-!
# Verdicts on helper runs

What a request is answered when a helper comes to its end is decided by a table of cases (`Verdict`), of which exactly
one applies (`verdict_iff`). Whether the helper reads its input plays no part in it (`feed_of_breaks`,
`answerAll_of_alike`).
-/

namespace EngineClient

theorem Text.holds_iff (part chars : List Char) : holds part chars = true ↔ part <:+: chars := by
  induction chars with
  | nil => rw [holds, List.isEmpty_iff, List.infix_nil]
  | cons c rest ih => rw [holds, Bool.or_eq_true, List.isPrefixOf_iff_prefix, ih, List.infix_cons_iff]

/-! ## How a run ends -/

/-- The number the system reported, or 0. -/
def Failure.errorNumber : Failure → Int
  | .numbered code => code
  | _ => 0

theorem Failure.isNotFound_iff (cause : Failure) :
    cause.isNotFound = true ↔ cause = .noEntry ∨ cause = .ofKind .notFound := by
  constructor
  · intro gone
    unfold isNotFound at gone
    split at gone
    · exact .inr rfl
    · exact .inl rfl
    · cases gone
  · rintro (rfl | rfl)
    · rfl
    · rfl

/-- The code of an exit; a signal has none. -/
def Ended.code : Ended → Option Int
  | .exited code => some code
  | .signalled => none

/-- What a program has to say: its output, or its errors if the output is blank. -/
inductive Outcome.Tells (outcome : Outcome) : String → Prop
  | printed (filled : Text.trim (Text.decodeLossy outcome.stdout) ≠ "") :
      Tells outcome (Text.trim (Text.decodeLossy outcome.stdout))
  | complained (blank : Text.trim (Text.decodeLossy outcome.stdout) = "") :
      Tells outcome (Text.trim (Text.decodeLossy outcome.stderr))

namespace World

/-- Starting the program that a path leads to: it is started once, and does what is next for it. -/
theorem start_of_awaiting {w : World} {path : String} {behaviour : Behaviour} {env : Environment}
    (next : w.awaiting path = some behaviour)
    (passable : (env.all fun (name, value) => isPassable name && isPassable value) = true)
    (arguments : List String) (input : Option Bytes) :
    (w.start path arguments env input false).1 = .ended (outcome behaviour input) ∧
      ∃ start, (w.start path arguments env input false).2.started = w.started ++ [start] := by
  unfold World.awaiting at next
  unfold World.start
  rw [passable]
  cases located : w.files.locate path with
  | error cause => simp [located] at next
  | ok place =>
    simp only [located] at next ⊢
    split at next
    · rename_i program found
      simp only [found]
      rw [show program.next = (some behaviour, program.next.2) from Prod.ext next rfl]
      simp
    · cases next

/-- Nothing is overdue that has no deadline. -/
theorem start_not_overdue (w : World) (path : String) (arguments : List String) (env : Environment)
    (input : Option Bytes) : (w.start path arguments env input false).1 ≠ .overdue := by
  unfold World.start
  split_ifs
  · simp
  · split
    · simp
    · split
      · split
        · simp
        · simp
      all_goals simp

end World

namespace HelperStore
variable {store : HelperStore} {request : Request} {launch : Launch}

/-! ## Answers -/

/-- What a request is answered when all goes well. -/
inductive Answer where
  | done
  | record (found : Credentials)
  | servers (known : List (String × String))
deriving Repr, DecidableEq

/-- What a request is answered. -/
def answer (store : HelperStore) (w : World) : Request → Except CredentialError Answer
  | .put server username secret => (store.put server username secret w).1.map fun _ => .done
  | .get server => (store.get server w).1.map .record
  | .erase server => (store.erase server w).1.map fun _ => .done
  | .list => (store.list w).1.map .servers

/-- What a request takes from the output of a helper that came to a good end. -/
def Request.read (store : HelperStore) (output : Bytes) : Request → Except CredentialError Answer
  | .put _ _ _ => .ok .done
  | .get _ => (store.readRecord output).map .record
  | .erase _ => .ok .done
  | .list => (store.readList output).map .servers

/-- A request is answered by running the helper for it and reading the output. -/
theorem answer_eq (store : HelperStore) (w : World) (request : Request) :
    store.answer w request = (store.execute request.operation request.input w).1.bind (request.read store) := by
  cases ended : store.execute request.operation request.input w with
  | mk outcome after =>
    cases request <;> cases outcome <;> rw [Request.operation, Request.input] at ended <;>
      simp only [answer, put, get, erase, list, ended] <;> rfl

/-- The answers to requests, each to a store of its own, one after the other. -/
def answerAll (w : World) : List (HelperStore × Request) → List (Except CredentialError Answer)
  | [] => []
  | (store, request) :: rest => store.answer w request :: answerAll (store.perform w request) rest

/-! ## Verdicts -/

/-- What a request is answered by what comes of the helper, where no deadline is kept. -/
inductive Verdict (store : HelperStore) (request : Request) : Launch → Except CredentialError Answer → Prop
  | gone {cause : Failure} (missing : cause = .noEntry ∨ cause = .ofKind .notFound) :
      Verdict store request (.failed cause) (.error (.store (.notInstalled store.program)))
  | unstarted {cause : Failure} (present : ¬(cause = .noEntry ∨ cause = .ofKind .notFound)) :
      Verdict store request (.failed cause) (.error (.store (.launch store.program cause.errorNumber cause.message)))
  | unknown {outcome : Outcome} {words : String} (fails : outcome.ended ≠ .exited 0) (tells : outcome.Tells words)
      (marked : notFoundMarker.toList <:+: words.toList) :
      Verdict store request (.ended outcome) (.error (.notFound store.program))
  | failed {outcome : Outcome} {words : String} (fails : outcome.ended ≠ .exited 0) (tells : outcome.Tells words)
      (unmarked : ¬notFoundMarker.toList <:+: words.toList) :
      Verdict store request (.ended outcome) (.error (.store (.helperFailed store.program outcome.ended.code words)))
  | done {outcome : Outcome} (succeeds : outcome.ended = .exited 0)
      (silent : request.operation = "store" ∨ request.operation = "erase") :
      Verdict store request (.ended outcome) (.ok .done)
  | listed {outcome : Outcome} {known : List (String × String)} (succeeds : outcome.ended = .exited 0)
      (lists : request = .list) (printed : Json.read listShape outcome.stdout =
        .ok (.object (known.map fun (server, username) => (server, .text username)))) :
      Verdict store request (.ended outcome) (.ok (.servers known))
  | unlisted {outcome : Outcome} {fault : Json.Fault} (succeeds : outcome.ended = .exited 0) (lists : request = .list)
      (garbled : Json.read listShape outcome.stdout = .error fault) :
      Verdict store request (.ended outcome) (.error (.store (.malformedOutput store.program fault)))
  | got {outcome : Outcome} {server : String} {record : Credentials} (succeeds : outcome.ended = .exited 0)
      (gets : request = .get server) (printed : Credentials.read outcome.stdout = .ok record)
      (filled : ¬(record.username = "" ∧ record.secret = "")) :
      Verdict store request (.ended outcome) (.ok (.record record))
  | empty {outcome : Outcome} {server : String} {record : Credentials} (succeeds : outcome.ended = .exited 0)
      (gets : request = .get server) (printed : Credentials.read outcome.stdout = .ok record)
      (blank : record.username = "" ∧ record.secret = "") :
      Verdict store request (.ended outcome) (.error (.notFound store.program))
  | garbled {outcome : Outcome} {server : String} {fault : Json.Fault} (succeeds : outcome.ended = .exited 0)
      (gets : request = .get server) (unread : Credentials.read outcome.stdout = .error fault) :
      Verdict store request (.ended outcome) (.error (.store (.malformedOutput store.program fault)))

theorem tells_complaint (outcome : Outcome) : outcome.Tells (complaint outcome.stdout outcome.stderr) := by
  rw [complaint]
  split_ifs with blank
  · exact .complained (String.isEmpty_iff.mp blank)
  · exact .printed (mt String.isEmpty_iff.mpr blank)

theorem complaint_of_tells {outcome : Outcome} {words : String} (tells : outcome.Tells words) :
    complaint outcome.stdout outcome.stderr = words := by
  rw [complaint]
  cases tells with
  | printed filled => rw [if_neg (mt String.isEmpty_iff.mp filled)]
  | complained blank => rw [if_pos (String.isEmpty_iff.mpr blank)]

theorem launchError_of_missing {cause : Failure} (program : String)
    (missing : cause = .noEntry ∨ cause = .ofKind .notFound) : launchError program cause = .notInstalled program := by
  unfold launchError
  rw [if_pos (cause.isNotFound_iff.mpr missing)]

theorem launchError_of_present {cause : Failure} (program : String)
    (present : ¬(cause = .noEntry ∨ cause = .ofKind .notFound)) :
    launchError program cause = .launch program cause.errorNumber cause.message := by
  unfold launchError
  rw [if_neg (mt cause.isNotFound_iff.mp present)]
  cases cause <;> rfl

/-- A helper that fails is judged by its exit code and by what it has to say. -/
theorem judge_of_fails {outcome : Outcome} (store : HelperStore) (fails : outcome.ended ≠ .exited 0) :
    store.judge (.ended outcome) =
      .error (failureError store.program outcome.ended.code outcome.stdout outcome.stderr) := by
  obtain ⟨stdout, stderr, ended⟩ := outcome
  cases ended with
  | signalled => rfl
  | exited code =>
    rw [judge]
    split
    · rename_i zero
      exact absurd zero fails
    · rename_i same
      cases same
      rfl
    · rename_i other
      cases other

theorem judge_of_succeeds {outcome : Outcome} (store : HelperStore) (succeeds : outcome.ended = .exited 0) :
    store.judge (.ended outcome) = .ok outcome.stdout := by
  obtain ⟨stdout, stderr, ended⟩ := outcome
  obtain rfl : ended = .exited 0 := succeeds
  rfl

theorem readList_of_listed {output : Bytes} {known : List (String × String)} (store : HelperStore)
    (printed : Json.read listShape output =
      .ok (.object (known.map fun (server, username) => (server, .text username)))) :
    store.readList output = .ok known := by
  rw [readList, printed]
  simp [Json.Value.asText, Function.comp_def]

theorem readList_of_fault {output : Bytes} {fault : Json.Fault} (store : HelperStore)
    (garbled : Json.read listShape output = .error fault) :
    store.readList output = .error (.store (.malformedOutput store.program fault)) := by
  rw [readList, garbled]
  rfl

theorem readRecord_of_fault {output : Bytes} {fault : Json.Fault} (store : HelperStore)
    (garbled : Credentials.read output = .error fault) :
    store.readRecord output = .error (.store (.malformedOutput store.program fault)) := by
  rw [readRecord, garbled]
  rfl

theorem readRecord_of_printed {output : Bytes} {record : Credentials} (store : HelperStore)
    (printed : Credentials.read output = .ok record) :
    store.readRecord output =
      if record.username = "" ∧ record.secret = "" then .error (.notFound store.program) else .ok record := by
  rw [readRecord, printed]
  simp [Credentials.isEmpty]

/-- The answer is the verdict on how the helper ended, if it did in time. -/
theorem verdict_holds (store : HelperStore) (request : Request) (inTime : launch ≠ .overdue) :
    store.Verdict request launch ((store.judge launch).bind (request.read store)) := by
  cases launch with
  | overdue => exact absurd rfl inTime
  | failed cause =>
    rw [judge]
    by_cases missing : cause = .noEntry ∨ cause = .ofKind .notFound
    · rw [launchError_of_missing _ missing]
      exact .gone missing
    · rw [launchError_of_present _ missing]
      exact .unstarted missing
  | ended outcome =>
    by_cases succeeds : outcome.ended = .exited 0
    · rw [judge_of_succeeds store succeeds]
      change store.Verdict request (.ended outcome) (request.read store outcome.stdout)
      cases request with
      | put server username secret => exact .done succeeds (.inl rfl)
      | erase server => exact .done succeeds (.inr rfl)
      | list =>
        rw [Request.read]
        cases found : Json.read listShape outcome.stdout with
        | error fault =>
          rw [readList_of_fault store found]
          exact .unlisted succeeds rfl found
        | ok value =>
          obtain ⟨known, rfl⟩ := Json.read_map_text found
          rw [readList_of_listed store found]
          exact .listed succeeds rfl found
      | get server =>
        rw [Request.read]
        cases found : Credentials.read outcome.stdout with
        | error fault =>
          rw [readRecord_of_fault store found]
          exact .garbled succeeds rfl found
        | ok record =>
          rw [readRecord_of_printed store found]
          by_cases blank : record.username = "" ∧ record.secret = ""
          · rw [if_pos blank]
            exact .empty succeeds rfl found blank
          · rw [if_neg blank]
            exact .got succeeds rfl found blank
    · rw [judge_of_fails store succeeds, failureError]
      split_ifs with marked
      · exact .unknown succeeds (tells_complaint outcome) ((Text.holds_iff ..).mp marked)
      · exact .failed succeeds (tells_complaint outcome) (mt (Text.holds_iff ..).mpr marked)

/-- There is no other verdict. -/
theorem Verdict.eq {result : Except CredentialError Answer} (verdict : store.Verdict request launch result) :
    (store.judge launch).bind (request.read store) = result := by
  cases verdict with
  | gone missing =>
    rw [judge, launchError_of_missing _ missing]
    rfl
  | unstarted present =>
    rw [judge, launchError_of_present _ present]
    rfl
  | unknown fails tells marked =>
    rw [judge_of_fails store fails, failureError, complaint_of_tells tells]
    simp only [(Text.holds_iff ..).mpr marked, ↓reduceIte]
    rfl
  | failed fails tells unmarked =>
    rw [judge_of_fails store fails, failureError, complaint_of_tells tells]
    simp only [mt (Text.holds_iff ..).mp unmarked, Bool.false_eq_true, ↓reduceIte]
    rfl
  | done succeeds silent =>
    rw [judge_of_succeeds store succeeds]
    cases request with
    | put server username secret => rfl
    | erase server => rfl
    | get server => simp [Request.operation] at silent
    | list => simp [Request.operation] at silent
  | listed succeeds lists printed =>
    subst lists
    rw [judge_of_succeeds store succeeds, Except.bind, Request.read, readList_of_listed store printed]
    rfl
  | unlisted succeeds lists garbled =>
    subst lists
    rw [judge_of_succeeds store succeeds, Except.bind, Request.read, readList_of_fault store garbled]
    rfl
  | got succeeds gets printed filled =>
    subst gets
    rw [judge_of_succeeds store succeeds, Except.bind, Request.read, readRecord_of_printed store printed, if_neg filled]
    rfl
  | empty succeeds gets printed blank =>
    subst gets
    rw [judge_of_succeeds store succeeds, Except.bind, Request.read, readRecord_of_printed store printed, if_pos blank]
    rfl
  | garbled succeeds gets unread =>
    subst gets
    rw [judge_of_succeeds store succeeds, Except.bind, Request.read, readRecord_of_fault store unread]
    rfl

theorem verdict_iff (inTime : launch ≠ .overdue) (result : Except CredentialError Answer) :
    (store.judge launch).bind (request.read store) = result ↔ store.Verdict request launch result := by
  constructor
  · rintro rfl
    exact store.verdict_holds request inTime
  · exact Verdict.eq

/-! ## Requests in alike worlds -/

theorem execute_of_alike {v w : World} (alike : v.Alike w) (store : HelperStore) (operation : String)
    (input : Option Bytes) :
    (store.execute operation input v).1 = (store.execute operation input w).1 ∧
      (store.execute operation input v).2.Alike (store.execute operation input w).2 := by
  cases found : store.executable with
  | none =>
    unfold execute
    rw [found]
    exact ⟨rfl, alike⟩
  | some path =>
    obtain ⟨same, worlds⟩ := alike.start path [operation] store.environment input store.timeout.isSome
    rw [execute_of_found found, execute_of_found found, same]
    exact ⟨rfl, worlds⟩

/-- One request is answered the same, and what it leaves is alike. -/
theorem answer_of_alike {v w : World} (alike : v.Alike w) (store : HelperStore) (request : Request) :
    store.answer v request = store.answer w request ∧ (store.perform v request).Alike (store.perform w request) := by
  obtain ⟨same, worlds⟩ := execute_of_alike alike store request.operation request.input
  rw [answer_eq, answer_eq, same, perform_eq, perform_eq]
  exact ⟨rfl, worlds⟩

/-- Any requests are answered the same. -/
theorem answerAll_of_alike {v w : World} (alike : v.Alike w) (requests : List (HelperStore × Request)) :
    answerAll v requests = answerAll w requests := by
  induction requests generalizing v w with
  | nil => rfl
  | cons first rest ih =>
    obtain ⟨store, request⟩ := first
    obtain ⟨same, worlds⟩ := answer_of_alike alike store request
    rw [answerAll, answerAll, same, ih worlds]

/-! ## Single runs -/

theorem answer_of_missing (store : HelperStore) (w : World) (request : Request) (missing : store.executable = none) :
    store.answer w request = .error (.store (.notInstalled store.program)) ∧ store.perform w request = w := by
  rw [answer_eq, perform_eq, execute, missing]
  exact ⟨rfl, rfl⟩

/-- A helper that was found is started once at most, and how it ended has the answer as its verdict. -/
theorem answer_of_found (store : HelperStore) (path : String) (w : World) (request : Request)
    (found : store.executable = some path) (patient : store.timeout = none) {launch : Launch} {after : World}
    (started : w.start path [request.operation] store.environment request.input false = (launch, after)) :
    store.perform w request = after ∧ Given request.operation request.input w after ∧
      ∀ result, store.answer w request = result ↔ store.Verdict request launch result := by
  have inTime : launch ≠ .overdue := by
    have never := w.start_not_overdue path [request.operation] store.environment request.input
    rwa [started] at never
  have execute : store.execute request.operation request.input w = (store.judge launch, after) := by
    rw [execute_of_found found, patient, Option.isSome_none, started]
  refine ⟨by rw [perform_eq, execute], World.start_given started, ?_⟩
  intro result
  rw [answer_eq, execute]
  exact verdict_iff inTime result

theorem conclude_of_breaks (store : HelperStore) (request : Request) (pipe : Sink) (breaks : pipe.Breaks)
    (inTime : launch ≠ .overdue) (result : Except CredentialError Answer) :
    (store.conclude (feed (some pipe) request.input) launch).bind (request.read store) = result ↔
      store.Verdict request launch result := by
  rw [feed_of_breaks breaks, conclude_ok]
  exact verdict_iff inTime result

/-- Every run of a helper without a deadline has one verdict, and it is the answer. Where the helper was not found when
the store was made nothing is started. Otherwise one program is started at most, exactly one where the path leads to a
program, and the verdict is on how it ended. Where the pipe to the helper breaks while the input is written the verdict
is the same, and so are all answers in worlds that differ only in whether programs read their input. -/
theorem answer_verdict :
    (∀ (store : HelperStore) (w : World) (request : Request), store.executable = none →
      store.answer w request = .error (.store (.notInstalled store.program)) ∧ store.perform w request = w) ∧
    (∀ (store : HelperStore) (path : String) (w : World) (request : Request),
      store.executable = some path → store.timeout = none →
      ∃ launch after, w.start path [request.operation] store.environment request.input false = (launch, after) ∧
        store.perform w request = after ∧ Given request.operation request.input w after ∧
        ∀ result, store.answer w request = result ↔ store.Verdict request launch result) ∧
    (∀ (store : HelperStore) (path : String) (w : World) (request : Request) (behaviour : Behaviour),
      store.executable = some path → store.timeout = none → w.awaiting path = some behaviour →
      (store.environment.all fun (name, value) => World.isPassable name && World.isPassable value) = true →
      (∃ start, (store.perform w request).started = w.started ++ [start]) ∧
        ∀ result, store.answer w request = result ↔
          store.Verdict request (.ended (World.outcome behaviour request.input)) result) ∧
    (∀ (store : HelperStore) (request : Request) (launch : Launch) (pipe : Sink)
        (result : Except CredentialError Answer), launch ≠ .overdue → pipe.Breaks →
      ((store.conclude (feed (some pipe) request.input) launch).bind (request.read store) = result ↔
        store.Verdict request launch result)) ∧
    ∀ v w : World, v.Alike w → ∀ requests, answerAll v requests = answerAll w requests := by
  refine ⟨answer_of_missing, ?_, ?_, ?_, fun v w alike requests => answerAll_of_alike alike requests⟩
  · intro store path w request found patient
    cases started : w.start path [request.operation] store.environment request.input false with
    | mk launch after => exact ⟨launch, after, rfl, store.answer_of_found path w request found patient started⟩
  · intro store path w request behaviour found patient next passable
    obtain ⟨ended, start, noted⟩ := World.start_of_awaiting next passable [request.operation] request.input
    obtain ⟨performed, -, answered⟩ := store.answer_of_found path w request found patient (Prod.ext ended rfl)
    exact ⟨⟨start, by rw [performed, noted]⟩, answered⟩
  · intro store request launch pipe result inTime breaks
    exact store.conclude_of_breaks request pipe breaks inTime result

/-- A helper that does not know the server, and tells so among its errors. -/
def forgetful (reads : Bool) : Program :=
  ⟨0, [], [⟨[0x20], Text.encode notFoundMarker, .exited 1, reads, false, none, false⟩]⟩

theorem answer_verdict_unread :
    let lost : HelperStore := ⟨"docker-credential-keep", none, [], none⟩
    let store : HelperStore := ⟨"docker-credential-keep", some "/bin/docker-credential-keep", [], none⟩
    let place : Place := .outside ["bin", "docker-credential-keep"]
    let world (reads : Bool) := World.fresh ⟨[(place, .program (forgetful reads) true)]⟩
    let pipe := Sink.fresh (fun _ => 1) (some (2, .failing .brokenPipe))
    lost.perform (world true) .list = world true ∧
    (∃ start, (store.perform (world false) (.get "reg")).started = [start]) ∧
    store.answer (world false) (.get "reg") = .error (.notFound "docker-credential-keep") ∧
    (store.conclude (feed (some pipe) (some (Text.encode "reg"))) (.ended ⟨[], [], .exited 0⟩)).bind
      (Request.read store · (.erase "reg")) = .ok .done ∧
    answerAll (world true) [(store, .get "reg"), (store, .list)] =
      answerAll (world false) [(store, .get "reg"), (store, .list)] := by
  intro lost store place world pipe
  obtain ⟨missing, -, single, broken, alike⟩ := answer_verdict
  have next : (world false).awaiting "/bin/docker-credential-keep" =
      some ⟨[0x20], Text.encode notFoundMarker, .exited 1, false, false, none, false⟩ := by
    decide +kernel
  obtain ⟨started, answered⟩ := single store _ (world false) (.get "reg") _ rfl rfl next rfl
  have marked : notFoundMarker.toList <:+:
      (Text.trim (Text.decodeLossy (Text.encode notFoundMarker))).toList := by
    rw [← Text.holds_iff]
    decide +kernel
  have fails : Ended.exited 1 ≠ .exited 0 := by decide
  have blank : Text.trim (Text.decodeLossy [0x20]) = "" := by decide +kernel
  have breaks : pipe.Breaks := by
    refine ⟨fun _ => Nat.one_pos, ?_⟩
    intro place trouble known
    obtain ⟨rfl, rfl⟩ : 2 = place ∧ Trouble.failing .brokenPipe = trouble := by simpa [pipe, Sink.fresh] using known
    exact .inr ⟨.brokenPipe, rfl, rfl⟩
  have programs : (forgetful true).Alike (forgetful false) := ⟨rfl, rfl, .cons ⟨rfl, .inr rfl⟩ .nil⟩
  have worlds : (world true).Alike (world false) := ⟨.cons ⟨rfl, .program programs true⟩ .nil, rfl, rfl, rfl⟩
  refine ⟨(missing lost (world true) .list rfl).2, started, (answered _).mpr ?_, ?_,
    alike (world true) (world false) worlds _⟩
  · exact .unknown fails (.complained blank) marked
  · exact (broken store (.erase "reg") _ pipe _ (by simp) breaks).mpr (.done rfl (.inr rfl))

end HelperStore

end EngineClient
