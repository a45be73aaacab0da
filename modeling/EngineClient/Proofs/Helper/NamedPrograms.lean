import EngineClient.Client.Fault
import EngineClient.Proofs.Helper.Verdicts
import EngineClient.Proofs.Text.Numerals
import Mathlib.Data.List.Chain
/-!
# Programs named in errors

The text of a credential error has the name of the program in it, except where the system refused to start the program:
that text is made of the refusal alone (`CredentialError.message_about`). No words of the system have the name of a
helper in them (`Failure.markless_message`), so a request that fails tells which helper failed exactly where the system
did not refuse to start it (`HelperStore.names_iff_of_answer`).
-/

namespace EngineClient

variable {text program : String}

/-! ## Names in texts -/

/-- A text names a program: the name stands in it. -/
def Names (text program : String) : Prop := ∃ front back, text = front ++ program ++ back

theorem names_iff_isPart : Names text program ↔ program.toList <:+: text.toList := by
  constructor
  · rintro ⟨front, back, rfl⟩
    exact ⟨front.toList, back.toList, by simp⟩
  · rintro ⟨front, back, parts⟩
    refine ⟨String.ofList front, String.ofList back, String.toList_injective ?_⟩
    simp [← parts]

instance : Decidable (Names text program) := decidable_of_iff _ names_iff_isPart.symm

theorem names_concat (front program : String) : Names (front ++ program) program := ⟨front, "", by simp⟩

theorem Names.append (named : Names text program) (back : String) : Names (text ++ back) program := by
  obtain ⟨front, rest, rfl⟩ := named
  exact ⟨front, rest ++ back, String.append_assoc⟩

theorem Names.prepend (named : Names text program) (front : String) : Names (front ++ text) program := by
  obtain ⟨lead, back, rfl⟩ := named
  exact ⟨front ++ lead, back, by simp only [String.append_assoc]⟩

/-- No text names every program. -/
theorem exists_not_names (text : String) : ∃ program, ¬ Names text program := by
  refine ⟨text ++ "-", fun named => ?_⟩
  have fits := (names_iff_isPart.mp named).length_le
  rw [String.toList_append, List.length_append] at fits
  exact absurd fits (by simp)

/-! ## The mark of a helper -/

/-- Nowhere in a text does a `c` follow a hyphen, as it does in the name of every helper. -/
def Markless (text : String) : Prop := (Text.encode text).IsChain fun a b => ¬(a = 0x2D ∧ b = 0x63)

instance : Decidable (Markless text) := inferInstanceAs (Decidable (List.IsChain _ _))

theorem Markless.append {front back : String} (first : Markless front) (second : Markless back)
    (apart : 0x2D ∉ (Text.encode front).getLast? ∨ 0x63 ∉ (Text.encode back).head?) : Markless (front ++ back) := by
  rw [Markless, Text.encode_append, List.isChain_append]
  refine ⟨first, second, ?_⟩
  rintro a last b head ⟨rfl, rfl⟩
  exact apart.elim (· last) (· head)

theorem Markless.not_names (markless : Markless text) (helper : String) : ¬ Names text (helperPrefix ++ helper) := by
  rintro ⟨front, back, rfl⟩
  rw [Markless, Text.encode_append, Text.encode_append, Text.encode_append] at markless
  -- The mark is in what all names of helpers begin with.
  have marked : Markless helperPrefix := markless.left_of_append.right_of_append.left_of_append
  exact absurd marked (by decide +kernel)

theorem notMem_toString (n : Int) : 0x63 ∉ Text.encode (toString n) := by
  have digits (m : Nat) : 'c' ∉ (toString m).toList := fun member =>
    absurd ((Text.decimal_toString m).figures 'c' member) (by decide)
  intro member
  have letter : 'c' ∈ (toString n).toList := (Text.mem_encode_iff (c := 'c') (by decide)).mp member
  cases n with
  | ofNat m => exact digits m letter
  | negSucc m =>
    change 'c' ∈ ("-" ++ toString m.succ).toList at letter
    rw [String.toList_append, List.mem_append] at letter
    exact letter.elim (by decide) (digits m.succ)

theorem Markless.append_toString {front : String} (first : Markless front) (n : Int) :
    Markless (front ++ toString n) := by
  have digits : Markless (toString n) := by
    refine (List.pairwise_of_forall_mem_list fun a _ b member => ?_).isChain
    rintro ⟨-, rfl⟩
    exact notMem_toString n member
  exact first.append digits (.inr fun head => notMem_toString n (List.mem_of_head? head))

theorem markless_describeErrorNumber (code : Int) : Markless (describeErrorNumber code) := by
  have unknown : Markless ("Unknown error " ++ toString code) := .append_toString (by decide +kernel) code
  have known : ∀ entry ∈ errorNumbers, Markless entry.2 := by
    -- The array of the bytes is at hand where the list of them is made byte by byte.
    simp only [Markless, Text.encode_eq_data]
    decide +kernel
  unfold describeErrorNumber
  split
  · decide +kernel
  · rename_i n _
    cases found : errorNumbers.lookup n with
    | none => exact unknown
    | some words =>
      obtain ⟨before, after, parts, -⟩ := List.lookup_eq_some_iff.mp found
      exact known (n, words) (parts ▸ List.mem_append_right before List.mem_cons_self)
  · exact unknown

/-- The words of the system never have the name of a helper in them. -/
theorem Failure.markless_message (cause : Failure) : Markless cause.message := by
  cases cause with
  | numbered code =>
    have opened : Markless (describeErrorNumber code ++ " (os error ") :=
      (markless_describeErrorNumber code).append (by decide +kernel) (.inr (by decide +kernel))
    exact (opened.append_toString code).append (by decide +kernel) (.inr (by decide +kernel))
  | ofKind kind => cases kind <;> decide +kernel
  | notText => decide +kernel
  | shortRead => decide +kernel
  | shortWrite => decide +kernel
  | socketPathTooLong => decide +kernel
  | zeroByte => decide +kernel
  | zeroByteInPath => decide +kernel

/-! ## Errors -/

/-- The same error of another program. -/
def StoreError.about (program : String) : StoreError → StoreError
  | .notInstalled _ => .notInstalled program
  | .launch _ number words => .launch program number words
  | .helperFailed _ code words => .helperFailed program code words
  | .timeout _ after => .timeout program after
  | .malformedOutput _ fault => .malformedOutput program fault
  | .io _ cause => .io program cause

namespace CredentialError
variable {error : CredentialError}

/-- The same error of another program. -/
def about (program : String) : CredentialError → CredentialError
  | .notFound _ => .notFound program
  | .store cause => .store (cause.about program)

/-- The system refused to start the program, for another reason than that it is not there. -/
def Refuses : CredentialError → Prop
  | .store (.launch _ _ _) => True
  | _ => False

theorem names_of_not_refuses (starts : ¬ error.Refuses) : Names error.message error.program := by
  cases error with
  | notFound program => exact names_concat ..
  | store cause =>
    cases cause with
    | notInstalled program => exact (names_concat "" program).append _
    | launch program number words => exact absurd trivial starts
    | helperFailed program code words => exact (((names_concat ..).append _).append _).append _
    | timeout program after => exact ((names_concat ..).append _).append _
    | malformedOutput program fault => exact ((names_concat ..).append _).append _
    | io program cause => exact ((names_concat ..).append _).append _

theorem program_about (program : String) (error : CredentialError) : (error.about program).program = program := by
  cases error with
  | notFound _ => rfl
  | store cause => cases cause <;> rfl

theorem refuses_about (program : String) (error : CredentialError) :
    (error.about program).Refuses ↔ error.Refuses := by
  cases error with
  | notFound _ => rfl
  | store cause => cases cause <;> rfl

theorem exists_launch (refuses : error.Refuses) :
    ∃ program number words, error = .store (.launch program number words) := by
  cases error with
  | notFound _ => exact refuses.elim
  | store cause =>
    cases cause with
    | launch program number words => exact ⟨program, number, words, rfl⟩
    | _ => exact refuses.elim

/-- The text of a refusal is the same whatever program was refused. -/
theorem message_about (refuses : error.Refuses) (program : String) : (error.about program).message = error.message := by
  obtain ⟨_, number, words, rfl⟩ := exists_launch refuses
  rfl

theorem causes_of_refuses (refuses : error.Refuses) : error.causes = [] := by
  obtain ⟨_, number, words, rfl⟩ := exists_launch refuses
  rfl

/-- The programs are named by the texts of an error, whichever program it is about, exactly when it is no refusal. -/
theorem names_about_iff : (∀ program, Names (error.about program).message program) ↔ ¬ error.Refuses := by
  constructor
  · intro named refuses
    obtain ⟨program, unnamed⟩ := exists_not_names error.message
    exact unnamed (message_about refuses program ▸ named program)
  · intro starts program
    have named := names_of_not_refuses (mt (refuses_about program error).mp starts)
    rwa [program_about] at named

end CredentialError

/-- The text of a refusal has the mark of a helper only where the words for it have. -/
theorem StoreError.markless_launch {words : String} (markless : Markless words) (program : String) (number : Int) :
    Markless (StoreError.launch program number words).message := by
  have opened : Markless ("Unexpected OS error \"" ++ words) :=
    .append (by decide +kernel) markless (.inl (by decide +kernel))
  have closed : Markless ("Unexpected OS error \"" ++ words ++ "\", errno=") :=
    opened.append (by decide +kernel) (.inr (by decide +kernel))
  exact closed.append_toString number

/-! ## Requests -/

/-- The system refused to start a program, for another reason than that it is not there. -/
def Launch.Refused (launch : Launch) : Prop :=
  ∃ cause, launch = .failed cause ∧ ¬(cause = .noEntry ∨ cause = .ofKind .notFound)

namespace HelperStore
variable {store : HelperStore} {request : Request} {launch : Launch} {w : World} {error : CredentialError}

/-- The system refuses to start the helper for a request. -/
def Refused (store : HelperStore) (w : World) (request : Request) : Prop :=
  ∃ path, store.executable = some path ∧
    (w.start path [request.operation] store.environment request.input store.timeout.isSome).1.Refused

/-- What an error of a helper tells when the system refused to start it, and when it did not. -/
inductive Tells (store : HelperStore) (refused : Prop) : CredentialError → Prop
  | refusal (isRefused : refused) (cause : Failure) :
      Tells store refused (.store (.launch store.program cause.errorNumber cause.message))
  | other {error : CredentialError} (starts : ¬ refused) (kind : ¬ error.Refuses)
      (own : error.program = store.program) : Tells store refused error

theorem tells_of_verdict (verdict : store.Verdict request launch (.error error)) :
    store.Tells launch.Refused error := by
  have started {outcome : Outcome} : ¬ (Launch.ended outcome).Refused := by
    rintro ⟨cause, same, -⟩
    cases same
  cases verdict with
  | gone missing =>
    refine .other ?_ id rfl
    rintro ⟨cause, same, present⟩
    cases same
    exact present missing
  | unstarted present => exact .refusal ⟨_, rfl, present⟩ _
  | unknown => exact .other started id rfl
  | failed => exact .other started id rfl
  | unlisted => exact .other started id rfl
  | empty => exact .other started id rfl
  | garbled => exact .other started id rfl

/-- Every error of a request tells of the helper, and it is a refusal where the system refused to start it. -/
theorem tells_of_answer (failed : store.answer w request = .error error) :
    store.Tells (store.Refused w request) error := by
  cases found : store.executable with
  | none =>
    rw [(store.answer_of_missing w request found).1] at failed
    cases failed
    refine .other ?_ id rfl
    rintro ⟨path, located, -⟩
    cases found.symm.trans located
  | some path =>
    rw [answer_eq, execute_of_found found] at failed
    have refused : store.Refused w request ↔
        (w.start path [request.operation] store.environment request.input store.timeout.isSome).1.Refused := by
      simp [Refused, found]
    rw [refused]
    cases launched : (w.start path [request.operation] store.environment request.input store.timeout.isSome).1 with
    | overdue =>
      -- Verdicts are for helpers that end in time.
      rw [launched] at failed
      cases failed
      refine .other ?_ id rfl
      rintro ⟨cause, same, -⟩
      cases same
    | failed cause =>
      rw [launched] at failed
      exact tells_of_verdict ((verdict_iff (by simp) _).mp failed)
    | ended outcome =>
      rw [launched] at failed
      exact tells_of_verdict ((verdict_iff (by simp) _).mp failed)

theorem program_of_answer (failed : store.answer w request = .error error) : error.program = store.program := by
  cases tells_of_answer failed with
  | refusal refused cause => rfl
  | other starts kind own => exact own

theorem refuses_iff (failed : store.answer w request = .error error) : error.Refuses ↔ store.Refused w request := by
  cases tells_of_answer failed with
  | refusal refused cause => exact iff_of_true trivial refused
  | other starts kind own => exact iff_of_false kind starts

/-- A text that shows the error of a request, and of a refusal nothing else that has the mark of a helper, names the
helper exactly where the system did not refuse to start it. -/
theorem names_iff_of_answer {helper : String} (own : store.program = helperPrefix ++ helper)
    (failed : store.answer w request = .error error)
    (shown : Names error.message error.program → Names text error.program)
    (bare : error.Refuses → Markless error.message → Markless text) :
    Names text store.program ↔ ¬ store.Refused w request := by
  cases tells_of_answer failed with
  | refusal refused cause =>
    have markless := bare trivial (StoreError.markless_launch cause.markless_message store.program cause.errorNumber)
    rw [own]
    exact iff_of_false (markless.not_names helper) (not_not_intro refused)
  | other starts kind same =>
    rw [← same]
    exact iff_of_true (shown (CredentialError.names_of_not_refuses kind)) starts

end HelperStore

end EngineClient
