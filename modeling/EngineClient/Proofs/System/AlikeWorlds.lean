import EngineClient.System.Programs
import Mathlib.Data.List.Forall2
import Mathlib.Tactic.SplitIfs
/-!
# Worlds whose programs differ in what they read

Two worlds are alike when their programs differ only in whether they read their input, and a program that does so in one
of them does not print it (`World.Alike`). Starting a program comes to the same in both, and leaves them alike
(`World.Alike.start`).
-/

namespace EngineClient

/-- The same is done, but the input may be read in one case and not in the other, if it is not printed. -/
structure Behaviour.Alike (a b : Behaviour) : Prop where
  same : b = { a with reads := b.reads }
  unprinted : a.reads = b.reads ∨ a.echoes = false

structure Program.Alike (p q : Program) : Prop where
  number : p.number = q.number
  own : p.own = q.own
  behaviours : List.Forall₂ Behaviour.Alike p.behaviours q.behaviours

inductive Entry.Alike : Entry → Entry → Prop
  | same (entry : Entry) : Alike entry entry
  | program {p q : Program} (alike : p.Alike q) (executable : Bool) :
      Alike (.program p executable) (.program q executable)

/-- The same places, with entries that are alike. -/
def Files.Alike (a b : Files) : Prop :=
  List.Forall₂ (fun x y : Place × Entry => x.1 = y.1 ∧ x.2.Alike y.2) a.entries b.entries

/-- What a start tells of a program apart from its input. -/
def Started.apartFromInput (start : Started) : Started := { start with input := none }

structure World.Alike (v w : World) : Prop where
  files : v.files.Alike w.files
  channels : v.channels = w.channels
  started : v.started.map Started.apartFromInput = w.started.map Started.apartFromInput
  now : v.now = w.now

/-! ## Programs -/

theorem Program.Alike.refl (p : Program) : p.Alike p where
  number := rfl
  own := rfl
  behaviours := List.forall₂_same.mpr fun _ _ => ⟨rfl, .inl rfl⟩

theorem Program.Alike.next {p q : Program} (alike : p.Alike q) :
    (p.next = (none, p) ∧ q.next = (none, q)) ∨
    ∃ a b p' q', p.next = (some a, p') ∧ q.next = (some b, q') ∧ a.Alike b ∧ p'.Alike q' := by
  obtain ⟨number, own, behaviours⟩ := p
  obtain ⟨number', own', behaviours'⟩ := q
  obtain ⟨rfl, rfl, same⟩ := alike
  cases same with
  | nil => exact .inl ⟨rfl, rfl⟩
  | @cons a b rest rest' first others =>
    cases others with
    | nil => exact .inr ⟨a, b, _, _, rfl, rfl, first, rfl, rfl, .cons first .nil⟩
    | cons second more => exact .inr ⟨a, b, _, _, rfl, rfl, first, rfl, rfl, .cons second more⟩

theorem Behaviour.Alike.outcome {a b : Behaviour} (alike : a.Alike b) (input : Option Bytes) :
    World.outcome a input = World.outcome b input := by
  obtain ⟨same, unprinted⟩ := alike
  rw [same]
  rcases unprinted with equal | silent
  · simp [World.outcome, equal]
  · simp [World.outcome, silent]

/-- Entries that are alike are programs that are alike, or the same entry that is none. -/
theorem Entry.Alike.programs_or_same {x y : Entry} (alike : x.Alike y) :
    (∃ p q executable, x = .program p executable ∧ y = .program q executable ∧ p.Alike q) ∨
    (x = y ∧ ∀ p executable, x ≠ .program p executable) := by
  cases alike with
  | program alike executable => exact .inl ⟨_, _, executable, rfl, rfl, alike⟩
  | same =>
    cases x with
    | program p executable => exact .inl ⟨p, p, executable, rfl, rfl, .refl p⟩
    | directory => exact .inr ⟨rfl, by simp⟩
    | file content executable => exact .inr ⟨rfl, by simp⟩
    | socket listening => exact .inr ⟨rfl, by simp⟩

/-! ## Files -/

namespace Files

theorem Alike.entryAt {a b : Files} (alike : a.Alike b) (place : Place) :
    (a.entryAt place = none ∧ b.entryAt place = none) ∨
    ∃ x y, a.entryAt place = some x ∧ b.entryAt place = some y ∧ x.Alike y := by
  unfold Files.entryAt
  by_cases standing : isStanding place = true
  · rw [if_pos standing, if_pos standing]
    exact .inr ⟨.directory, .directory, rfl, rfl, .same _⟩
  · rw [if_neg standing, if_neg standing]
    obtain ⟨entries⟩ := a
    obtain ⟨entries'⟩ := b
    unfold Files.Alike at alike
    simp only at alike ⊢
    induction alike with
    | nil => exact .inl ⟨rfl, rfl⟩
    | @cons x y rest rest' first others ih =>
      obtain ⟨at', entry⟩ := x
      obtain ⟨at'', entry'⟩ := y
      obtain ⟨rfl, entries⟩ := first
      by_cases here : place = at'
      · subst here
        simp only [List.lookup_cons_self]
        exact .inr ⟨entry, entry', rfl, rfl, entries⟩
      · simp only [List.lookup_cons, beq_eq_false_iff_ne.mpr here]
        exact ih

theorem Alike.walk {a b : Files} (alike : a.Alike b) (place : Place) (names : List String) :
    a.walk place names = b.walk place names := by
  induction names generalizing place with
  | nil => rfl
  | cons name rest ih =>
    have child : (a.entryAt (place.child name)).isSome = (b.entryAt (place.child name)).isSome := by
      rcases alike.entryAt (place.child name) with ⟨none, none'⟩ | ⟨x, y, some, some', -⟩
      · rw [none, none']
      · rw [some, some']
        rfl
    unfold Files.walk
    rcases alike.entryAt place with ⟨none, none'⟩ | ⟨x, y, some, some', entries⟩
    · simp only [none, none']
    · simp only [some, some']
      cases entries with
      | same =>
        cases x with
        | directory => simp only [ih, child]
        | file content executable => rfl
        | program program executable => rfl
        | socket listening => rfl
      | program programs executable => rfl

theorem Alike.locate {a b : Files} (alike : a.Alike b) (path : String) : a.locate path = b.locate path := by
  unfold Files.locate
  rw [alike.walk]

theorem Alike.startFault {a b : Files} (alike : a.Alike b) (content : Bytes) :
    a.startFault content = b.startFault content := by
  unfold Files.startFault
  cases interpreter content with
  | none => rfl
  | some path =>
    simp only [Files.find, alike.locate path]
    cases b.locate path with
    | error cause => rfl
    | ok place =>
      simp only
      rcases alike.entryAt place with ⟨none, none'⟩ | ⟨x, y, some, some', -⟩
      · rw [none, none']
      · rw [some, some']
        rfl

theorem Alike.set {a b : Files} (alike : a.Alike b) (place : Place) {x y : Entry} (entries : x.Alike y) :
    (a.set place (some x)).Alike (b.set place (some y)) := by
  unfold Files.set Files.Alike
  refine List.rel_append ?_ (.cons ⟨rfl, entries⟩ .nil)
  refine List.rel_filter ?_ alike
  rintro ⟨before, entry⟩ ⟨after, entry'⟩ ⟨rfl, -⟩
  exact Iff.rfl

end Files

/-! ## Starting -/

theorem World.Alike.noted {v w : World} (alike : v.Alike w) {a b : Behaviour} (behaviours : a.Alike b) {p q : Program}
    (programs : p.Alike q) (arguments : List String) (env : Environment) (input : Option Bytes) :
    (v.started ++ [startedWith p a arguments env input]).map Started.apartFromInput =
      (w.started ++ [startedWith q b arguments env input]).map Started.apartFromInput := by
  rw [List.map_append, List.map_append, alike.started, behaviours.same]
  simp [startedWith, Started.apartFromInput, programs.number, programs.own]

/-- A start comes to the same in worlds that are alike, and they stay alike. -/
theorem World.Alike.start {v w : World} (alike : v.Alike w) (path : String) (arguments : List String)
    (env : Environment) (input : Option Bytes) (hasDeadline : Bool) :
    (v.start path arguments env input hasDeadline).1 = (w.start path arguments env input hasDeadline).1 ∧
      (v.start path arguments env input hasDeadline).2.Alike (w.start path arguments env input hasDeadline).2 := by
  unfold World.start
  split_ifs
  · exact ⟨rfl, alike⟩
  · rw [alike.files.locate]
    cases w.files.locate path with
    | error cause => exact ⟨rfl, alike⟩
    | ok place =>
      simp only
      rcases alike.files.entryAt place with ⟨none, none'⟩ | ⟨x, y, some, some', entries⟩
      · rw [none, none']
        exact ⟨rfl, alike⟩
      · rw [some, some']
        rcases entries.programs_or_same with ⟨p, q, executable, rfl, rfl, programs⟩ | ⟨rfl, other⟩
        · cases executable with
          | false => exact ⟨rfl, alike⟩
          | true =>
            simp only
            rcases programs.next with ⟨idle, idle'⟩ | ⟨a, b, later, later', first, first', behaviours, rest⟩
            · rw [idle, idle']
              exact ⟨rfl, alike⟩
            · have files := alike.files.set place (.program rest true)
              have noted := alike.noted behaviours programs arguments env input
              have lingers : a.lingers = b.lingers := by rw [behaviours.same]
              simp only [first, first', lingers, behaviours.outcome input]
              by_cases late : (b.lingers && hasDeadline) = true
              · rw [if_pos late, if_pos late]
                exact ⟨rfl, files, alike.channels, noted, alike.now⟩
              · rw [if_neg late, if_neg late]
                exact ⟨rfl, files, alike.channels, noted, alike.now⟩
        · cases x with
          | directory => exact ⟨rfl, alike⟩
          | socket listening => exact ⟨rfl, alike⟩
          | file content executable =>
            cases executable with
            | false => exact ⟨rfl, alike⟩
            | true => exact ⟨congrArg Launch.failed (alike.files.startFault content), alike⟩
          | program program executable => exact absurd rfl (other program executable)

end EngineClient
