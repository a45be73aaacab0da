import EngineClient.Json.Reader
import Mathlib.Tactic.SplitIfs
/-!
# Objects of texts

A document that is read as an object of texts is one: its members are names with texts (`read_map_text`).
-/

namespace EngineClient.Json

/-- Members that are texts. -/
def AllTexts (members : List (String × Value)) : Prop := ∀ member ∈ members, ∃ content, member.2 = .text content

theorem AllTexts.put {members : List (String × Value)} (texts : AllTexts members) (name content : String) :
    AllTexts (putMember name (.text content) members) := by
  induction members with
  | nil =>
    intro member here
    exact ⟨content, by rw [List.mem_singleton.mp here]⟩
  | cons first rest ih =>
    obtain ⟨other, old⟩ := first
    obtain ⟨known, others⟩ := List.forall_mem_cons.mp texts
    rw [putMember]
    split_ifs
    · exact List.forall_mem_cons.mpr ⟨⟨content, rfl⟩, texts⟩
    · exact List.forall_mem_cons.mpr ⟨⟨content, rfl⟩, others⟩
    · exact List.forall_mem_cons.mpr ⟨known, ih others⟩

theorem AllTexts.ofMembers {members : List (String × Value)} (texts : AllTexts members) :
    ∃ kept, Value.ofMembers members = .object kept ∧ AllTexts kept := by
  refine ⟨_, rfl, ?_⟩
  have before : AllTexts [] := by simp [AllTexts]
  -- The members are put one by one to those that are there already, none at first.
  generalize ([] : List (String × Value)) = kept at before ⊢
  induction members generalizing kept with
  | nil => exact before
  | cons first rest ih =>
    obtain ⟨name, value⟩ := first
    obtain ⟨⟨content, rfl⟩, others⟩ := List.forall_mem_cons.mp texts
    exact ih others _ (before.put name content)

theorem AllTexts.eq_map {members : List (String × Value)} (texts : AllTexts members) :
    ∃ pairs : List (String × String), members = pairs.map fun (name, content) => (name, .text content) := by
  induction members with
  | nil => exact ⟨[], rfl⟩
  | cons first rest ih =>
    obtain ⟨name, value⟩ := first
    obtain ⟨⟨content, rfl⟩, others⟩ := List.forall_mem_cons.mp texts
    obtain ⟨pairs, rfl⟩ := ih others
    exact ⟨(name, content) :: pairs, rfl⟩

theorem text_of_readValue {steps depth : Nat} {bytes rest : Bytes} {value : Value}
    (read : readValue steps .text depth bytes = .ok (value, rest)) : ∃ content, value = .text content := by
  cases steps with
  | zero =>
    rw [readValue] at read
    cases read
  | succ steps =>
    rw [readValue] at read
    split at read
    · cases read
    · simp only at read
      split_ifs at read
      split at read
      · cases read
        exact ⟨_, rfl⟩
      · cases read

theorem readPairs_texts {steps depth : Nat} {first : Bool} {before members : List (String × Value)}
    {bytes rest : Bytes} (read : readPairs steps .text depth first before bytes = .ok (members, rest))
    (texts : AllTexts before) : AllTexts members := by
  induction steps generalizing first before bytes with
  | zero =>
    rw [readPairs] at read
    cases read
  | succ steps ih =>
    rw [readPairs] at read
    split at read
    · cases read
    · cases read
      intro member here
      exact texts member (List.mem_reverse.mp here)
    · split at read
      · cases read
      · split at read
        · cases read
        · rename_i found
          obtain ⟨content, rfl⟩ := text_of_readValue found
          exact ih read (List.forall_mem_cons.mpr ⟨⟨content, rfl⟩, texts⟩)

theorem read_map_text {bytes : Bytes} {value : Value} (found : read (.map .text) bytes = .ok value) :
    ∃ pairs : List (String × String), value = .object (pairs.map fun (name, content) => (name, .text content)) := by
  rw [read] at found
  split at found
  · cases found
  · rename_i known
    split_ifs at found
    cases found
    rw [readValue] at known
    split at known
    · cases known
    · simp only at known
      split_ifs at known
      rw [readObject] at known
      split_ifs at known
      split at known
      · rename_i members
        cases known
        obtain ⟨kept, same, texts⟩ := (readPairs_texts members (by simp [AllTexts])).ofMembers
        obtain ⟨pairs, rfl⟩ := texts.eq_map
        exact ⟨pairs, same⟩
      · cases known

end EngineClient.Json
