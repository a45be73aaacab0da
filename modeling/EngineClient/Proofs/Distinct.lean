import Mathlib.Data.List.Basic
/-!
# Lists without their repetitions

What `List.eraseDups` leaves: the different members of a list in the order of their first appearance.
-/

namespace EngineClient.Distinct

variable {α : Type} [BEq α] [LawfulBEq α]

theorem filter_eraseDups (p : α → Bool) (members : List α) :
    members.eraseDups.filter p = (members.filter p).eraseDups := by
  cases members with
  | nil => rfl
  | cons first rest =>
    have others := filter_eraseDups p (rest.filter fun other => !other == first)
    rw [List.eraseDups_cons]
    by_cases chosen : p first = true
    · rw [List.filter_cons_of_pos chosen, List.filter_cons_of_pos chosen, List.eraseDups_cons, others,
        List.filter_comm]
    · rw [List.filter_cons_of_neg chosen, List.filter_cons_of_neg chosen, others, List.filter_comm]
      congr 1
      refine List.filter_eq_self.mpr fun other listed => ?_
      have apart : other ≠ first := fun same => chosen (same ▸ (List.mem_filter.mp listed).2)
      simpa using apart
termination_by members.length
decreasing_by
  have le := List.length_filter_le (fun other => !other == first) rest
  rw [List.length_cons]
  omega

theorem nodup_eraseDups (members : List α) : members.eraseDups.Nodup := by
  cases members with
  | nil => exact List.nodup_nil
  | cons first rest =>
    rw [List.eraseDups_cons]
    refine List.nodup_cons.mpr ⟨fun again => ?_, nodup_eraseDups (rest.filter fun other => !other == first)⟩
    have listed := List.mem_filter.mp (List.mem_eraseDups.mp again)
    simp at listed
termination_by members.length
decreasing_by
  have le := List.length_filter_le (fun other => !other == first) rest
  rw [List.length_cons]
  omega

/-- One more member is new, or it changes nothing. -/
theorem eraseDups_concat (members : List α) (last : α) :
    (members ++ [last]).eraseDups =
      if members.contains last then members.eraseDups else members.eraseDups ++ [last] := by
  rw [List.eraseDups_append]
  by_cases known : members.contains last = true
  · rw [if_pos known]
    simp [List.removeAll, List.contains_iff_mem.mp known]
  · rw [if_neg known]
    have new : last ∉ members := fun member => known (List.contains_iff_mem.mpr member)
    simp [List.removeAll, new, List.eraseDups_cons]

end EngineClient.Distinct
