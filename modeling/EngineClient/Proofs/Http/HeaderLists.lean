import EngineClient.Http.Head
import EngineClient.Proofs.Distinct
/-!
# Headers from fields

Headers keep the fields they are made of by name: the names in lower case in the order of their first
appearance, each with its values in their order (`gathered`). Building a request (`extend_groups`) and reading
a response (`collect_groups`) both keep them so.
-/

namespace EngineClient.Http

/-- The values that fields give a name, whatever the case of its letters there. -/
def valuesIn (fields : List (String × Bytes)) (name : String) : List Bytes :=
  (fields.filter fun field => Text.lower field.1 == name).map (·.2)

/-- What headers keep of fields. -/
def gathered (fields : List (String × Bytes)) : List (String × List Bytes) :=
  (fields.map fun field => Text.lower field.1).eraseDups.map fun name => (name, valuesIn fields name)

/-- What is kept for a name was given for it. -/
theorem mem_gathered {fields : List (String × Bytes)} {group : String × List Bytes} {value : Bytes}
    (kept : group ∈ gathered fields) (among : value ∈ group.2) :
    ∃ field ∈ fields, Text.lower field.1 = group.1 ∧ field.2 = value := by
  obtain ⟨name, -, rfl⟩ := List.mem_map.mp kept
  obtain ⟨field, found, rfl⟩ := List.mem_map.mp among
  obtain ⟨listed, same⟩ := List.mem_filter.mp found
  exact ⟨field, listed, eq_of_beq same, rfl⟩

namespace Headers

/-! ## One field more -/

private theorem valuesIn_concat (fields : List (String × Bytes)) (field : String × Bytes) (name : String) :
    valuesIn (fields ++ [field]) name =
      valuesIn fields name ++ if Text.lower field.1 = name then [field.2] else [] := by
  rw [valuesIn, List.filter_append, List.map_append]
  by_cases same : Text.lower field.1 = name
  · simp [valuesIn, same]
  · simp [valuesIn, same]

private theorem valuesIn_eq_nil {fields : List (String × Bytes)} {name : String}
    (absent : name ∉ fields.map fun field => Text.lower field.1) : valuesIn fields name = [] := by
  rw [valuesIn, List.map_eq_nil_iff, List.filter_eq_nil_iff]
  intro field member same
  exact absent (List.mem_map.mpr ⟨field, member, by simpa using same⟩)

private theorem appendTo_of_notMem {name : String} {value : Bytes} {names : List String}
    (values : String → List Bytes) (absent : name ∉ names) :
    appendTo name value (names.map fun name => (name, values name)) =
      (names.map fun name => (name, values name)) ++ [(name, [value])] := by
  induction names with
  | nil => rfl
  | cons first rest ih =>
    obtain ⟨other, later⟩ := not_or.mp (List.mem_cons.not.mp absent)
    rw [List.map_cons, appendTo, if_neg (Ne.symm other), ih later, List.cons_append]

private theorem appendTo_of_mem {name : String} {value : Bytes} {names : List String} (apart : names.Nodup)
    (values : String → List Bytes) (listed : name ∈ names) :
    appendTo name value (names.map fun name => (name, values name)) =
      names.map fun other => (other, values other ++ if name = other then [value] else []) := by
  induction names with
  | nil => simp at listed
  | cons first rest ih =>
    obtain ⟨fresh, apart⟩ := List.nodup_cons.mp apart
    rw [List.map_cons, List.map_cons, appendTo]
    by_cases here : first = name
    · subst here
      rw [if_pos rfl, if_pos rfl]
      congr 1
      refine List.map_congr_left fun other later => ?_
      rw [if_neg (fun same : first = other => fresh (same ▸ later)), List.append_nil]
    · have later : name ∈ rest := (List.mem_cons.mp listed).resolve_left (Ne.symm here)
      rw [if_neg here, if_neg (Ne.symm here), ih apart later, List.append_nil]

/-- A field more is a value more for its name. -/
theorem gathered_concat (fields : List (String × Bytes)) (field : String × Bytes) :
    gathered (fields ++ [field]) = appendTo (Text.lower field.1) field.2 (gathered fields) := by
  let names := fields.map fun field => Text.lower field.1
  have written : (fields ++ [field]).map (fun field => Text.lower field.1) = names ++ [Text.lower field.1] :=
    List.map_append
  rw [gathered, gathered, written, Distinct.eraseDups_concat]
  by_cases known : names.contains (Text.lower field.1) = true
  · rw [if_pos known, appendTo_of_mem (Distinct.nodup_eraseDups names) _
      (List.mem_eraseDups.mpr (List.contains_iff_mem.mp known))]
    simp only [valuesIn_concat]
  · have absent : Text.lower field.1 ∉ names := fun member => known (List.contains_iff_mem.mpr member)
    rw [if_neg known, appendTo_of_notMem _ (fun member => absent (List.mem_eraseDups.mp member)), List.map_append]
    congr 1
    · refine List.map_congr_left fun name listed => ?_
      have other : Text.lower field.1 ≠ name := fun same => absent (same ▸ List.mem_eraseDups.mp listed)
      rw [valuesIn_concat, if_neg other, List.append_nil]
    · rw [List.map_singleton, valuesIn_concat, if_pos rfl, valuesIn_eq_nil absent, List.nil_append]

/-! ## All fields -/

theorem normalName_eq_some_iff {name normal : String} :
    normalName name = some normal ↔
      (name ≠ "" ∧ (∀ c ∈ name.toList, isTokenChar c = true) ∧ name.length ≤ maxNameLength) ∧
        normal = Text.lower name := by
  simp only [normalName, Option.ite_none_right_eq_some, Bool.and_eq_true, Bool.not_eq_true', List.all_eq_true,
    decide_eq_true_eq, Option.some.injEq, String.isEmpty_eq_false_iff, and_assoc, eq_comm (a := normal)]

private theorem extend_gathers {fields before : List (String × Bytes)} {headers after : Headers}
    (made : headers.groups = gathered before) (extended : headers.extend fields = .ok after) :
    after.groups = gathered (before ++ fields) ∧
      ∀ field ∈ fields, normalName field.1 = some (Text.lower field.1) ∧ ∀ b ∈ field.2, isValueByte b = true := by
  induction fields generalizing headers before with
  | nil =>
    cases extended
    exact ⟨by rw [made, List.append_nil], by simp⟩
  | cons field fields ih =>
    obtain ⟨name, value⟩ := field
    cases normalized : normalName name with
    | none => simp [extend, normalized] at extended
    | some normal =>
      obtain rfl := (normalName_eq_some_iff.mp normalized).2
      simp only [extend, normalized] at extended
      split_ifs at extended with legal
      have next : (headers.append (Text.lower name) value).groups = gathered (before ++ [(name, value)]) := by
        rw [gathered_concat, ← made]
        rfl
      obtain ⟨all, others⟩ := ih next extended
      refine ⟨by simpa using all, List.forall_mem_cons.mpr ⟨⟨normalized, ?_⟩, others⟩⟩
      exact List.all_eq_true.mp legal

/-- Fields that are accepted make the headers that keep them, and each is a legal field. -/
theorem extend_groups {fields : List (String × Bytes)} {headers : Headers}
    (extended : Headers.empty.extend fields = .ok headers) :
    headers.groups = gathered fields ∧
      ∀ field ∈ fields, normalName field.1 = some (Text.lower field.1) ∧ ∀ b ∈ field.2, isValueByte b = true :=
  extend_gathers (show Headers.empty.groups = gathered [] from rfl) extended

theorem collect_groups {fields : List (String × Bytes)}
    (named : ∀ field ∈ fields, normalName field.1 = some (Text.lower field.1)) :
    Head.collect .empty fields = .ok ⟨gathered fields⟩ := by
  have collected (before : List (String × Bytes)) :
      Head.collect ⟨gathered before⟩ fields = .ok ⟨gathered (before ++ fields)⟩ := by
    induction fields generalizing before with
    | nil => simp [Head.collect]
    | cons field fields ih =>
      obtain ⟨name, value⟩ := field
      obtain ⟨normalized, others⟩ := List.forall_mem_cons.mp named
      simp only [Head.collect, normalized, append]
      rw [← gathered_concat before (name, value), ih others, List.append_assoc, List.singleton_append]
  exact collected []

/-! ## What is kept for a name -/

private theorem lookup_map {name : String} {names : List String} (values : String → List Bytes)
    (listed : name ∈ names) : (names.map fun name => (name, values name)).lookup name = some (values name) := by
  induction names with
  | nil => simp at listed
  | cons first rest ih =>
    by_cases here : name = first
    · simp [here]
    · have later := (List.mem_cons.mp listed).resolve_left here
      simp [List.lookup_cons, beq_eq_false_iff_ne.mpr here, ih later]

private theorem lookup_map_none {name : String} {names : List String} (values : String → List Bytes)
    (absent : name ∉ names) : (names.map fun name => (name, values name)).lookup name = none := by
  rw [List.lookup_eq_none_iff]
  rintro ⟨other, _⟩ member
  obtain ⟨_, listed, same⟩ := List.mem_map.mp member
  cases same
  simpa using fun same : name = other => absent (same ▸ listed)

theorem values_gathered (fields : List (String × Bytes)) (name : String) :
    (Headers.mk (gathered fields)).values name = valuesIn fields name := by
  by_cases known : name ∈ fields.map fun field => Text.lower field.1
  · rw [values, gathered, lookup_map _ (List.mem_eraseDups.mpr known), Option.getD_some]
  · rw [values, gathered, lookup_map_none _ (fun member => known (List.mem_eraseDups.mp member)), Option.getD_none,
      valuesIn_eq_nil known]

theorem contains_gathered (fields : List (String × Bytes)) (name : String) :
    (Headers.mk (gathered fields)).contains name = fields.any fun field => Text.lower field.1 == name := by
  rw [contains, values_gathered, valuesIn, List.isEmpty_map, Bool.eq_iff_iff]
  simp [List.filter_eq_nil_iff]

end Headers

end EngineClient.Http
