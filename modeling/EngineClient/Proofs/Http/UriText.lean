import EngineClient.Proofs.Http.LineText
/-!
# The characters of URIs

Neither the target nor the host of a URI has a space or a control character of ASCII (`parse_visible`,
`VisibleParts.host`), and a path that is read is what was written up to a fragment (`pathOf_orRoot`).
-/

namespace EngineClient.Http

namespace Uri

/-! ## Authorities -/

private theorem AuthorityScan.step_visible {s next : AuthorityScan} {c : Char} (stepped : s.step c = .ok next) :
    Visible c := by
  rw [AuthorityScan.step] at stepped
  by_cases sign : c = ':' ∨ c = '[' ∨ c = ']' ∨ c = '@' ∨ c = '%'
  · rcases sign with rfl | rfl | rfl | rfl | rfl <;>
      simp [Visible]
  · simp only [not_or] at sign
    obtain ⟨colon, opening, closing, at', percent⟩ := sign
    rw [if_neg colon, if_neg opening, if_neg closing, if_neg at', if_neg percent] at stepped
    split_ifs at stepped with plain
    rw [isAuthorityChar, Bool.or_eq_true] at plain
    rcases plain with letter | sign
    · exact (alphanumeric_visible letter).1
    · exact of_decide_eq_true (of_contains (p := fun c => decide (Visible c)) sign (by decide))

private theorem authorityFrom_visible {s : AuthorityScan} {taken chars authority rest : List Char}
    (before : ∀ c ∈ taken, Visible c) (found : authorityFrom s taken chars = .ok (authority, rest)) :
    ∀ c ∈ authority, Visible c := by
  induction chars generalizing s taken with
  | nil =>
    rw [authorityFrom] at found
    split_ifs at found
    cases found
    exact fun c member => before c (List.mem_reverse.mp member)
  | cons c chars ih =>
    rw [authorityFrom] at found
    split_ifs at found
    · cases found
      exact fun c member => before c (List.mem_reverse.mp member)
    · cases stepped : s.step c with
      | error fault => simp [stepped] at found
      | ok next =>
        rw [stepped] at found
        exact ih (List.forall_mem_cons.mpr ⟨AuthorityScan.step_visible stepped, before⟩) found

private theorem splitAuthority_visible {chars authority rest : List Char}
    (found : splitAuthority chars = .ok (authority, rest)) : ∀ c ∈ authority, Visible c := by
  rw [splitAuthority] at found
  split_ifs at found
  exact authorityFrom_visible (by simp) found

/-! ## Paths and queries -/

private theorem queryFrom_visible {taken chars query : List Char} (before : ∀ c ∈ taken, Visible c)
    (found : queryFrom taken chars = .ok query) : ∀ c ∈ query, Visible c := by
  induction chars generalizing taken with
  | nil =>
    cases found
    exact fun c member => before c (List.mem_reverse.mp member)
  | cons c chars ih =>
    rw [queryFrom] at found
    split_ifs at found with fragment legal
    · cases found
      exact fun c member => before c (List.mem_reverse.mp member)
    · refine ih (List.forall_mem_cons.mpr ⟨?_, before⟩) found
      simp only [isQueryChar, Bool.or_eq_true, Bool.and_eq_true, beq_iff_eq, decide_eq_true_eq] at legal
      rw [Visible]
      omega

private theorem pathFrom_visible {taken chars path : List Char} (before : ∀ c ∈ taken, Visible c)
    (found : pathFrom taken chars = .ok path) : ∀ c ∈ path, Visible c := by
  induction chars generalizing taken with
  | nil =>
    cases found
    exact fun c member => before c (List.mem_reverse.mp member)
  | cons c chars ih =>
    rw [pathFrom] at found
    split_ifs at found with query fragment legal
    · subst query
      exact queryFrom_visible (List.forall_mem_cons.mpr ⟨by simp [Visible], before⟩) found
    · cases found
      exact fun c member => before c (List.mem_reverse.mp member)
    · refine ih (List.forall_mem_cons.mpr ⟨?_, before⟩) found
      simp only [isPathChar, Bool.or_eq_true, Bool.and_eq_true, beq_iff_eq, decide_eq_true_eq] at legal
      rw [Visible]
      omega

private theorem pathOf_visible {chars : List Char} {path : String} (found : pathOf chars = .ok path) :
    ∀ c ∈ path.toList, Visible c := by
  rw [pathOf] at found
  split at found
  · cases found
    exact visible_of_all (by decide)
  · rename_i path' read
    cases found
    rw [String.toList_ofList]
    exact pathFrom_visible (by simp) read
  · cases found

/-! ## Paths up to a fragment -/

/-- The characters before the first `#`. -/
def beforeFragment (chars : List Char) : List Char := chars.takeWhile (· ≠ '#')

theorem beforeFragment_of_free {front : List Char} (free : '#' ∉ front) (back : List Char) :
    beforeFragment (front ++ back) = front ++ beforeFragment back := by
  refine List.takeWhile_append_of_pos ?_
  intro c member
  rw [decide_eq_true_eq]
  rintro rfl
  exact free member

theorem queryFrom_eq {taken chars query : List Char} (found : queryFrom taken chars = .ok query) :
    query = taken.reverse ++ beforeFragment chars := by
  induction chars generalizing taken with
  | nil =>
    cases found
    simp [beforeFragment]
  | cons c chars ih =>
    rw [queryFrom] at found
    split_ifs at found with fragment legal
    · cases found
      simp [beforeFragment, fragment]
    · rw [ih found]
      simp [beforeFragment, fragment]

theorem pathFrom_eq {taken chars path : List Char} (found : pathFrom taken chars = .ok path) :
    path = taken.reverse ++ beforeFragment chars := by
  induction chars generalizing taken with
  | nil =>
    cases found
    simp [beforeFragment]
  | cons c chars ih =>
    rw [pathFrom] at found
    split_ifs at found with query fragment legal
    · rw [queryFrom_eq found]
      simp [beforeFragment, query]
    · cases found
      simp [beforeFragment, fragment]
    · rw [ih found]
      simp [beforeFragment, fragment]

/-- A path and query as written, or `/` for none. -/
def orRoot (path : List Char) : List Char := if path = [] then ['/'] else path

theorem pathOf_orRoot {chars : List Char} {path : String} (found : pathOf chars = .ok path) :
    path = String.ofList (orRoot (beforeFragment chars)) := by
  unfold pathOf at found
  cases read : pathFrom [] chars with
  | error fault => simp [read] at found
  | ok front =>
    obtain rfl : front = beforeFragment chars := pathFrom_eq read
    rw [read] at found
    cases front : beforeFragment chars with
    | nil =>
      rw [front] at found
      exact (Except.ok.inj found).symm
    | cons c rest =>
      rw [front] at found
      exact (Except.ok.inj found).symm

/-! ## URIs -/

/-- The parts of a URI that a request is written from have no space and no control character. -/
structure VisibleParts (uri : Uri) : Prop where
  authority : ∀ authority ∈ uri.authority, ∀ c ∈ authority.toList, Visible c
  target : ∀ path ∈ uri.pathAndQuery, ∀ c ∈ path.toList, Visible c

private theorem parseAbsolute_visible {scheme : String} {chars : List Char} {uri : Uri}
    (parsed : parseAbsolute scheme chars = .ok uri) : uri.VisibleParts := by
  rw [parseAbsolute] at parsed
  split at parsed
  · cases parsed
  · cases parsed
  · rename_i authority rest _ split'
    split at parsed
    · rename_i path read
      cases parsed
      refine ⟨?_, ?_⟩
      · rintro _ ⟨⟩
        rw [String.toList_ofList]
        exact splitAuthority_visible split'
      · rintro _ ⟨⟩
        exact pathOf_visible read
    · cases parsed

private theorem parseAuthority_visible {surplus : UriFault} {chars : List Char} {uri : Uri}
    (parsed : parseAuthority surplus chars = .ok uri) : uri.VisibleParts := by
  rw [parseAuthority] at parsed
  split at parsed
  · cases parsed
  · rename_i authority split'
    cases parsed
    refine ⟨?_, by simp⟩
    rintro _ ⟨⟩
    rw [String.toList_ofList]
    exact splitAuthority_visible split'
  · cases parsed

/-- Every URI that is read has visible parts. -/
theorem parse_visible {text : String} {uri : Uri} (parsed : parse text = .ok uri) : uri.VisibleParts := by
  rw [parse] at parsed
  split_ifs at parsed
  split at parsed
  · cases parsed
  · cases parsed
    exact ⟨by simp, by simp [Visible]⟩
  · rename_i rest _
    cases read : pathOf ('/' :: rest) with
    | error fault => simp [read, Except.map] at parsed
    | ok path =>
      simp only [read, Except.map, Except.ok.injEq] at parsed
      subst parsed
      refine ⟨by simp, ?_⟩
      rintro _ ⟨⟩
      exact pathOf_visible read
  · exact parseAuthority_visible parsed
  · split at parsed
    · cases parsed
    · exact parseAbsolute_visible parsed
    · exact parseAuthority_visible parsed

/-- The host of an authority has no characters but those of the authority, and brackets. -/
theorem VisibleParts.host {uri : Uri} (visible : uri.VisibleParts) :
    ∀ host ∈ uri.host, ∀ c ∈ host.toList, Visible c := by
  intro host named c member
  obtain ⟨authority, known, rfl⟩ := Option.map_eq_some_iff.mp named
  have inside : ∀ c ∈ (authority.toList.reverse.takeWhile (· != '@')).reverse, Visible c := fun c listed =>
    visible.authority authority known c
      (List.mem_reverse.mp ((List.takeWhile_sublist _).subset (List.mem_reverse.mp listed)))
  rw [hostOf] at member
  split at member
  · rw [String.toList_ofList, List.mem_append, List.mem_singleton] at member
    rcases member with listed | rfl
    · exact inside c ((List.takeWhile_sublist _).subset listed)
    · simp [Visible]
  · rw [String.toList_ofList] at member
    exact inside c ((List.takeWhile_sublist _).subset member)

end Uri

end EngineClient.Http
