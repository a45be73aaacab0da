import EngineClient.Proofs.Http.RequestWire
import Mathlib.Data.List.TakeWhile
/-!
# What a request asks for

A URI other than `*` begins with a slash, or is an authority alone, or names a scheme and an authority (`Uri.Absolute`).
The target of its request is the path and query below that, as written (`Uri.parse_below_target`), whatever scheme and
authority are. A query that stands right behind the authority is not given a slash (`target_of_uri`).
-/

namespace EngineClient.Http

namespace Uri

/-! ## The forms of a URI -/

/-- A text with a scheme, an authority, and behind it nothing or what begins a path, a query or a fragment. -/
structure Absolute (text scheme authority tail : List Char) : Prop where
  parts : text = scheme ++ "://".toList ++ (authority ++ tail)
  scheme : ∀ c ∈ scheme, isSchemeChar c = true
  authority : ∀ c ∈ authority, endsAuthority c = false
  tail : ∀ c ∈ tail.head?, endsAuthority c = true

/-- The path and query of a text that is a URI other than `*`. -/
inductive Below (text : List Char) : List Char → Prop
  | rooted (root : text.head? = some '/') : Below text (beforeFragment text)
  | absolute {scheme authority tail : List Char} (split : Absolute text scheme authority tail) :
      Below text (beforeFragment tail)
  | authority (alone : ∀ c ∈ text, endsAuthority c = false) : Below text []

section
variable {text scheme authority tail : List Char}

/-- A text is split in this way at one place only. -/
theorem Absolute.tail_unique {scheme' authority' tail' : List Char} (split : Absolute text scheme authority tail)
    (split' : Absolute text scheme' authority' tail') : tail = tail' := by
  have colon : (scheme ++ "://".toList ++ (authority ++ tail)).dropWhile isSchemeChar = "://".toList ++ (authority ++ tail) := by
    rw [List.append_assoc, List.dropWhile_append_of_pos split.scheme]
    rfl
  have colon' : (scheme' ++ "://".toList ++ (authority' ++ tail')).dropWhile isSchemeChar =
      "://".toList ++ (authority' ++ tail') := by
    rw [List.append_assoc, List.dropWhile_append_of_pos split'.scheme]
    rfl
  rw [← split.parts, split'.parts, colon', List.append_cancel_left_eq] at colon
  have ends {authority tail : List Char} (free : ∀ c ∈ authority, endsAuthority c = false)
      (last : ∀ c ∈ tail.head?, endsAuthority c = true) :
      (authority ++ tail).dropWhile (fun c => !endsAuthority c) = tail := by
    rw [List.dropWhile_append_of_pos fun c member => by rw [free c member]; rfl]
    cases tail with
    | nil => rfl
    | cons c rest => rw [List.dropWhile_cons_of_neg (by simp [last c rfl])]
  rw [← ends split.authority split.tail, ← colon, ends split'.authority split'.tail]

theorem Absolute.not_rooted (split : Absolute text scheme authority tail) : text.head? ≠ some '/' := by
  rw [split.parts]
  intro root
  cases scheme with
  | nil => simp at root
  | cons c rest =>
    obtain rfl : c = '/' := by simpa using root
    exact absurd (split.scheme '/' List.mem_cons_self) (by decide)

theorem Absolute.not_alone (split : Absolute text scheme authority tail) : ¬ ∀ c ∈ text, endsAuthority c = false := by
  intro alone
  have slash : '/' ∈ text := by simp [split.parts]
  exact absurd (alone '/' slash) (by decide)

/-- A text has one path and query at most. -/
theorem Below.unique {below below' : List Char} (isBelow : Below text below) (isBelow' : Below text below') :
    below = below' := by
  have apart (root : text.head? = some '/') : ¬ ∀ c ∈ text, endsAuthority c = false := by
    intro alone
    exact absurd (alone '/' (List.mem_of_head? root)) (by decide)
  cases isBelow with
  | rooted root =>
    cases isBelow' with
    | rooted root' => rfl
    | absolute split => exact absurd root split.not_rooted
    | authority alone => exact absurd alone (apart root)
  | absolute split =>
    cases isBelow' with
    | rooted root => exact absurd root split.not_rooted
    | absolute split' => rw [split.tail_unique split']
    | authority alone => exact absurd alone split.not_alone
  | authority alone =>
    cases isBelow' with
    | rooted root => exact absurd alone (apart root)
    | absolute split => exact absurd alone split.not_alone
    | authority alone' => rfl

theorem not_mem_beforeFragment (chars : List Char) : '#' ∉ beforeFragment chars := by
  intro member
  simpa using List.mem_takeWhile_imp member

theorem Below.no_fragment {below : List Char} (isBelow : Below text below) : '#' ∉ below := by
  cases isBelow with
  | rooted root => exact not_mem_beforeFragment text
  | absolute split => exact not_mem_beforeFragment _
  | authority alone => exact List.not_mem_nil

/-- A path and query begins with a slash, unless there is none or it is a query behind an authority. -/
theorem Below.begins {below : List Char} (isBelow : Below text below) :
    (orRoot below).head? = some '/' ↔ ¬ ∃ scheme authority query, Absolute text scheme authority ('?' :: query) := by
  cases isBelow with
  | rooted root =>
    obtain ⟨rest, rfl⟩ := List.head?_eq_some_iff.mp root
    refine iff_of_true rfl ?_
    rintro ⟨scheme, authority, query, split⟩
    exact split.not_rooted root
  | authority alone =>
    refine iff_of_true rfl ?_
    rintro ⟨scheme, authority, query, split⟩
    exact split.not_alone alone
  | @absolute scheme authority tail split =>
    cases tail with
    | nil =>
      refine iff_of_true rfl ?_
      rintro ⟨_, _, query, split'⟩
      exact List.cons_ne_nil _ _ (split'.tail_unique split)
    | cons c rest =>
      have ends := split.tail c rfl
      simp only [endsAuthority, Bool.or_eq_true, beq_iff_eq] at ends
      rcases ends with (rfl | rfl) | rfl
      · refine iff_of_true rfl ?_
        rintro ⟨_, _, query, split'⟩
        have same := split'.tail_unique split
        simp at same
      · exact iff_of_false (by simp [beforeFragment, orRoot]) (not_not.mpr ⟨scheme, authority, rest, split⟩)
      · refine iff_of_true rfl ?_
        rintro ⟨_, _, query, split'⟩
        have same := split'.tail_unique split
        simp at same

end

/-! ## What is read of each form -/

/-- An authority goes up to the first character that ends it. -/
theorem authorityFrom_eq {s : AuthorityScan} {taken chars authority tail : List Char}
    (found : authorityFrom s taken chars = .ok (authority, tail)) :
    ∃ front, authority = taken.reverse ++ front ∧ chars = front ++ tail ∧ (∀ c ∈ front, endsAuthority c = false) ∧
      ∀ c ∈ tail.head?, endsAuthority c = true := by
  induction chars generalizing s taken with
  | nil =>
    rw [authorityFrom] at found
    split_ifs at found
    cases found
    exact ⟨[], by simp, rfl, by simp, by simp⟩
  | cons c chars ih =>
    rw [authorityFrom] at found
    by_cases ends : endsAuthority c = true
    · rw [if_pos ends] at found
      split_ifs at found
      cases found
      refine ⟨[], by simp, rfl, by simp, ?_⟩
      rintro _ ⟨⟩
      exact ends
    · rw [if_neg ends] at found
      cases stepped : s.step c with
      | error fault => simp [stepped] at found
      | ok next =>
        rw [stepped] at found
        obtain ⟨front, rfl, rfl, free, last⟩ := ih found
        refine ⟨c :: front, by simp, rfl, ?_, last⟩
        exact List.forall_mem_cons.mpr ⟨Bool.eq_false_iff.mpr ends, free⟩

theorem splitAuthority_eq {chars authority tail : List Char} (found : splitAuthority chars = .ok (authority, tail)) :
    chars = authority ++ tail ∧ (∀ c ∈ authority, endsAuthority c = false) ∧ ∀ c ∈ tail.head?, endsAuthority c = true := by
  rw [splitAuthority] at found
  split_ifs at found
  obtain ⟨front, rfl, parts, free, last⟩ := authorityFrom_eq found
  exact ⟨parts, free, last⟩

private theorem eq_of_lowerAscii {c sign : Char} (low : sign.toNat < 0x41) (same : Text.lowerAscii c = sign) : c = sign := by
  rw [Text.lowerAscii] at same
  split_ifs at same with upper
  · have letters : ∀ n < 91, 65 ≤ n → 0x61 ≤ (Char.ofNat (n + 32)).toNat := by decide
    have letter := letters c.toNat (Nat.lt_succ_of_le upper.2) upper.1
    rw [same] at letter
    omega
  · exact same

private theorem schemeChar_of_lowerAscii {c : Char} (letter : isAlphanumeric (Text.lowerAscii c) = true) :
    isSchemeChar c = true := by
  rw [isSchemeChar, Bool.or_eq_true]
  left
  rw [Text.lowerAscii] at letter
  split_ifs at letter with upper
  · simp only [isAlphanumeric, Bool.or_eq_true, Bool.and_eq_true, decide_eq_true_eq]
    exact .inl (.inr upper)
  · exact letter

/-- A known scheme is found in either case. -/
theorem afterKnownScheme_eq (letters : String) {chars rest : List Char}
    (after : afterKnownScheme (letters ++ "://") chars = some rest)
    (plain : letters.toList.all isAlphanumeric = true) :
    ∃ scheme, chars = scheme ++ "://".toList ++ rest ∧ ∀ c ∈ scheme, isSchemeChar c = true := by
  rw [afterKnownScheme, Option.map_eq_some_iff] at after
  obtain ⟨more, found, rfl⟩ := after
  have known : (letters ++ "://").toList ++ more = (chars.take (letters ++ "://").length).map Text.lowerAscii :=
    (List.isPrefixOf?_eq_some_iff_append_eq.mp found)
  obtain rfl : more = [] := by
    have lengths := congrArg List.length known
    simp only [List.length_append, List.length_map, List.length_take, String.length_toList] at lengths
    exact List.length_eq_zero_iff.mp (by omega)
  rw [List.append_nil, String.toList_append, eq_comm, List.map_eq_append_iff] at known
  obtain ⟨scheme, mark, taken, lower, sign⟩ := known
  obtain rfl : mark = "://".toList := by
    obtain ⟨colon, _, rfl, isColon, slashes⟩ := List.map_eq_cons_iff.mp sign
    obtain ⟨slash, _, rfl, isSlash, last⟩ := List.map_eq_cons_iff.mp slashes
    obtain ⟨slash', _, rfl, isSlash', none⟩ := List.map_eq_cons_iff.mp last
    rw [List.map_eq_nil_iff.mp none, eq_of_lowerAscii (by decide) isColon, eq_of_lowerAscii (by decide) isSlash,
      eq_of_lowerAscii (by decide) isSlash']
    rfl
  refine ⟨scheme, ?_, ?_⟩
  · rw [← taken, List.take_append_drop]
  · intro c member
    refine schemeChar_of_lowerAscii (List.all_eq_true.mp plain _ ?_)
    rw [← lower]
    exact List.mem_map_of_mem member

theorem splitScheme_eq {chars rest : List Char} {scheme : String} (found : splitScheme chars = .ok (some (scheme, rest))) :
    ∃ written, chars = written ++ "://".toList ++ rest ∧ ∀ c ∈ written, isSchemeChar c = true := by
  rw [splitScheme] at found
  split at found
  · rename_i after
    cases found
    exact afterKnownScheme_eq "http" after (by decide)
  · split at found
    · rename_i after
      cases found
      exact afterKnownScheme_eq "https" after (by decide)
    · dsimp only at found
      split at found
      · rename_i rest' behind
        split_ifs at found
        · cases found
        · cases found
          refine ⟨chars.takeWhile isSchemeChar, ?_, ?_⟩
          · have whole := List.takeWhile_append_dropWhile (p := isSchemeChar) (l := chars)
            rw [behind] at whole
            rw [List.append_assoc]
            exact whole.symm
          · intro c member
            exact List.mem_takeWhile_imp member
      · cases found

/-- A URI that is read is `*`, or its target is the path and query below its authority. -/
theorem parse_below_target {text : String} {uri : Uri} (parsed : parse text = .ok uri) (other : text ≠ "*") :
    ∃ below, Below text.toList below ∧ uri.pathAndQuery.getD "/" = String.ofList (orRoot below) := by
  have alone {surplus : UriFault} (read : parseAuthority surplus text.toList = .ok uri) :
      ∃ below, Below text.toList below ∧ uri.pathAndQuery.getD "/" = String.ofList (orRoot below) := by
    rw [parseAuthority] at read
    split at read
    · cases read
    · rename_i authority split'
      cases read
      obtain ⟨whole, free, -⟩ := splitAuthority_eq split'
      rw [List.append_nil] at whole
      exact ⟨[], .authority (whole ▸ free), rfl⟩
    · cases read
  rw [parse] at parsed
  split_ifs at parsed
  split at parsed
  · cases parsed
  · rename_i star
    exact absurd (String.toList_injective star) other
  · rename_i rest rooted
    cases read : pathOf ('/' :: rest) with
    | error fault => simp [read, Except.map] at parsed
    | ok path =>
      rw [read] at parsed
      cases parsed
      rw [rooted]
      exact ⟨_, .rooted rfl, pathOf_orRoot read⟩
  · rename_i c _ _ single
    exact alone (single ▸ parsed)
  · split at parsed
    · cases parsed
    · rename_i scheme rest found
      obtain ⟨written, parts, schemeChars⟩ := splitScheme_eq found
      rw [parseAbsolute] at parsed
      split at parsed
      · cases parsed
      · cases parsed
      · rename_i authority tail _ split'
        obtain ⟨rfl, free, last⟩ := splitAuthority_eq split'
        split at parsed
        · rename_i path read
          cases parsed
          exact ⟨_, .absolute ⟨parts, schemeChars, free, last⟩, pathOf_orRoot read⟩
        · cases parsed
    · exact alone parsed

end Uri

/-! ## The target of a request -/

section
variable {method text : String} {given : List (String × Bytes)} {body : Bytes} {request : Request}

private theorem target_asterisk (built : Request.build method "*" given body = .ok request) : request.target = "*" := by
  obtain ⟨-, -, parsed, -⟩ := Request.build_eq_ok built
  have star : Uri.parse "*" = .ok ⟨none, none, some "*"⟩ := by decide +kernel
  rw [star] at parsed
  rw [Request.target, ← Except.ok.inj parsed]
  rfl

private theorem target_below (built : Request.build method text given body = .ok request) (other : text ≠ "*") :
    ∃ below, Uri.Below text.toList below ∧ request.target = String.ofList (Uri.orRoot below) := by
  obtain ⟨-, -, parsed, -⟩ := Request.build_eq_ok built
  exact Uri.parse_below_target parsed other

private theorem target_visible (built : Request.build method text given body = .ok request) :
    ∀ c ∈ request.target.toList, Visible c := by
  obtain ⟨-, -, parsed, -⟩ := Request.build_eq_ok built
  rw [Request.target]
  cases known : request.uri.pathAndQuery with
  | none => exact visible_of_all (by decide)
  | some path => exact (Uri.parse_visible parsed).target path known

private theorem target_no_fragment (built : Request.build method text given body = .ok request) :
    '#' ∉ request.target.toList := by
  by_cases star : text = "*"
  · subst star
    rw [target_asterisk built]
    decide
  · obtain ⟨below, isBelow, target⟩ := target_below built star
    rw [target, String.toList_ofList, Uri.orRoot]
    split_ifs
    · decide
    · exact isBelow.no_fragment

/-- What the target of a request is, by the text of its URI. Neither a space nor a line end nor a fragment gets into it.
It is `*` for `*`, and else the path and query below the authority, or `/` for none; so it begins with a slash, unless a
query stands right behind the authority. Two URIs with the same text behind their authorities have one target, and the
first lines of their requests have the same words. -/
theorem target_of_uri (built : Request.build method text given body = .ok request) :
    (∀ c ∈ request.target.toList, c ∉ [' ', '\r', '\n', '\x00', '#']) ∧
    (text = "*" → request.target = "*") ∧
    (text ≠ "*" →
      (∃ below, Uri.Below text.toList below ∧ request.target = String.ofList (Uri.orRoot below)) ∧
      (request.target.toList.head? = some '/' ↔
        ¬ ∃ scheme authority query, Uri.Absolute text.toList scheme authority ('?' :: query))) ∧
    ∀ (text' : String) (given' : List (String × Bytes)) (body' : Bytes) (request' : Request)
        (scheme authority scheme' authority' tail : List Char),
      Uri.Absolute text.toList scheme authority tail → Uri.Absolute text'.toList scheme' authority' tail →
      Request.build method text' given' body' = .ok request' →
      request'.target = request.target ∧
        (dissect (requestBytes request' request'.target)).map (·.words) =
          (dissect (requestBytes request request.target)).map (·.words) := by
  refine ⟨?_, ?_, ?_, ?_⟩
  · intro c member listed
    by_cases fragment : c = '#'
    · exact target_no_fragment built (fragment ▸ member)
    · have hidden : [' ', '\r', '\n', '\x00'].all (fun c => !decide (Visible c)) = true := by decide
      have unseen := List.all_eq_true.mp hidden c (by simpa [fragment] using listed)
      exact absurd (target_visible built c member) (by simpa using unseen)
  · intro star
    subst star
    exact target_asterisk built
  · intro other
    obtain ⟨below, isBelow, target⟩ := target_below built other
    refine ⟨⟨below, isBelow, target⟩, ?_⟩
    rw [target, String.toList_ofList]
    exact isBelow.begins
  · intro text' given' body' request' scheme authority scheme' authority' tail split split' built'
    have other {text : String} {scheme authority : List Char} (split : Uri.Absolute text.toList scheme authority tail) :
        text ≠ "*" := by
      rintro rfl
      exact split.not_alone (by simp [Uri.endsAuthority])
    obtain ⟨below, isBelow, target⟩ := target_below built (other split)
    obtain ⟨below', isBelow', target'⟩ := target_below built' (other split')
    obtain rfl := isBelow.unique (.absolute split)
    obtain rfl := isBelow'.unique (.absolute split')
    have same : request'.target = request.target := target'.trans target.symm
    refine ⟨same, ?_⟩
    rw [dissect_requestBytes built, dissect_requestBytes built', same]
    rfl

end

private def rootless : Request := ⟨.get, ⟨some "http", some "u@proxy:3128", some "?q=1"⟩, .empty, []⟩

private theorem build_rootless : Request.build "GET" "http://u@proxy:3128?q=1#x" [] [] = .ok rootless := by
  decide +kernel

private theorem absolute_rootless :
    Uri.Absolute "http://u@proxy:3128?q=1#x".toList "http".toList "u@proxy:3128".toList "?q=1#x".toList where
  parts := by decide
  scheme := List.all_eq_true.mp (by decide)
  authority := by simp [Uri.endsAuthority]
  tail := by simp [Uri.endsAuthority]

/-- A query behind an authority with a user and a port, and the same behind another authority. -/
theorem target_of_uri_rootless :
    rootless.target.toList.head? ≠ some '/' ∧
    ∃ request, Request.build "GET" "unix://s?q=1#x" [("Host", [])] [] = .ok request ∧ request.target = "?q=1" := by
  obtain ⟨-, -, other, alike⟩ := target_of_uri build_rootless
  have built : Request.build "GET" "unix://s?q=1#x" [("Host", [])] [] =
      .ok ⟨.get, ⟨some "unix", some "s", some "?q=1"⟩, ⟨[("host", [[]])]⟩, []⟩ := by decide +kernel
  have split : Uri.Absolute "unix://s?q=1#x".toList "unix".toList "s".toList "?q=1#x".toList :=
    ⟨by decide, List.all_eq_true.mp (by decide), by simp [Uri.endsAuthority], by simp [Uri.endsAuthority]⟩
  refine ⟨?_, _, built, (alike _ _ _ _ _ _ _ _ _ absolute_rootless split built).1⟩
  rw [ne_eq, (other (by decide)).2, not_not]
  exact ⟨_, _, _, absolute_rootless⟩

/-- Not every target of a URI other than `*` begins with a slash. -/
theorem target_without_root :
    ¬ ∀ (method text : String) (given : List (String × Bytes)) (body : Bytes) (request : Request),
      Request.build method text given body = .ok request → text ≠ "*" → request.target.toList.head? = some '/' := by
  intro rooted
  have begins := rooted _ _ _ _ _ build_rootless (by decide)
  exact absurd begins (by decide)

end EngineClient.Http
