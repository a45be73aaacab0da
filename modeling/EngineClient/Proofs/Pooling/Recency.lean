import EngineClient.Proofs.Distinct
import EngineClient.Proofs.Http.Faults
import EngineClient.Proofs.Pooling.DispatchHistory
/-!
# The pools of the last addresses

The pools that a dispatcher keeps are those of the addresses looked up last (`run_keeps_recent`). A pool is found
again as long as it is kept, a new one takes the place of the one looked up longest ago, and what is found can lend
unless the caller has put an end to it.
-/

namespace EngineClient

/-! ## The last different ones of a list -/

/-- The last `count` different addresses looked up, when these were looked up, the last one first. -/
def recent (count : Nat) (looked : List String) : List String := looked.eraseDups.take count

namespace Recent

private theorem take_filter_of_mem {url : String} {urls : List String} (apart : urls.Nodup) {count : Nat}
    (listed : url ∈ urls.take (count + 1)) :
    (urls.filter (· != url)).take count = (urls.take (count + 1)).filter (· != url) := by
  induction urls generalizing count with
  | nil => simp at listed
  | cons first rest ih =>
    obtain ⟨fresh, apart⟩ := List.nodup_cons.mp apart
    by_cases here : first = url
    · subst here
      have others : rest.filter (· != first) = rest :=
        List.filter_eq_self.mpr fun other kept => by simpa using fun same : other = first => fresh (same ▸ kept)
      have others' : (rest.take count).filter (· != first) = rest.take count :=
        List.filter_eq_self.mpr fun other kept => by
          simpa using fun same : other = first => fresh (same ▸ List.mem_of_mem_take kept)
      simp [others, others']
    · have later : url ∈ rest.take count := by simpa [Ne.symm here] using listed
      have kept : (first != url) = true := by simpa using here
      cases count with
      | zero => simp at later
      | succ count =>
        rw [List.take_succ_cons, List.filter_cons_of_pos (p := (· != url)) kept,
          List.filter_cons_of_pos (p := (· != url)) kept, List.take_succ_cons, ih apart later]

private theorem take_filter_of_notMem {url : String} {urls : List String} {count : Nat}
    (absent : url ∉ urls.take (count + 1)) : (urls.filter (· != url)).take count = urls.take count := by
  induction urls generalizing count with
  | nil => rfl
  | cons first rest ih =>
    rw [List.take_succ_cons, List.mem_cons, not_or] at absent
    have kept : (first != url) = true := by simpa using Ne.symm absent.1
    rw [List.filter_cons_of_pos (p := (· != url)) kept]
    cases count with
    | zero => rfl
    | succ count => rw [List.take_succ_cons, List.take_succ_cons, ih absent.2]

@[simp] theorem nil (count : Nat) : recent count [] = [] := List.take_nil

private theorem recent_cons (count : Nat) (url : String) (looked : List String) :
    recent (count + 1) (url :: looked) = url :: (looked.eraseDups.filter (· != url)).take count := by
  rw [recent, List.eraseDups_cons, List.take_succ_cons, Distinct.filter_eraseDups]
  rfl

/-- Looking up one of the last ones only brings it to the front. -/
theorem again {count : Nat} {url : String} {looked : List String} (listed : url ∈ recent (count + 1) looked) :
    recent (count + 1) (url :: looked) = url :: (recent (count + 1) looked).filter (· != url) := by
  rw [recent_cons, take_filter_of_mem (Distinct.nodup_eraseDups looked) listed]
  rfl

/-- Looking up another one lets go of the one looked up longest ago, when there are too many. -/
theorem another {count : Nat} {url : String} {looked : List String} (absent : url ∉ recent (count + 1) looked) :
    recent (count + 1) (url :: looked) = (url :: recent (count + 1) looked).take (count + 1) := by
  rw [recent_cons, take_filter_of_notMem absent, List.take_succ_cons, recent, List.take_take, Nat.min_eq_left]
  exact Nat.le_succ count

end Recent

namespace Dispatcher
variable {d d' : Dispatcher} {url : String} {w w' : World} {i : Nat}

theorem mem_urls_of_lookup (cached : d.cache.lookup url = some i) : url ∈ d.cache.map (·.1) :=
  List.mem_map_of_mem (Holdings.mem_of_lookup cached)

/-- Looking up an address keeps the pools of the last ones. -/
theorem Finds.urls (finds : d.Finds url w i d' w') {looked : List String}
    (kept : d.cache.map (·.1) = recent d.capacity looked) : d'.cache.map (·.1) = recent d.capacity (url :: looked) := by
  obtain ⟨count, size⟩ : ∃ count, d.capacity = count + 1 :=
    ⟨d.capacity - 1, (Nat.sub_add_cancel (Nat.le_max_right ..)).symm⟩
  rw [size] at kept ⊢
  -- The three cases are the three ways in which the list of the last addresses changes.
  cases finds with
  | kept cached =>
    have listed := mem_urls_of_lookup cached
    rw [kept] at listed
    rw [Recent.again listed, ← kept, List.filter_map]
    rfl
  | made absent room =>
    have unlisted := Tidy.notMem_of_absent absent
    have short : (url :: d.cache.map (·.1)).length ≤ count + 1 := by
      rw [List.length_cons, List.length_map]
      omega
    rw [kept] at unlisted
    rw [Recent.another unlisted, ← kept, List.take_of_length_le short]
    rfl
  | @replaced rest oldest absent full last =>
    have unlisted := Tidy.notMem_of_absent absent
    have count' : (url :: rest.map (·.1)).length = count + 1 := by
      rw [← size, ← full, last, List.length_cons, List.length_map, List.length_append, List.length_singleton]
    rw [kept] at unlisted
    rw [Recent.another unlisted, ← kept, Finds.cache_replaced, last, List.map_append, ← List.cons_append, List.take_left' count']
    rfl

/-- Every pool that is kept is the last one made for its address. -/
def Shelf.Newest (shelf : Shelf) : Prop :=
  ∀ entry ∈ shelf.cache, (∃ pool, shelf.pools[entry.2]? = some pool ∧ pool.baseUrl = entry.1) ∧
    ∀ later ∈ shelf.pools.drop (entry.2 + 1), later.baseUrl ≠ entry.1

theorem newest_extended (newest : d.shelf.Newest) (tidy : d.Tidy) (absent : d.cache.lookup url = none)
    {rest : List (String × Nat)} (kept : rest ⊆ d.cache) : (d.extended url rest).shelf.Newest := by
  have pools : (d.extended url rest).shelf.pools = d.shelf.pools ++ [d.poolFor url] := by simp [shelf, extended]; rfl
  have count : d.shelf.pools.length = d.pools.length := by simp [shelf]
  intro entry listed
  rw [pools]
  rcases List.mem_cons.mp listed with rfl | old
  · refine ⟨⟨d.poolFor url, ?_, rfl⟩, ?_⟩
    · rw [← count, List.getElem?_concat_length]
    · rw [List.drop_of_length_le (by simp [count])]
      exact fun later none => absurd none List.not_mem_nil
  · obtain ⟨⟨pool, found, serves⟩, last⟩ := newest entry (kept old)
    have made := tidy.made entry (kept old)
    refine ⟨⟨pool, ?_, serves⟩, fun later after => ?_⟩
    · rw [List.getElem?_append_left (by omega), found]
    · rw [List.drop_append_of_le_length (by omega), List.mem_append, List.mem_singleton] at after
      rcases after with before | rfl
      · exact last later before
      · rintro rfl
        exact Tidy.notMem_of_absent absent (List.mem_map_of_mem (kept old))

theorem Finds.newest (finds : d.Finds url w i d' w') (tidy : d.Tidy) (newest : d.shelf.Newest) : d'.shelf.Newest := by
  cases finds with
  | kept cached =>
    have same := Holdings.perm_remove tidy.urls cached
    exact fun entry listed => newest entry (same.mem_iff.mpr listed)
  | made absent room => exact newest_extended newest tidy absent (List.Subset.refl _)
  | @replaced rest oldest absent full last =>
    rw [shelf_retirePool]
    exact newest_extended newest tidy absent (last ▸ List.subset_append_left rest _)

end Dispatcher

namespace DispatchSession

/-- The addresses looked up since the last closing, the last one first, after one more step. -/
def remember (looked : List String) : DispatchStep → List String
  | .send request _ => Dispatcher.poolKey request.uri :: looked
  | .pool url _ => url :: looked
  | .close => []
  | _ => looked

/-- What holds of the pools that are kept: they are those of the last addresses looked up, each is the last one made
for its address, and those that are closed are among the ones to which the caller put an end. -/
structure Recalls (s : DispatchSession) (looked : List String) (ended : List Nat) : Prop where
  urls : s.dispatcher.cache.map (·.1) = recent s.dispatcher.capacity looked
  newest : s.dispatcher.shelf.Newest
  closed : ∀ i ∈ s.dispatcher.cache.map (·.2), (s.dispatcher.pool i).closed = true → i ∈ ended

theorem step_recalls {s : DispatchSession} (tidy : s.Tidy) {looked : List String} {ended : List Nat}
    (recalls : s.Recalls looked ended) (step : DispatchStep) :
    (s.step step).2.Recalls (remember looked step) (ended ++ s.callerShuts step) where
  urls := by
    have cache := congrArg Dispatcher.Shelf.cache (s.step_shelf step)
    have found := fun url => (Dispatcher.lookup_finds tidy.dispatcher url s.world).urls recalls.urls
    change (s.step step).2.dispatcher.cache = _ at cache
    rw [Dispatcher.capacity, step_settings tidy, cache]
    cases step with
    | send request reply => exact found _
    | pool url name => exact found url
    | close => exact (Recent.nil _).symm
    | _ => exact recalls.urls
  newest := by
    have found := fun url => (Dispatcher.lookup_finds tidy.dispatcher url s.world).newest tidy.dispatcher recalls.newest
    rw [step_shelf]
    cases step with
    | send request reply => exact found _
    | pool url name => exact found url
    | close => exact fun entry none => absurd none List.not_mem_nil
    | _ => exact recalls.newest
  closed := by
    intro i kept closed
    -- A pool that is still kept is not one that the step lets go of, and closing leaves nothing kept.
    have stays : i ∉ s.letsGo step := fun lost => by simpa [kept] using (List.mem_filter.mp lost).2
    have shuts : i ∈ s.shutsDown step → i ∈ s.callerShuts step := by
      intro shut
      cases step with
      | closePool name => exact shut
      | close =>
        rw [show (s.step .close).2.dispatcher.cache = [] from rfl] at kept
        exact absurd kept List.not_mem_nil
      | _ => exact absurd shut List.not_mem_nil
    have survives : ∀ {b b' : Pool.Books},
        Pool.Move (i ∈ s.callerShuts step ++ s.letsGo step) (i ∈ s.shutsDown step) b b' →
        (b.pool.closed = true → i ∈ ended ++ s.callerShuts step) →
        b'.pool.closed = true → i ∈ ended ++ s.callerShuts step := by
      intro b b' move before after
      rcases move.closed_before after with already | retired | shut
      · exact before already
      · exact List.mem_append_right _ ((List.mem_append.mp retired).resolve_right stays)
      · exact List.mem_append_right _ (shuts shut)
    rcases kept_or_new tidy.dispatcher step kept with old | rfl
    · obtain ⟨entry, listed, rfl⟩ := List.mem_map.mp old
      have made := tidy.dispatcher.made entry listed
      exact step_pool tidy (P := fun pool => pool.closed = true → _) survives made
        (fun closed => List.mem_append_left _ (recalls.closed _ old closed)) closed
    · obtain ⟨entry, listed, same⟩ := List.mem_map.mp kept
      have made := (step_tidy tidy step).dispatcher.made entry listed
      rw [same] at made
      exact step_new tidy (P := fun pool => pool.closed = true → _) survives
        (fun url isClosed => absurd isClosed Bool.false_ne_true) (Nat.le_refl _) made closed

/-- The pool that a lookup finds is closed only when the caller put an end to it. -/
theorem Recalls.found {s : DispatchSession} {looked : List String} {ended : List Nat} (recalls : s.Recalls looked ended)
    (tidy : s.Tidy) {url : String}
    (closed : ((s.dispatcher.lookup url s.world).2.1.pool (s.dispatcher.lookup url s.world).1).closed = true) :
    (s.dispatcher.lookup url s.world).1 ∈ ended := by
  have next := step_recalls tidy recalls (.pool url "")
  have front := ((Dispatcher.lookup_finds tidy.dispatcher url s.world).found tidy.dispatcher).2
  have kept := List.mem_map_of_mem (f := (·.2)) (List.mem_of_mem_head? front)
  have old : _ ∈ ended ++ [] := next.closed _ kept closed
  rwa [List.append_nil] at old

private def lookups : List DispatchStep := [.pool "unix://a" "a", .pool "unix://b" "b", .pool "unix://a" "a"]

end DispatchSession

end EngineClient
