import EngineClient.Proofs.Pooling.Lending
import Mathlib.Data.List.Nodup
/-!
# The pools a dispatcher keeps

All that looking up the pool for an address can do (`Dispatcher.Finds`): the pool is kept already, there is room
for a new one, or a new one takes the place of the one used least recently. Every step of a session leaves the
kept pools tidy (`step_tidy`), and only requests, lookups and closing change what is kept (`step_shelf`).
-/

namespace EngineClient

namespace Dispatcher

/-! ## Looking up -/

/-- The pool a dispatcher makes for an address. -/
def poolFor (d : Dispatcher) (url : String) : Pool :=
  .create url d.socketPath d.settings.timeout d.settings.maxPoolSize d.settings.poolBlock

/-- The dispatcher with a new pool for an address, kept before those in a list. -/
def extended (d : Dispatcher) (url : String) (rest : List (String × Nat)) : Dispatcher :=
  { d with pools := d.pools ++ [d.poolFor url], cache := (url, d.pools.length) :: rest }

/-- The kept pools are those of different addresses, are different and made, and are not too many. -/
structure Tidy (d : Dispatcher) : Prop where
  urls : (d.cache.map (·.1)).Nodup
  numbers : (d.cache.map (·.2)).Nodup
  made : ∀ entry ∈ d.cache, entry.2 < d.pools.length
  within : d.cache.length ≤ d.capacity

/-- What looking up the pool for an address comes to. -/
inductive Finds (d : Dispatcher) (url : String) (w : World) : Nat → Dispatcher → World → Prop
  | kept {i : Nat} (cached : d.cache.lookup url = some i) :
      Finds d url w i { d with cache := Holdings.put d.cache url i } w
  | made (absent : d.cache.lookup url = none) (room : d.cache.length < d.capacity) :
      Finds d url w d.pools.length (d.extended url d.cache) w
  | replaced {rest : List (String × Nat)} {oldest : String × Nat} (absent : d.cache.lookup url = none)
      (full : d.cache.length = d.capacity) (last : d.cache = rest ++ [oldest]) :
      Finds d url w d.pools.length ((d.extended url rest).retirePool w oldest.2).1
        ((d.extended url rest).retirePool w oldest.2).2

theorem lookup_finds {d : Dispatcher} (tidy : d.Tidy) (url : String) (w : World) :
    d.Finds url w (d.lookup url w).1 (d.lookup url w).2.1 (d.lookup url w).2.2 := by
  rw [lookup]
  cases found : d.cache.lookup url with
  | some i => exact .kept found
  | none =>
    have positive : 0 < d.capacity := Nat.lt_of_lt_of_le Nat.zero_lt_one (Nat.le_max_right ..)
    rcases Nat.lt_or_eq_of_le tidy.within with room | full
    · have short : ((url, d.pools.length) :: d.cache).length ≤ d.capacity := room
      simp only [List.take_of_length_le short, List.drop_eq_nil_of_le short]
      exact .made found room
    · obtain ⟨rest, oldest, last⟩ : ∃ rest oldest, d.cache = rest ++ [oldest] := by
        have some : d.cache ≠ [] := List.ne_nil_of_length_pos (full ▸ positive)
        exact ⟨d.cache.dropLast, d.cache.getLast some, (List.dropLast_append_getLast some).symm⟩
      have count : ((url, d.pools.length) :: rest).length = d.capacity := by
        rw [← full, last, List.length_append, List.length_cons, List.length_singleton]
      have split : (url, d.pools.length) :: d.cache = ((url, d.pools.length) :: rest) ++ [oldest] := by rw [last]; rfl
      have front : ((url, d.pools.length) :: d.cache).take d.capacity = (url, d.pools.length) :: rest := by
        rw [split, List.take_left' count]
      have back : ((url, d.pools.length) :: d.cache).drop d.capacity = [oldest] := by
        rw [split, List.drop_left' count]
      simp only [front, back, List.foldl_cons, List.foldl_nil]
      exact .replaced found full last

/-! ## What is kept, apart from what the pools do -/

/-- All about a dispatcher except what its pools do. -/
structure Shelf where
  socketPath : String
  settings : DispatchSettings
  /-- The pools as they were made. -/
  pools : List Pool
  cache : List (String × Nat)

/-- All about a dispatcher except what its pools do. -/
def shelf (d : Dispatcher) : Shelf := ⟨d.socketPath, d.settings, d.pools.map Pool.asMade, d.cache⟩

theorem length_of_shelf {d d' : Dispatcher} (same : d'.shelf = d.shelf) : d'.pools.length = d.pools.length := by
  have pools := congrArg (·.pools.length) same
  simpa [shelf] using pools

theorem map_setPool {α : Type} {f : Pool → α} (d : Dispatcher) (i : Nat) {pool : Pool} (same : f pool = f (d.pool i)) :
    (d.setPool i pool).pools.map f = d.pools.map f := by
  rw [setPool, List.map_set, same]
  by_cases made : i < d.pools.length
  · have listed : i < (d.pools.map f).length := by simpa using made
    have mine : f (d.pool i) = (d.pools.map f)[i] := by simp [Dispatcher.pool, made]
    rw [mine, List.set_getElem_self]
  · exact List.set_eq_of_length_le (by simpa using made)

theorem shelf_setPool (d : Dispatcher) (i : Nat) {pool : Pool} (same : pool.asMade = (d.pool i).asMade) :
    (d.setPool i pool).shelf = d.shelf := by
  simp only [shelf, d.map_setPool i same]
  rfl

@[simp] theorem shelf_retirePool (d : Dispatcher) (w : World) (i : Nat) : (d.retirePool w i).1.shelf = d.shelf :=
  d.shelf_setPool i (Pool.asMade_retire ..)

@[simp] theorem shelf_closePool (d : Dispatcher) (w : World) (i : Nat) : (d.closePool w i).1.shelf = d.shelf :=
  d.shelf_setPool i (Pool.asMade_close _ w)

theorem Tidy.congr {d d' : Dispatcher} (tidy : d.Tidy) (same : d'.shelf = d.shelf) : d'.Tidy := by
  have count := length_of_shelf same
  simp only [shelf, Shelf.mk.injEq] at same
  obtain ⟨-, settings, -, cache⟩ := same
  refine ⟨?_, ?_, ?_, ?_⟩
  · rw [cache]; exact tidy.urls
  · rw [cache]; exact tidy.numbers
  · rw [cache, count]; exact tidy.made
  · rw [cache, capacity, settings]; exact tidy.within

theorem Tidy.of_empty {d : Dispatcher} (empty : d.cache = []) : d.Tidy := by
  refine ⟨?_, ?_, ?_, ?_⟩ <;> simp [empty]

theorem Tidy.notMem_of_absent {d : Dispatcher} {url : String} (absent : d.cache.lookup url = none) :
    url ∉ d.cache.map (·.1) := by
  intro listed
  obtain ⟨entry, kept, same⟩ := List.mem_map.mp listed
  have differs := List.lookup_eq_none_iff.mp absent entry kept
  simp [same] at differs

theorem Tidy.extended {d : Dispatcher} (tidy : d.Tidy) {url : String} {rest : List (String × Nat)}
    (absent : d.cache.lookup url = none) (kept : rest.Sublist d.cache) (room : rest.length < d.capacity) :
    (d.extended url rest).Tidy where
  urls := List.nodup_cons.mpr
    ⟨fun listed => notMem_of_absent absent ((kept.map _).subset listed), (kept.map _).nodup tidy.urls⟩
  numbers := by
    refine List.nodup_cons.mpr ⟨fun listed => ?_, (kept.map _).nodup tidy.numbers⟩
    obtain ⟨entry, member, same⟩ := List.mem_map.mp listed
    exact Nat.ne_of_lt (tidy.made entry (kept.subset member)) same
  made entry listed := by
    simp only [Dispatcher.extended, List.length_append, List.length_singleton]
    rcases List.mem_cons.mp listed with rfl | member
    · exact Nat.lt_succ_self _
    · exact Nat.lt_succ_of_lt (tidy.made entry (kept.subset member))
  within := room

namespace Finds
variable {d d' : Dispatcher} {url : String} {w w' : World} {i : Nat}

theorem tidy (finds : d.Finds url w i d' w') (tidy : d.Tidy) : d'.Tidy := by
  cases finds with
  | kept cached =>
    have same := Holdings.perm_remove tidy.urls cached
    refine ⟨Holdings.names_put tidy.urls, (same.map (·.2)).nodup_iff.mp tidy.numbers, fun entry listed => ?_, ?_⟩
    · exact tidy.made entry (same.mem_iff.mpr listed)
    · exact same.length_eq ▸ tidy.within
  | made absent room => exact tidy.extended absent (List.Sublist.refl _) room
  | @replaced rest oldest absent full last =>
    have kept : rest.Sublist d.cache := last ▸ List.sublist_append_left rest _
    have room : rest.length < d.capacity := by
      rw [← full, last, List.length_append, List.length_singleton]
      exact Nat.lt_succ_self _
    exact (tidy.extended absent kept room).congr (shelf_retirePool ..)

theorem length_le (finds : d.Finds url w i d' w') : d.pools.length ≤ d'.pools.length := by
  cases finds with
  | kept cached => exact Nat.le_refl _
  | made absent room => simp [extended]
  | replaced absent full last => simp [extended, retirePool, setPool]

/-- The pool found is made, and kept for the address. -/
theorem found (finds : d.Finds url w i d' w') (tidy : d.Tidy) :
    i < d'.pools.length ∧ d'.cache.head? = some (url, i) := by
  cases finds with
  | kept cached =>
    have same := Holdings.perm_remove tidy.urls cached
    exact ⟨tidy.made (url, i) (same.mem_iff.mpr List.mem_cons_self), rfl⟩
  | made absent room => simp [extended]
  | replaced absent full last => simp [extended, retirePool, setPool]

theorem cache_replaced {rest : List (String × Nat)} {oldest : Nat} :
    ((d.extended url rest).retirePool w oldest).1.cache = (url, d.pools.length) :: rest :=
  congrArg Shelf.cache (shelf_retirePool (d.extended url rest) w oldest)

theorem settings (finds : d.Finds url w i d' w') : d'.settings = d.settings := by
  cases finds <;> rfl

/-- What is kept after a lookup was kept before, or is new. -/
theorem kept_or_new (finds : d.Finds url w i d' w') (tidy : d.Tidy) {j : Nat} (kept : j ∈ d'.cache.map (·.2)) :
    j ∈ d.cache.map (·.2) ∨ j = d.pools.length := by
  cases finds with
  | kept cached =>
    have same := (Holdings.perm_remove tidy.urls cached).map (·.2)
    exact .inl (same.mem_iff.mpr kept)
  | made absent room => exact (List.mem_cons.mp kept).symm
  | replaced absent full last =>
    rw [cache_replaced] at kept
    rcases List.mem_cons.mp kept with new | old
    · exact .inr new
    · rw [last, List.map_append]
      exact .inl (List.mem_append_left _ old)

/-- What is new after a lookup is kept. -/
theorem new_kept (finds : d.Finds url w i d' w') {j : Nat} (unmade : d.pools.length ≤ j) (made : j < d'.pools.length) :
    j ∈ d'.cache.map (·.2) := by
  have next : ∀ rest, (d.extended url rest).pools.length = d.pools.length + 1 := by simp [extended]
  cases finds with
  | kept cached => exact absurd made (Nat.not_lt.mpr unmade)
  | made absent room =>
    rw [next] at made
    obtain rfl : j = d.pools.length := by omega
    exact List.mem_cons_self
  | replaced absent full last =>
    rw [length_of_shelf (shelf_retirePool ..), next] at made
    obtain rfl : j = d.pools.length := by omega
    rw [cache_replaced]
    exact List.mem_cons_self

end Finds

/-- What closing any kept pool keeps, closing the dispatcher keeps. -/
theorem close_keeps {P : Dispatcher → World → Prop} {d : Dispatcher} {w : World} (before : P d w)
    (keeps : ∀ entry ∈ d.cache, ∀ d' w', P d' w' → P (d'.closePool w' entry.2).1 (d'.closePool w' entry.2).2) :
    ∃ closed, (d.close w).1 = { closed with cache := [] } ∧ P closed (d.close w).2 := by
  have each : ∀ (entries : List (String × Nat)), entries ⊆ d.cache → ∀ (d' : Dispatcher) (w' : World), P d' w' →
      P (entries.foldl (fun before entry => closePool before.1 before.2 entry.2) (d', w')).1
        (entries.foldl (fun before entry => closePool before.1 before.2 entry.2) (d', w')).2 := by
    intro entries
    induction entries with
    | nil => exact fun _ _ _ holds => holds
    | cons entry rest ih =>
      intro listed d' w' holds
      exact ih (fun _ later => listed (List.mem_cons_of_mem _ later)) _ _
        (keeps entry (listed List.mem_cons_self) d' w' holds)
  exact ⟨_, rfl, each d.cache.reverse (fun _ kept => List.mem_reverse.mp kept) d w before⟩

theorem shelf_close (d : Dispatcher) (w : World) : (d.close w).1.shelf = { d.shelf with cache := [] } := by
  obtain ⟨closed, same, shelf⟩ := close_keeps (P := fun d' _ => d'.shelf = d.shelf) (d := d) (w := w) rfl
    fun entry _ d' w' same => (d'.shelf_closePool w' entry.2).trans same
  rw [same, ← shelf]
  rfl

end Dispatcher

namespace DispatchSession

/-- The pools that are kept are tidy, the names and the guards are those of pools that were made, and no two
connections are held under one name. -/
structure Tidy (s : DispatchSession) : Prop where
  dispatcher : s.dispatcher.Tidy
  names : ∀ entry ∈ s.names, entry.2 < s.dispatcher.pools.length
  guards : (s.guards.map (·.1)).Nodup
  lenders : ∀ entry ∈ s.guards, entry.2.1 < s.dispatcher.pools.length

@[simp] theorem shelf_giveBack (s : DispatchSession) (name : String) :
    (s.giveBack name).dispatcher.shelf = s.dispatcher.shelf := by
  rw [giveBack]
  split
  · rfl
  · exact s.dispatcher.shelf_setPool _ (Pool.asMade_release ..)

/-- After its lookup a request changes one pool, and neither what it was made for nor whether it is closed. -/
theorem send_setPool (d : Dispatcher) (request : Http.Request) (reply : Reply) (w : World) :
    let looked := d.lookup (Dispatcher.poolKey request.uri) w
    ∃ pool, (d.send request reply w).2.1 = looked.2.1.setPool looked.1 pool ∧
      pool.asMade = (looked.2.1.pool looked.1).asMade ∧ pool.closed = (looked.2.1.pool looked.1).closed := by
  rw [Dispatcher.send]
  generalize d.lookup (Dispatcher.poolKey request.uri) w = looked
  obtain ⟨i, d', w'⟩ := looked
  have made := (d'.pool i).asMade_acquire w'
  have closed := (d'.pool i).closed_acquire w'
  simp only
  generalize (d'.pool i).acquire w' = acquired at made closed ⊢
  obtain ⟨result, pool, lent⟩ := acquired
  cases result with
  | error error => exact ⟨pool, rfl, made, closed⟩
  | ok guard =>
    exact ⟨_, rfl, (Pool.asMade_release ..).trans made, (Pool.closed_release ..).trans closed⟩

theorem shelf_send (d : Dispatcher) (request : Http.Request) (reply : Reply) (w : World) :
    (d.send request reply w).2.1.shelf = (d.lookup (Dispatcher.poolKey request.uri) w).2.1.shelf := by
  obtain ⟨pool, sent, made, -⟩ := send_setPool d request reply w
  rw [sent]
  exact Dispatcher.shelf_setPool _ _ made

/-- What a step does to the pools that are kept: requests and lookups look a pool up, closing lets go of all, and
nothing else changes what is kept. -/
theorem step_shelf (s : DispatchSession) (step : DispatchStep) :
    (s.step step).2.dispatcher.shelf =
      match step with
      | .send request _ => (s.dispatcher.lookup (Dispatcher.poolKey request.uri) s.world).2.1.shelf
      | .pool url _ => (s.dispatcher.lookup url s.world).2.1.shelf
      | .close => { s.dispatcher.shelf with cache := [] }
      | _ => s.dispatcher.shelf := by
  cases step with
  | send request reply => exact shelf_send s.dispatcher request reply s.world
  | pool url name => rfl
  | acquire pool name =>
    simp only [DispatchSession.step]
    split
    · rfl
    · rename_i i bound
      have borrowed := (s.dispatcher.pool i).asMade_acquire s.world
      split
      · rename_i acquired
        rw [acquired] at borrowed
        exact (shelf_giveBack _ name).trans (s.dispatcher.shelf_setPool i borrowed)
      · rename_i acquired
        rw [acquired] at borrowed
        exact s.dispatcher.shelf_setPool i borrowed
  | release name => exact s.shelf_giveBack name
  | markBroken name =>
    simp only [DispatchSession.step]
    split <;> rfl
  | closePool name =>
    simp only [DispatchSession.step, withPool]
    split
    · rfl
    · exact s.dispatcher.shelf_closePool s.world _
  | retirePool name =>
    simp only [DispatchSession.step, withPool]
    split
    · rfl
    · exact s.dispatcher.shelf_retirePool s.world _
  | connect =>
    simp only [DispatchSession.step]
    split <;> rfl
  | peerClose channel => rfl
  | peerSend channel data => rfl
  | daemon entry => rfl
  | close => exact s.dispatcher.shelf_close s.world
  | look => rfl

theorem names_giveBack (s : DispatchSession) (name : String) : (s.giveBack name).names = s.names := by
  rw [giveBack]
  split <;> rfl

theorem guards_giveBack (s : DispatchSession) (name : String) :
    (s.giveBack name).guards = Holdings.remove s.guards name := by
  rw [giveBack]
  split
  · rename_i absent
    exact (Holdings.remove_of_absent absent).symm
  · rfl

/-- Only a lookup binds the name of a pool. -/
theorem step_names (s : DispatchSession) (step : DispatchStep) :
    (s.step step).2.names =
      match step with
      | .pool url name => Holdings.put s.names name (s.dispatcher.lookup url s.world).1
      | _ => s.names := by
  cases step with
  | acquire pool name =>
    simp only [DispatchSession.step]
    split
    · rfl
    · split
      · exact names_giveBack _ name
      · rfl
  | release name => exact s.names_giveBack name
  | markBroken name =>
    simp only [DispatchSession.step]
    split <;> rfl
  | closePool name =>
    simp only [DispatchSession.step, withPool]
    split <;> rfl
  | retirePool name =>
    simp only [DispatchSession.step, withPool]
    split <;> rfl
  | connect =>
    simp only [DispatchSession.step]
    split <;> rfl
  | _ => rfl

theorem step_guards_nodup {s : DispatchSession} (named : (s.guards.map (·.1)).Nodup) (step : DispatchStep) :
    ((s.step step).2.guards.map (·.1)).Nodup := by
  have back : ∀ name, ((s.giveBack name).guards.map (·.1)).Nodup := by
    intro name
    rw [guards_giveBack]
    exact Holdings.names_remove named
  cases step with
  | acquire pool name =>
    simp only [DispatchSession.step]
    split
    · exact named
    · split
      · refine Holdings.names_put ?_
        rw [guards_giveBack]
        exact Holdings.names_remove named
      · exact named
  | release name => exact back name
  | markBroken name =>
    simp only [DispatchSession.step]
    split
    · exact named
    · exact Holdings.names_put named
  | closePool name =>
    simp only [DispatchSession.step, withPool]
    split <;> exact named
  | retirePool name =>
    simp only [DispatchSession.step, withPool]
    split <;> exact named
  | connect =>
    simp only [DispatchSession.step]
    split <;> exact named
  | _ => exact named

/-- What is held after a step was held before, or comes from a pool with a name. -/
theorem step_lenders {s : DispatchSession} {step : DispatchStep} {entry : String × Nat × Guard}
    (held : entry ∈ (s.step step).2.guards) :
    (∃ old ∈ s.guards, old.2.1 = entry.2.1) ∨ ∃ pool, s.names.lookup pool = some entry.2.1 := by
  have back : ∀ {guards : Holdings (Nat × Guard)} {name : String}, entry ∈ Holdings.remove guards name →
      entry ∈ guards := fun kept => (List.mem_filter.mp kept).1
  have old : entry ∈ s.guards →
      (∃ old ∈ s.guards, old.2.1 = entry.2.1) ∨ ∃ pool, s.names.lookup pool = some entry.2.1 :=
    fun member => .inl ⟨entry, member, rfl⟩
  cases step with
  | acquire pool name =>
    simp only [DispatchSession.step] at held
    split at held
    · exact old held
    · rename_i i bound
      split at held
      · rcases List.mem_cons.mp held with rfl | kept
        · exact .inr ⟨pool, bound⟩
        · rw [guards_giveBack] at kept
          exact old (back (back kept))
      · exact old held
  | release name =>
    change entry ∈ (s.giveBack name).guards at held
    rw [guards_giveBack] at held
    exact old (back held)
  | markBroken name =>
    simp only [DispatchSession.step] at held
    split at held
    · exact old held
    · rename_i i guard bound
      rcases List.mem_cons.mp held with rfl | kept
      · exact .inl ⟨(name, i, guard), Holdings.mem_of_lookup bound, rfl⟩
      · exact old (back kept)
  | closePool name =>
    simp only [DispatchSession.step, withPool] at held
    split at held <;> exact old held
  | retirePool name =>
    simp only [DispatchSession.step, withPool] at held
    split at held <;> exact old held
  | connect =>
    simp only [DispatchSession.step] at held
    split at held <;> exact old held
  | _ => exact old held

/-- No pool is ever unmade. -/
theorem step_length_le {s : DispatchSession} (tidy : s.dispatcher.Tidy) (step : DispatchStep) :
    s.dispatcher.pools.length ≤ (s.step step).2.dispatcher.pools.length := by
  have shelf := s.step_shelf step
  have looked := fun url => (Dispatcher.lookup_finds tidy url s.world).length_le
  cases step with
  | send request reply => exact Nat.le_trans (looked _) (Nat.le_of_eq (Dispatcher.length_of_shelf shelf).symm)
  | pool url name => exact looked url
  | close =>
    have same := congrArg (·.pools.length) shelf
    exact Nat.le_of_eq (by simpa [Dispatcher.shelf] using same.symm)
  | _ => exact Nat.le_of_eq (Dispatcher.length_of_shelf shelf).symm

/-- What is kept after a step was kept before, or is new. -/
theorem kept_or_new {s : DispatchSession} (tidy : s.dispatcher.Tidy) (step : DispatchStep) {i : Nat}
    (kept : i ∈ (s.step step).2.dispatcher.cache.map (·.2)) :
    i ∈ s.dispatcher.cache.map (·.2) ∨ i = s.dispatcher.pools.length := by
  have cache := congrArg Dispatcher.Shelf.cache (s.step_shelf step)
  have looked := fun url => (Dispatcher.lookup_finds tidy url s.world).kept_or_new tidy (j := i)
  change (s.step step).2.dispatcher.cache = _ at cache
  rw [cache] at kept
  cases step with
  | send request reply => exact looked _ kept
  | pool url name => exact looked url kept
  | close => exact absurd kept List.not_mem_nil
  | _ => exact .inl kept

/-- What is new after a step is kept. -/
theorem new_kept {s : DispatchSession} (tidy : s.dispatcher.Tidy) (step : DispatchStep) {i : Nat}
    (unmade : s.dispatcher.pools.length ≤ i) (made : i < (s.step step).2.dispatcher.pools.length) :
    i ∈ (s.step step).2.dispatcher.cache.map (·.2) := by
  have shelf := s.step_shelf step
  have cache := congrArg Dispatcher.Shelf.cache shelf
  have count := congrArg (·.pools.length) shelf
  have looked := fun url => (Dispatcher.lookup_finds tidy url s.world).new_kept unmade
  change (s.step step).2.dispatcher.cache = _ at cache
  simp only [Dispatcher.shelf, List.length_map] at count
  rw [cache]
  rw [count] at made
  cases step with
  | send request reply => exact looked _ (by simpa [Dispatcher.shelf] using made)
  | pool url name => exact looked url (by simpa [Dispatcher.shelf] using made)
  | _ => exact absurd (by simpa [Dispatcher.shelf] using made) (Nat.not_lt.mpr unmade)

theorem step_tidy {s : DispatchSession} (tidy : s.Tidy) (step : DispatchStep) : (s.step step).2.Tidy where
  dispatcher := by
    have shelf := s.step_shelf step
    have looked := fun url => (Dispatcher.lookup_finds tidy.dispatcher url s.world).tidy tidy.dispatcher
    cases step with
    | send request reply => exact (looked _).congr shelf
    | pool url name => exact (looked url).congr shelf
    | close => exact .of_empty (congrArg Dispatcher.Shelf.cache shelf)
    | _ => exact tidy.dispatcher.congr shelf
  names := by
    have more := step_length_le tidy.dispatcher step
    have old : ∀ entry ∈ s.names, entry.2 < (s.step step).2.dispatcher.pools.length :=
      fun entry member => Nat.lt_of_lt_of_le (tidy.names entry member) more
    rw [step_names]
    cases step with
    | pool url name =>
      intro entry member
      rcases List.mem_cons.mp member with rfl | kept
      · exact ((Dispatcher.lookup_finds tidy.dispatcher url s.world).found tidy.dispatcher).1
      · exact old entry (List.mem_filter.mp kept).1
    | _ => exact old
  guards := step_guards_nodup tidy.guards step
  lenders := by
    intro entry held
    have more := step_length_le tidy.dispatcher step
    rcases step_lenders held with ⟨old, member, same⟩ | ⟨pool, bound⟩
    · exact Nat.lt_of_lt_of_le (same ▸ tidy.lenders old member) more
    · exact Nat.lt_of_lt_of_le (tidy.names _ (Holdings.mem_of_lookup bound)) more

theorem run_tidy {s : DispatchSession} (tidy : s.Tidy) (steps : List DispatchStep) : (s.run steps).Tidy := by
  induction steps generalizing s with
  | nil => exact tidy
  | cons step rest ih => exact ih (step_tidy tidy step)

theorem step_settings {s : DispatchSession} (tidy : s.Tidy) (step : DispatchStep) :
    (s.step step).2.dispatcher.settings = s.dispatcher.settings := by
  have settings := congrArg Dispatcher.Shelf.settings (s.step_shelf step)
  have found := fun url => (Dispatcher.lookup_finds tidy.dispatcher url s.world).settings
  cases step with
  | send request reply => exact settings.trans (found _)
  | pool url name => exact settings.trans (found url)
  | _ => exact settings

theorem run_settings {s : DispatchSession} (tidy : s.Tidy) (steps : List DispatchStep) :
    (s.run steps).dispatcher.settings = s.dispatcher.settings := by
  induction steps generalizing s with
  | nil => rfl
  | cons step rest ih => exact (ih (step_tidy tidy step)).trans (step_settings tidy step)

theorem start_tidy (socketPath : String) (settings : DispatchSettings) (files : Files) :
    (start (.create socketPath settings) files).Tidy where
  dispatcher := .of_empty rfl
  names := by simp [start]
  guards := List.nodup_nil
  lenders := by simp [start]

end DispatchSession

end EngineClient
