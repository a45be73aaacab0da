import EngineClient.Proofs.Pooling.Borrowing
import EngineClient.Proofs.Pooling.OwnReply
import EngineClient.Proofs.Pooling.Retirement
/-!
# What a request leaves behind

A request borrows one connection, uses it once and gives it back, so that after it the same connections are lent as
before (`send_gives_back`). What it does is said part by part: the lookup may evict one pool (`Finds.evicts`), the pool
found lends a connection (`Pool.acquire_borrows`), and the exchange over it decides whether the connection is parked or
closed when it comes back (`returned_after_use`).
-/

namespace EngineClient

theorem World.changeAll_append (w : World) (f : Channel → Channel) (first second : List Nat) :
    w.changeAll f (first ++ second) = (w.changeAll f first).changeAll f second :=
  List.foldl_append

namespace Pool

/-- A pool whose parked connections are closed when it is. -/
def Settled (pool : Pool) : Prop := pool.closed = true → pool.idle = []

theorem retire_eq {pool : Pool} (settled : pool.Settled) (w : World) :
    pool.retire w = ({ pool with closed := true, idle := [] }, w.changeAll .drop pool.idle) := by
  rw [retire]
  split
  · rename_i closed
    have none := settled closed
    obtain ⟨baseUrl, path, timeout, size, block, idle, lent, dialing, next, shut⟩ := pool
    obtain rfl : shut = true := closed
    obtain rfl : idle = [] := none
    rfl
  · rfl

/-- What borrowing has done that lent a connection: it was parked, below those closed, or it is new and nothing is
parked any more. -/
theorem Borrows.lends {pool pool' : Pool} {w w' : World} {guard : Guard} (borrows : pool.Borrows w (.ok guard) pool' w') :
    ∃ stale rest transient, (∀ c ∈ stale, (w.channel c).isDropped = true) ∧ pool.closed = false ∧
      guard.ticket = pool.nextTicket ∧ pool' = ({ pool with idle := rest }.lend guard.channel transient).2 ∧
      (pool.idle = stale ++ guard.channel :: rest ∧ w'.channels.length = w.channels.length ∨
        pool.idle = stale ∧ rest = [] ∧ guard.channel = w.channels.length ∧
          w'.channels.length = w.channels.length + 1) ∧
      ∀ c, c ≠ guard.channel → w'.channel c = (w.changeAll .drop stale).channel c := by
  cases borrows with
  | @reuses stale rest channel isOpen parked above usable =>
    exact ⟨stale, rest, false, above, isOpen, rfl, rfl, .inl ⟨parked, World.length_changeAll ..⟩, fun _ _ => rfl⟩
  | @dials transient isOpen all =>
    have count : (w.changeAll .drop pool.idle).channels.length = w.channels.length := World.length_changeAll ..
    refine ⟨pool.idle, [], transient, all, isOpen, rfl, rfl, .inr ⟨rfl, rfl, rfl, ?_⟩, fun c differs => ?_⟩
    · rw [World.length_grow, count]
    · rcases Nat.lt_or_ge c w.channels.length with made | unmade
      · exact World.channel_grow_of_lt (count.symm ▸ made)
      · have beyond : w.channels.length + 1 ≤ c := Nat.lt_of_le_of_ne unmade (Ne.symm differs)
        rw [World.channel_of_le (by simpa [count] using beyond), World.channel_of_le (by simpa [count] using unmade)]

/-- A connection that was just lent comes back: its loan ends, and it is parked or closed. -/
theorem release_of_lend {pool : Pool} (below : ∀ loan ∈ pool.lent, loan.ticket < pool.nextTicket) (channel : Nat)
    (transient broken : Bool) (w : World) :
    (pool.lend channel transient).2.release ⟨pool.nextTicket, channel, broken⟩ w =
      if pool.closed || broken || transient then
        ({ pool with nextTicket := pool.nextTicket + 1 }, w.change channel .drop)
      else ({ pool with nextTicket := pool.nextTicket + 1, idle := channel :: pool.idle }, w) := by
  have others : ∀ loan ∈ pool.lent, loan.ticket ≠ pool.nextTicket := fun loan lent => Nat.ne_of_lt (below loan lent)
  have none : pool.lent.find? (·.ticket == pool.nextTicket) = none :=
    List.find?_eq_none.mpr fun loan lent => by simpa using others loan lent
  have kept : pool.lent.filter (·.ticket != pool.nextTicket) = pool.lent :=
    List.filter_eq_self.mpr fun loan lent => by simpa using others loan lent
  simp [release, lend, List.find?_append, none, kept]

end Pool

namespace Dispatcher

/-- The pools that were kept and no longer are. -/
def evicted (d d' : Dispatcher) : List Nat :=
  (d.cache.map (·.2)).filter fun i => decide (i ∉ d'.cache.map (·.2))

theorem pool_extended_of_ne {d : Dispatcher} {i : Nat} (older : i ≠ d.pools.length) (url : String)
    (rest : List (String × Nat)) : (d.extended url rest).pool i = d.pool i := by
  rcases Nat.lt_or_gt_of_ne older with made | beyond
  · exact pool_append_of_lt (d := d) made _
  · have outside : d.pools.length ≤ i := Nat.le_of_lt beyond
    have outside' : (d.pools ++ [d.poolFor url]).length ≤ i := by simpa using Nat.succ_le_of_lt beyond
    simp [Dispatcher.pool, extended, List.getElem?_eq_none outside, List.getElem?_eq_none outside']

/-- A lookup changes no pool but the one it evicts, which is closed and loses its parked connections. The pool found is
as it was, or new. -/
theorem Finds.evicts {d d' : Dispatcher} {url : String} {w w' : World} {i : Nat} (finds : d.Finds url w i d' w')
    (tidy : d.Tidy) (settled : ∀ j, (d.pool j).Settled) :
    (∀ j, j ≠ i → d'.pool j =
      if j ∈ d.evicted d' then { d.pool j with closed := true, idle := [] } else d.pool j) ∧
    (d'.pool i = d.pool i ∨ i = d.pools.length ∧ d'.pool i = d.poolFor url) ∧
    w' = w.changeAll .drop ((d.evicted d').flatMap fun j => (d.pool j).idle) := by
  have nothing (stays : ∀ j ∈ d.cache.map (·.2), j ∈ d'.cache.map (·.2)) : d.evicted d' = [] :=
    List.filter_eq_nil_iff.mpr fun j kept => by simpa using stays j kept
  cases finds with
  | kept cached =>
    have same := (Holdings.perm_remove tidy.urls cached).map (·.2)
    rw [nothing fun j kept => same.mem_iff.mp kept]
    exact ⟨fun j _ => (if_neg List.not_mem_nil).symm, .inl rfl, rfl⟩
  | made absent room =>
    rw [nothing fun j kept => List.mem_cons_of_mem _ kept]
    refine ⟨fun j differs => ?_, .inr ⟨rfl, pool_append_new d (d.poolFor url)⟩, rfl⟩
    rw [if_neg List.not_mem_nil]
    exact pool_extended_of_ne differs url d.cache
  | @replaced rest oldest absent full last =>
    have listed : oldest ∈ d.cache := last ▸ List.mem_append_right rest List.mem_cons_self
    have older : oldest.2 < d.pools.length := tidy.made oldest listed
    have same := pool_extended_of_ne (Nat.ne_of_lt older) url rest
    have inside : oldest.2 < (d.extended url rest).pools.length := by
      simp only [extended, List.length_append]
      omega
    have cache : ((d.extended url rest).retirePool w oldest.2).1.cache = (url, d.pools.length) :: rest :=
      Finds.cache_replaced
    have only : d.evicted ((d.extended url rest).retirePool w oldest.2).1 = [oldest.2] := by
      have apart := tidy.numbers
      rw [last, List.map_append, List.nodup_append] at apart
      have front : (rest.map (·.2)).filter (fun j => decide (j ∉ ((url, d.pools.length) :: rest).map (·.2))) = [] :=
        List.filter_eq_nil_iff.mpr fun j kept => by simpa using fun _ => List.mem_map.mp kept
      have gone : oldest.2 ∉ ((url, d.pools.length) :: rest).map (·.2) := by
        intro still
        rcases List.mem_cons.mp still with here | kept
        · exact Nat.ne_of_lt older here
        · exact apart.2.2 _ kept _ List.mem_cons_self rfl
      rw [evicted, cache, last, List.map_append, List.filter_append, front, List.nil_append]
      exact List.filter_cons_of_pos (decide_eq_true gone)
    rw [only]
    simp only [retirePool, same, Pool.retire_eq (settled oldest.2) w]
    refine ⟨fun j differs => ?_, .inr ⟨trivial, ?_⟩, ?_⟩
    · by_cases here : j = oldest.2
      · subst here
        rw [pool_setPool_self inside, if_pos List.mem_cons_self]
      · rw [pool_setPool_of_ne (Ne.symm here), pool_extended_of_ne differs, if_neg (by simpa using here)]
    · rw [pool_setPool_of_ne (Nat.ne_of_lt older)]
      exact pool_append_new d (d.poolFor url)
    · simp

/-- What holds of a dispatcher and its connections after every run, as far as requests rely on it. -/
structure Ready (d : Dispatcher) (w : World) : Prop where
  tidy : d.Tidy
  settled : ∀ i, (d.pool i).Settled
  below : ∀ i, ∀ loan ∈ (d.pool i).lent, loan.ticket < (d.pool i).nextTicket
  /-- No connection is parked twice, in one pool or in two. -/
  once : ∀ i, (d.pool i).idle.Nodup
  apart : ∀ i j c, c ∈ (d.pool i).idle → c ∈ (d.pool j).idle → i = j
  unsent : ∀ c, (w.connection c).Unsent

/-- What a lookup that found the pool of this number has done. -/
structure Found (d : Dispatcher) (url : String) (w : World) (i : Nat) (d' : Dispatcher) (w' : World) : Prop where
  made : i < d'.pools.length
  front : d'.cache.head? = some (url, i)
  others : ∀ j, j ≠ i → d'.pool j =
    if j ∈ d.evicted d' then { d.pool j with closed := true, idle := [] } else d.pool j
  lent : (d'.pool i).lent = (d.pool i).lent
  idle : (d'.pool i).idle = (d.pool i).idle
  below : ∀ loan ∈ (d'.pool i).lent, loan.ticket < (d'.pool i).nextTicket
  closed : w' = w.changeAll .drop ((d.evicted d').flatMap fun j => (d.pool j).idle)
  parked : ∀ c ∈ (d.pool i).idle, w'.channel c = w.channel c

theorem Ready.found {d : Dispatcher} {w : World} (ready : d.Ready w) (url : String) :
    d.Found url w (d.lookup url w).1 (d.lookup url w).2.1 (d.lookup url w).2.2 := by
  have finds := lookup_finds ready.tidy url w
  generalize d.lookup url w = looked at finds ⊢
  obtain ⟨i, d', w'⟩ := looked
  obtain ⟨made, front⟩ := finds.found ready.tidy
  obtain ⟨others, mine, closed⟩ := finds.evicts ready.tidy ready.settled
  have listed : i ∈ d'.cache.map (·.2) := by
    obtain ⟨rest, cache⟩ := List.head?_eq_some_iff.mp front
    exact cache ▸ List.mem_cons_self
  -- A pool that is new has nothing lent and nothing parked, like one that is not made.
  have same : (d'.pool i).lent = (d.pool i).lent ∧ (d'.pool i).idle = (d.pool i).idle ∧
      ∀ loan ∈ (d'.pool i).lent, loan.ticket < (d'.pool i).nextTicket := by
    rcases mine with same | ⟨rfl, new⟩
    · rw [same]
      exact ⟨rfl, rfl, ready.below i⟩
    · obtain ⟨idle, lent⟩ := pool_of_le (d := d) (Nat.le_refl d.pools.length)
      rw [new, idle, lent]
      exact ⟨rfl, rfl, fun loan none => absurd none List.not_mem_nil⟩
  refine ⟨made, front, others, same.1, same.2.1, same.2.2, closed, fun c parked => ?_⟩
  change w' = _ at closed
  rw [closed, World.channel_dropAll_of_notMem]
  intro lost
  obtain ⟨j, gone, there⟩ := List.mem_flatMap.mp lost
  have here := ready.apart i j c parked there
  subst here
  exact of_decide_eq_true (List.mem_filter.mp gone).2 listed

/-! ## The use and the return -/

/-- A connection that was lent by an open pool and used comes back: it is parked when it is reusable and not transient,
and closed otherwise. The others stay as they are. -/
theorem returned_after_use {pool : Pool} {channel : Nat} {w : World} {used : Channel} (isOpen : pool.closed = false)
    (below : ∀ loan ∈ pool.lent, loan.ticket < pool.nextTicket) (made : channel < w.channels.length)
    (held : used.held = true) (transient reusable : Bool) :
    let parks := reusable && !transient
    let returned := (pool.lend channel transient).2.release ⟨pool.nextTicket, channel, !reusable⟩
      (w.change channel fun _ => used)
    returned.1 = { pool with
      nextTicket := pool.nextTicket + 1
      idle := if parks then channel :: pool.idle else pool.idle } ∧
    returned.2.channels.length = w.channels.length ∧ (returned.2.channel channel).held = parks ∧
    ∀ c, c ≠ channel → returned.2.channel c = w.channel c := by
  intro parks returned
  have others (w : World) (f : Channel → Channel) (c : Nat) (differs : c ≠ channel) :
      (w.change channel f).channel c = w.channel c := by
    rw [World.channel_change, if_neg fun both => differs both.1.symm]
  have spent : (pool.closed || !reusable || transient) = !parks := by simp [isOpen, parks]
  have comes : returned = _ := Pool.release_of_lend below channel transient (!reusable) (w.change channel fun _ => used)
  rw [spent] at comes
  rw [comes]
  cases parks with
  | true =>
    refine ⟨rfl, World.length_change .., ?_, others w _⟩
    simpa [World.channel_change, made] using held
  | false =>
    refine ⟨rfl, by simp, ?_, fun c differs => ?_⟩
    · simp [World.channel_change, made, Channel.drop]
    · simp only [Bool.not_false, if_true, others _ _ c differs]

/-- A request that gets a connection is the use of it and its return. -/
theorem send_eq_release {d d' : Dispatcher} {request : Http.Request} {w w' lentWorld : World} {i : Nat} {guard : Guard}
    {pool : Pool} (looked : d.lookup (poolKey request.uri) w = (i, d', w'))
    (acquired : (d'.pool i).acquire w' = (.ok guard, pool, lentWorld))
    (unsent : (lentWorld.channel guard.channel).Unsent) (reply : Reply) :
    ∃ used : Channel, used.held = true ∧
      let reusable := leavesReusable (Http.readResponse request.method reply.source).1
      let returned := pool.release ⟨guard.ticket, guard.channel, !reusable⟩ (lentWorld.change guard.channel fun _ => used)
      (d.send request reply w).2 = (d'.setPool i returned.1, returned.2) := by
  have usable := Pool.acquire_lends acquired
  have held : (lentWorld.channel guard.channel).held = true := by
    simp only [Channel.isDropped, Channel.isOpen, Bool.or_eq_false_iff, Bool.not_eq_false', Bool.and_eq_true] at usable
    exact usable.1.1.1
  refine ⟨{ answered { lentWorld.channel guard.channel with toPeer := Http.requestBytes request request.target } reply
    with toProgram := (Http.readResponse request.method reply.source).2.allBytes }, held, ?_⟩
  rw [send, looked]
  simp only [acquired, exchange_eq unsent usable]
  rfl

/-- The pool for a request, once it was asked for a connection. -/
def lenderFor (d : Dispatcher) (request : Http.Request) (w : World) : Pool :=
  let (i, d, w) := d.lookup (poolKey request.uri) w
  ((d.pool i).acquire w).2.1

/-- The world when a request has evicted a pool and closed these connections, which could not be used. -/
def afterClosing (d d' : Dispatcher) (stale : List Nat) (w : World) : World :=
  w.changeAll .drop ((d.evicted d').flatMap (fun i => (d.pool i).idle) ++ stale)

section
variable {d : Dispatcher} {w : World} (ready : d.Ready w) (request : Http.Request) (reply : Reply)
include ready

/-- What a request does to the kept pools and to all pools but its own. -/
theorem Ready.send_frame :
    let i := (d.lookup (poolKey request.uri) w).1
    let d' := (d.send request reply w).2.1
    d'.cache.head? = some (poolKey request.uri, i) ∧
    ∀ j, j ≠ i → d'.pool j = if j ∈ d.evicted d' then { d.pool j with closed := true, idle := [] } else d.pool j := by
  intro i d'
  have found := ready.found (poolKey request.uri)
  have cache : d'.cache = (d.lookup (poolKey request.uri) w).2.1.cache :=
    congrArg Shelf.cache (DispatchSession.shelf_send d request reply w)
  obtain ⟨pool, sent, -, -⟩ := DispatchSession.send_setPool d request reply w
  have same : d.evicted d' = d.evicted (d.lookup (poolKey request.uri) w).2.1 := by rw [evicted, evicted, cache]
  refine ⟨cache ▸ found.front, fun j differs => ?_⟩
  rw [same, ← found.others j differs]
  change (d.send request reply w).2.1.pool j = _
  rw [sent, pool_setPool_of_ne (Ne.symm differs)]

/-- A request that gets no connection lends nothing, and closes only parked connections that cannot be used. -/
theorem Ready.send_unlent {error : TransportError} (unlent : d.lendFor request w = .error error) :
    let i := (d.lookup (poolKey request.uri) w).1
    let sent := (d.send request reply w).2
    ∃ stale, (∀ c ∈ stale, (w.channel c).isDropped = true) ∧ (sent.1.pool i).lent = (d.pool i).lent ∧
      (d.pool i).idle = stale ++ (sent.1.pool i).idle ∧ sent.2 = d.afterClosing sent.1 stale w := by
  have found := ready.found (poolKey request.uri)
  simp only [afterClosing]
  rw [lendFor] at unlent
  rw [send]
  generalize d.lookup (poolKey request.uri) w = looked at found unlent ⊢
  obtain ⟨i, d', w'⟩ := looked
  have borrows := (d'.pool i).acquire_borrows w'
  simp only at unlent ⊢
  generalize (d'.pool i).acquire w' = acquired at borrows unlent ⊢
  obtain ⟨result, pool, lent⟩ := acquired
  cases borrows with
  | @fails _ stale rest parked above =>
    have listed (c : Nat) (old : c ∈ stale) : c ∈ (d.pool i).idle := found.idle ▸ parked ▸ List.mem_append_left rest old
    refine ⟨stale, fun c old => ?_, ?_, ?_, ?_⟩
    · rw [← found.parked c (listed c old)]
      exact above c old
    · simp only [pool_setPool_self found.made]
      exact found.lent
    · simp only [pool_setPool_self found.made]
      exact found.idle.symm.trans parked
    · rw [World.changeAll_append]
      exact congrArg (·.changeAll .drop stale) found.closed
  | reuses isOpen parked above usable => cases unlent
  | dials isOpen all => cases unlent

/-- A request that gets a connection gives it back. It was parked in the pool of the request, or it is new; after the
exchange it is parked again, on top, exactly when the response leaves it reusable and it is not transient, and is closed
otherwise. The other connections are as they were, but for those closed on the way. -/
theorem Ready.send_lent {guard : Guard} (lent : d.lendFor request w = .ok guard) :
    let i := (d.lookup (poolKey request.uri) w).1
    let sent := (d.send request reply w).2
    ∃ loan stale rest,
      (d.lenderFor request w).closed = false ∧ (d.lenderFor request w).lent = (d.pool i).lent ++ [loan] ∧
      loan.key = guard.key ∧
      (∀ c ∈ stale, (w.channel c).isDropped = true) ∧ guard.channel ∉ rest ∧
      ((d.pool i).idle = stale ++ guard.channel :: rest ∧ sent.2.channels.length = w.channels.length ∨
        (d.pool i).idle = stale ∧ rest = [] ∧ guard.channel = w.channels.length ∧
          sent.2.channels.length = w.channels.length + 1) ∧
      (∀ c, c ≠ guard.channel → sent.2.channel c = (d.afterClosing sent.1 stale w).channel c) ∧
      (sent.1.pool i).lent = (d.pool i).lent ∧
      let parks := leavesReusable (Http.readResponse request.method reply.source).1 && !loan.transient
      (sent.1.pool i).idle = (if parks then guard.channel :: rest else rest) ∧
        (sent.2.channel guard.channel).held = parks := by
  have found := ready.found (poolKey request.uri)
  have once := ready.once (d.lookup (poolKey request.uri) w).1
  have unsent := fun c => lookup_lasting unsent_lasting (ready.unsent c) d (poolKey request.uri)
  have count := length_lookup ready.tidy (poolKey request.uri) w
  rcases looked : d.lookup (poolKey request.uri) w with ⟨i, d', w'⟩
  simp only [looked] at found once unsent count
  rw [lendFor, looked] at lent
  have unsent' := fun c => Pool.acquire_lasting unsent_lasting (unsent c) (d'.pool i)
  have borrows := (d'.pool i).acquire_borrows w'
  rcases acquired : (d'.pool i).acquire w' with ⟨result, lender, lentWorld⟩
  simp only [acquired] at lent borrows unsent'
  subst lent
  have made := World.made_of_usable (Pool.acquire_lends acquired)
  obtain ⟨used, held, sent⟩ :=
    send_eq_release looked acquired (World.channel_eq_connection made ▸ unsent' guard.channel) reply
  have lenderFor : d.lenderFor request w = lender := by rw [lenderFor, looked]; simp only [acquired]
  obtain ⟨stale, rest, transient, above, isOpen, ticket, rfl, place, others⟩ := borrows.lends
  rw [ticket] at sent
  have back := @returned_after_use { d'.pool i with idle := rest } guard.channel lentWorld used isOpen found.below made
    held transient (leavesReusable (Http.readResponse request.method reply.source).1)
  generalize leavesReusable (Http.readResponse request.method reply.source).1 = reusable at sent back ⊢
  simp only [lenderFor, afterClosing, sent]
  dsimp only at back ⊢
  generalize Pool.release _ _ _ = returned at back ⊢
  obtain ⟨after, w''⟩ := returned
  obtain ⟨rfl, count', parked, kept⟩ := back
  rw [found.idle] at place
  rw [count] at place
  have listed : ∀ c ∈ stale, c ∈ (d.pool i).idle := by
    intro c old
    rcases place with ⟨idle, -⟩ | ⟨idle, -⟩
    · exact idle ▸ List.mem_append_left _ old
    · exact idle ▸ old
  refine ⟨⟨guard.ticket, guard.channel, transient, true⟩, stale, rest, isOpen, ?_, rfl, ?_, ?_, ?_, ?_, ?_, ?_, parked⟩
  · simp only [Pool.lend, ticket, found.lent]
  · intro c old
    rw [← found.parked c (listed c old)]
    exact above c old
  · rcases place with ⟨idle, -⟩ | ⟨-, rfl, -⟩
    · rw [idle] at once
      exact (List.nodup_cons.mp (List.nodup_append.mp once).2.1).1
    · exact List.not_mem_nil
  · rw [count']
    exact place
  · intro c differs
    rw [kept c differs, others c differs, World.changeAll_append]
    exact congrArg (fun w : World => (w.changeAll .drop stale).channel c) found.closed
  · rw [pool_setPool_self found.made]
    exact found.lent
  · rw [pool_setPool_self found.made]

end

/-- A dispatcher whose books balance is ready for a request, when its closed pools have nothing parked. -/
theorem Books.Owned.ready {b : Books} (owned : b.Owned) (tidy : b.dispatcher.Tidy)
    (settled : ∀ i < b.dispatcher.pools.length, (b.dispatcher.pool i).Settled)
    (unsent : ∀ c, (b.world.connection c).Unsent) : b.dispatcher.Ready b.world := by
  refine ⟨tidy, fun i closed => ?_, fun i => (owned.balanced i).records.below, fun i => ?_, fun i j c here there => ?_,
    unsent⟩
  · rcases Nat.lt_or_ge i b.dispatcher.pools.length with made | unmade
    · exact settled i made closed
    · exact (pool_of_le unmade).1
  · refine List.nodup_iff_count_le_one.mpr fun c => ?_
    have once := (owned.balanced i).count c
    change (b.dispatcher.pool i).idle.count c + _ = _ at once
    split at once <;> omega
  · by_contra differs
    have mine := ((owned.balanced i).own_of_idle here).1
    have theirs := ((owned.balanced j).own_of_idle there).1
    rw [dialedBy_unique mine differs] at theirs
    cases theirs

end Dispatcher

namespace DispatchSession

/-- Every run leaves a dispatcher ready for a request. -/
theorem run_ready (socketPath : String) (settings : DispatchSettings) (files : Files) (steps : List DispatchStep) :
    let s := (start (.create socketPath settings) files).run steps
    s.dispatcher.Ready s.world := by
  intro s
  have begins := start_tidy socketPath settings files
  have owned := run_owned begins (Dispatcher.owned_create socketPath settings files) steps
  have fresh : ∀ c, ((start (.create socketPath settings) files).world.connection c).Unsent := fun _ => rfl
  refine owned.ready (run_tidy begins steps).dispatcher ?_ fun c => run_lasting unsent_lasting (fresh c) steps
  intro i made closed
  exact (run_fits begins rfl steps made).1.closed_idle closed

/-- A request is neutral on what is lent, and is sent once at most. Whatever was done before, it gets no connection, or
one, that is parked in the pool for its address or new, brings the daemon the bytes of the request and no others, and
is not lent any more when the request is answered: it is on top of what is parked in that pool when the response leaves
it reusable, the pool is open and it is not transient, and in every other case it is closed. Of all other connections
only such are closed as cannot be used and are parked in that pool, and those parked in a pool that the request evicts.
No other pool is changed. -/
theorem send_gives_back (socketPath : String) (settings : DispatchSettings) (files : Files)
    (steps : List DispatchStep) (request : Http.Request) (reply : Reply) :
    let s := (start (.create socketPath settings) files).run steps
    let after := (s.step (.send request reply)).2
    let i := (s.dispatcher.lookup (Dispatcher.poolKey request.uri) s.world).1
    let lender := s.dispatcher.lenderFor request s.world
    let evicted := s.dispatcher.evicted after.dispatcher
    (s.step (.send request reply)).1 = .sent (Dispatcher.ownDelivery request reply (s.lendFor request)) ∧
    after.dispatcher.cache.head? = some (Dispatcher.poolKey request.uri, i) ∧
    (∀ j, (after.dispatcher.pool j).lent = (s.dispatcher.pool j).lent) ∧
    (∀ j, j ≠ i → after.dispatcher.pool j =
      if j ∈ evicted then { s.dispatcher.pool j with closed := true, idle := [] } else s.dispatcher.pool j) ∧
    ∃ stale, (∀ c ∈ stale, (s.world.channel c).isDropped = true) ∧
      let others := s.world.changeAll .drop (evicted.flatMap (fun j => (s.dispatcher.pool j).idle) ++ stale)
      match s.lendFor request with
      | .error _ => (s.dispatcher.pool i).idle = stale ++ (after.dispatcher.pool i).idle ∧ after.world = others
      | .ok guard => ∃ loan rest,
        lender.lent = (s.dispatcher.pool i).lent ++ [loan] ∧ loan.key = guard.key ∧ guard.channel ∉ rest ∧
        ((s.dispatcher.pool i).idle = stale ++ guard.channel :: rest ∧
            after.world.channels.length = s.world.channels.length ∨
          (s.dispatcher.pool i).idle = stale ∧ rest = [] ∧ guard.channel = s.world.channels.length ∧
            after.world.channels.length = s.world.channels.length + 1) ∧
        (∀ c, c ≠ guard.channel → after.world.channel c = others.channel c) ∧
        if Dispatcher.leavesReusable (Http.readResponse request.method reply.source).1 = true ∧
            lender.closed = false ∧ loan.transient = false then
          (after.dispatcher.pool i).idle = guard.channel :: rest ∧ (after.world.channel guard.channel).held = true
        else (after.dispatcher.pool i).idle = rest ∧ (after.world.channel guard.channel).held = false := by
  intro s after i lender evicted
  have ready : s.dispatcher.Ready s.world := run_ready socketPath settings files steps
  obtain ⟨front, others⟩ := ready.send_frame request reply
  -- The pool of the request lends what it lent before; the others are as they were, or lose what is parked.
  have lends (mine : (after.dispatcher.pool i).lent = (s.dispatcher.pool i).lent) (j : Nat) :
      (after.dispatcher.pool j).lent = (s.dispatcher.pool j).lent := by
    by_cases here : j = i
    · exact here ▸ mine
    · have same := congrArg Pool.lent (others j here)
      split at same
      · exact same
      · exact same
  refine ⟨congrArg DispatchAnswer.sent (Dispatcher.send_eq ready.unsent s.dispatcher request reply), front, ?_⟩
  cases lent : s.lendFor request with
  | error error =>
    obtain ⟨stale, above, mine, idle, world⟩ := ready.send_unlent request reply lent
    exact ⟨lends mine, others, stale, above, idle, world⟩
  | ok guard =>
    obtain ⟨loan, stale, rest, isOpen, listed, key, above, apart, place, kept, mine, idle, held⟩ :=
      ready.send_lent request reply lent
    refine ⟨lends mine, others, stale, above, loan, rest, listed, key, apart, place, kept, ?_⟩
    have isOpen : lender.closed = false := isOpen
    cases reusable : Dispatcher.leavesReusable (Http.readResponse request.method reply.source).1 <;>
      cases plain : loan.transient <;> simp only [reusable, plain] at idle held <;> simp [isOpen]
    all_goals exact ⟨idle, held⟩

private def requestTo (authority : String) : Http.Request :=
  ⟨.get, ⟨some "http", some authority, some "/"⟩, .empty, []⟩

private def done (close : Bool) : Reply := ⟨Text.encode "HTTP/1.1 204 No Content\r\n\r\n", close⟩

/-- A dispatcher for one pool has a connection parked in the pool for one address. A request to another address evicts
that pool, and its own connection is parked. -/
theorem send_gives_back_evicting :
    let s := (start (.create "d.sock" ⟨none, 1, 1, true⟩) (.listening daemonPlace)).run
      [.send (requestTo "a") (done false)]
    let after := (s.step (.send (requestTo "b") (done false))).2
    s.lendFor (requestTo "b") = .ok ⟨1, 1, false⟩ ∧
    after.dispatcher.pool 0 = { s.dispatcher.pool 0 with closed := true, idle := [] } ∧
    after.world.channel 0 = (s.world.channel 0).drop ∧ (after.dispatcher.pool 1).idle = [1] := by
  have gives := send_gives_back "d.sock" ⟨none, 1, 1, true⟩ (.listening daemonPlace)
    [.send (requestTo "a") (done false)] (requestTo "b") (done false)
  generalize first : (start _ _).run _ = s at gives ⊢
  have lent : s.lendFor (requestTo "b") = .ok ⟨1, 1, false⟩ := by
    rw [← first]
    decide +kernel
  have known : (s.dispatcher.lookup (Dispatcher.poolKey (requestTo "b").uri) s.world).1 = 1 ∧
      s.dispatcher.evicted (s.step (.send (requestTo "b") (done false))).2.dispatcher = [0] ∧
      (s.dispatcher.pool 0).idle = [0] ∧ (s.dispatcher.pool 1).idle = [] ∧ s.world.channels.length = 1 ∧
      (s.dispatcher.lenderFor (requestTo "b") s.world).closed = false ∧
      (s.dispatcher.lenderFor (requestTo "b") s.world).lent = (s.dispatcher.pool 1).lent ++ [⟨1, 1, false, true⟩] := by
    rw [← first]
    decide +kernel
  have reusable : Dispatcher.leavesReusable (Http.readResponse (requestTo "b").method (done false).source).1 = true := by
    decide +kernel
  obtain ⟨found, evicts, parked, none, made, isOpen, listed⟩ := known
  simp only [found, evicts, lent] at gives
  obtain ⟨-, -, -, others, stale, above, loan, rest, listed', key, apart, place, kept, parks⟩ := gives
  obtain rfl : loan = ⟨1, 1, false, true⟩ := by simpa [listed] using listed'.symm
  rw [if_pos ⟨reusable, isOpen, rfl⟩] at parks
  obtain ⟨rfl, rfl⟩ : stale = [] ∧ rest = [] := by
    rcases place with ⟨idle, -⟩ | ⟨idle, only, -⟩
    · simp [none] at idle
    · exact ⟨idle.symm.trans none, only⟩
  refine ⟨lent, others 0 Nat.zero_ne_one, ?_, parks.1⟩
  rw [kept 0 Nat.zero_ne_one, World.channel_dropAll, if_pos]
  simp [parked, made]

end DispatchSession

end EngineClient
