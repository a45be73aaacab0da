import EngineClient.Proofs.Pooling.Lending
import Mathlib.Data.List.Nodup
import Mathlib.Data.List.Perm.Basic
/-!
# The books of a pool

A pool, the guards held on its connections, and the world, and what can happen to the three (`Pool.Move`).
Whatever happens, the books balance: every connection of the pool that is not given up lies idle once or is held
by one guard, and the table of the pool lists the guards (`Move.balanced`). The connections of others are left
alone (`Move.frame`).
-/

namespace EngineClient

/-- What a loan is about: its ticket and its connection. -/
def Loan.key (loan : Loan) : Nat × Nat := (loan.ticket, loan.channel)

/-- What a guard is about: its ticket and its connection. -/
def Guard.key (guard : Guard) : Nat × Nat := (guard.ticket, guard.channel)

namespace Pool

/-! ## The table of loans -/

/-- The table of a pool lists exactly the guards held, each under its own ticket. -/
structure Records (pool : Pool) (guards : List Guard) : Prop where
  loans : (pool.lent.map Loan.key).Perm (guards.map Guard.key)
  tickets : (pool.lent.map (·.ticket)).Nodup
  below : ∀ loan ∈ pool.lent, loan.ticket < pool.nextTicket

namespace Records
variable {pool : Pool} {guards : List Guard}

theorem loan_of_guard (records : pool.Records guards) {guard : Guard} (held : guard ∈ guards) :
    ∃ loan ∈ pool.lent, loan.ticket = guard.ticket ∧ loan.channel = guard.channel := by
  have listed : guard.key ∈ pool.lent.map Loan.key := records.loans.mem_iff.mpr (List.mem_map_of_mem held)
  obtain ⟨loan, lent, same⟩ := List.mem_map.mp listed
  exact ⟨loan, lent, congrArg Prod.fst same, congrArg Prod.snd same⟩

theorem guard_of_loan (records : pool.Records guards) {loan : Loan} (lent : loan ∈ pool.lent) :
    ∃ guard ∈ guards, guard.ticket = loan.ticket ∧ guard.channel = loan.channel := by
  have listed : loan.key ∈ guards.map Guard.key := records.loans.mem_iff.mp (List.mem_map_of_mem lent)
  obtain ⟨guard, held, same⟩ := List.mem_map.mp listed
  exact ⟨guard, held, congrArg Prod.fst same, congrArg Prod.snd same⟩

theorem loan_unique (records : pool.Records guards) {loan other : Loan} (lent : loan ∈ pool.lent)
    (lent' : other ∈ pool.lent) (same : loan.ticket = other.ticket) : loan = other :=
  List.inj_on_of_nodup_map records.tickets lent lent' same

/-- The tickets listed are those of the guards. -/
theorem tickets_perm (records : pool.Records guards) :
    (pool.lent.map (·.ticket)).Perm (guards.map (·.ticket)) := by
  have first := records.loans.map Prod.fst
  simpa only [List.map_map, Function.comp_def, Loan.key, Guard.key] using first

theorem guard_tickets (records : pool.Records guards) : (guards.map (·.ticket)).Nodup :=
  records.tickets_perm.nodup_iff.mp records.tickets

theorem congr {others : List Guard} (records : pool.Records guards)
    (same : (guards.map Guard.key).Perm (others.map Guard.key)) : pool.Records others :=
  ⟨records.loans.trans same, records.tickets, records.below⟩

theorem of_same {pool' : Pool} (records : pool.Records guards) (lent : pool'.lent = pool.lent)
    (next : pool'.nextTicket = pool.nextTicket) : pool'.Records guards :=
  ⟨lent ▸ records.loans, lent ▸ records.tickets, lent ▸ next ▸ records.below⟩

theorem lend (records : pool.Records guards) (channel : Nat) (transient : Bool) :
    (pool.lend channel transient).2.Records (⟨pool.nextTicket, channel, false⟩ :: guards) where
  loans := by
    simp only [Pool.lend, List.map_append, List.map_cons, List.map_nil]
    exact (List.perm_append_singleton _ _).trans (records.loans.cons _)
  tickets := by
    simp only [Pool.lend, List.map_append, List.map_cons, List.map_nil]
    refine List.Nodup.append records.tickets (List.nodup_singleton _) ?_
    intro ticket old new
    obtain ⟨loan, lent, rfl⟩ := List.mem_map.mp old
    have earlier := records.below loan lent
    simp only [List.mem_singleton] at new
    omega
  below := by
    intro loan lent
    simp only [Pool.lend, List.mem_append, List.mem_singleton] at lent ⊢
    rcases lent with old | rfl
    · have earlier := records.below loan old
      omega
    · simp

/-- The end of a loan takes away the entry of its guard and no other. -/
theorem giveBack {guard : Guard} (records : pool.Records (guard :: guards)) :
    ({ pool with lent := pool.lent.filter (·.ticket != guard.ticket) } : Pool).Records guards where
  loans := by
    have others : (guards.map Guard.key).filter (fun key => key.1 != guard.ticket) = guards.map Guard.key := by
      refine List.filter_eq_self.mpr fun key listed => ?_
      obtain ⟨other, held, rfl⟩ := List.mem_map.mp listed
      have fresh := (List.nodup_cons.mp records.guard_tickets).1
      have differs : other.ticket ≠ guard.ticket := fun same => fresh (List.mem_map.mpr ⟨other, held, same⟩)
      simpa [Guard.key] using differs
    have kept := records.loans.filter (fun key => key.1 != guard.ticket)
    rw [List.filter_map, List.map_cons, List.filter_cons_of_neg (by simp [Guard.key]), others] at kept
    exact kept
  tickets := (List.filter_sublist.map _).nodup records.tickets
  below := fun loan lent => records.below loan (List.mem_filter.mp lent).1

end Records

/-! ## Balanced books -/

/-- A pool, the guards by which its lent connections are held, and the world. -/
structure Books where
  pool : Pool
  guards : List Guard
  world : World

/-- The books of a pool balance for the connections that are its own: each one that is not given up is in one
place, idle or with a guard, and one that is lent is shut down exactly when the pool has used its handle. -/
structure Books.Balanced (mine : Nat → Bool) (b : Books) : Prop where
  records : b.pool.Records b.guards
  once : ∀ i, b.pool.idle.count i + (b.guards.map (·.channel)).count i =
    if mine i && (b.world.channel i).held then 1 else 0
  ends : ∀ loan ∈ b.pool.lent, (b.world.channel loan.channel).shut = !loan.interruptible

/-- A pool's own connections when it makes those from one number up to another. -/
def taking (mine : Nat → Bool) (first last : Nat) (i : Nat) : Bool :=
  mine i || (decide (first ≤ i) && decide (i < last))

@[simp] theorem taking_self (mine : Nat → Bool) (made : Nat) : taking mine made made = mine := by
  funext i
  have none : (decide (made ≤ i) && decide (i < made)) = false := by
    rw [Bool.and_eq_false_iff, decide_eq_false_iff_not, decide_eq_false_iff_not]
    omega
  rw [taking, none, Bool.or_false]

namespace Books.Balanced
variable {mine : Nat → Bool} {pool : Pool} {guards : List Guard} {w : World}

theorem count (b : Balanced mine ⟨pool, guards, w⟩) (i : Nat) :
    pool.idle.count i + (guards.map (·.channel)).count i = if mine i && (w.channel i).held then 1 else 0 :=
  b.once i

theorem own_of_count (b : Balanced mine ⟨pool, guards, w⟩) {i : Nat}
    (some : 0 < pool.idle.count i + (guards.map (·.channel)).count i) :
    mine i = true ∧ (w.channel i).held = true := by
  have once := b.count i
  split at once
  · rename_i own
    simpa using own
  · omega

theorem own_of_idle (b : Balanced mine ⟨pool, guards, w⟩) {i : Nat} (idle : i ∈ pool.idle) :
    mine i = true ∧ (w.channel i).held = true :=
  b.own_of_count (Nat.add_pos_left (List.count_pos_iff.mpr idle) _)

theorem own_of_guard (b : Balanced mine ⟨pool, guards, w⟩) {guard : Guard} (held : guard ∈ guards) :
    mine guard.channel = true ∧ (w.channel guard.channel).held = true :=
  b.own_of_count (Nat.add_pos_right _ (List.count_pos_iff.mpr (List.mem_map_of_mem held)))

theorem own_of_loan (b : Balanced mine ⟨pool, guards, w⟩) {loan : Loan} (lent : loan ∈ pool.lent) :
    mine loan.channel = true ∧ (w.channel loan.channel).held = true := by
  obtain ⟨guard, held, -, same⟩ := b.records.guard_of_loan lent
  exact same ▸ b.own_of_guard held

/-- No connection is held by two guards. -/
theorem guard_channels (b : Balanced mine ⟨pool, guards, w⟩) : (guards.map (·.channel)).Nodup := by
  refine List.nodup_iff_count_le_one.mpr fun i => ?_
  have once := b.count i
  split at once <;> omega

theorem loan_channels (b : Balanced mine ⟨pool, guards, w⟩) : (pool.lent.map (·.channel)).Nodup := by
  have same := b.records.loans.map Prod.snd
  simp only [List.map_map, Function.comp_def, Loan.key, Guard.key] at same
  exact same.nodup_iff.mpr b.guard_channels

/-- What is lent is not parked. -/
theorem loan_notMem_idle (b : Balanced mine ⟨pool, guards, w⟩) {loan : Loan} (lent : loan ∈ pool.lent) :
    loan.channel ∉ pool.idle := by
  obtain ⟨guard, held, -, same⟩ := b.records.guard_of_loan lent
  have once := b.count guard.channel
  have some : 0 < (guards.map (·.channel)).count guard.channel := List.count_pos_iff.mpr (List.mem_map_of_mem held)
  rw [← same]
  refine List.count_eq_zero.mp ?_
  split at once <;> omega

theorem foreign_idle (b : Balanced mine ⟨pool, guards, w⟩) {i : Nat} (foreign : mine i = false) : i ∉ pool.idle := by
  intro idle
  have own := (b.own_of_idle idle).1
  simp [foreign] at own

theorem foreign_loan (b : Balanced mine ⟨pool, guards, w⟩) {i : Nat} (foreign : mine i = false) :
    ∀ loan ∈ pool.lent, loan.channel ≠ i := by
  rintro loan lent rfl
  have own := (b.own_of_loan lent).1
  simp [foreign] at own

/-- Books balance in every world in which the ends of the pool's own connections are as before. -/
theorem congr (b : Balanced mine ⟨pool, guards, w⟩) {w' : World} {mine' : Nat → Bool}
    (own : ∀ i, (mine' i && (w'.channel i).held) = (mine i && (w.channel i).held))
    (shut : ∀ i, mine i = true → (w'.channel i).shut = (w.channel i).shut) :
    Balanced mine' ⟨pool, guards, w'⟩ where
  records := b.records
  once i := by rw [own i]; exact b.once i
  ends loan lent := by rw [shut _ (b.own_of_loan lent).1]; exact b.ends loan lent

/-- Closing some of the parked connections. -/
theorem dropIdle (b : Balanced mine ⟨pool, guards, w⟩) {stale rest : List Nat} (parked : pool.idle = stale ++ rest) :
    Balanced mine ⟨{ pool with idle := rest }, guards, w.changeAll .drop stale⟩ where
  records := b.records.of_same rfl rfl
  once i := by
    have once := b.count i
    rw [parked, List.count_append] at once
    change rest.count i + (guards.map (·.channel)).count i =
      if mine i && ((w.changeAll .drop stale).channel i).held then 1 else 0
    by_cases dropped : i ∈ stale
    · have some := List.count_pos_iff.mpr dropped
      obtain ⟨own, held⟩ := b.own_of_idle (parked ▸ List.mem_append_left rest dropped)
      rw [if_pos (by simp [own, held])] at once
      rw [World.held_dropAll dropped, Bool.and_false, if_neg Bool.false_ne_true]
      omega
    · have none := List.count_eq_zero.mpr dropped
      rw [World.channel_dropAll_of_notMem dropped]
      omega
  ends loan lent := by
    have same : ((w.changeAll .drop stale).channel loan.channel).shut = (w.channel loan.channel).shut := by
      rw [World.channel_dropAll]
      split <;> rfl
    exact same.trans (b.ends loan lent)

/-- Lending the connection parked last. -/
theorem lendIdle (b : Balanced mine ⟨pool, guards, w⟩) {channel : Nat} {rest : List Nat}
    (parked : pool.idle = channel :: rest) (usable : (w.channel channel).isDropped = false) :
    Balanced mine
      ⟨({ pool with idle := rest }.lend channel false).2, ⟨pool.nextTicket, channel, false⟩ :: guards, w⟩ where
  records := (b.records.lend channel false).of_same rfl rfl
  once i := by
    have once := b.count i
    rw [parked, List.count_cons] at once
    simp only [lend, List.map_cons, List.count_cons]
    omega
  ends loan lent := by
    simp only [lend, List.mem_append, List.mem_singleton] at lent
    rcases lent with old | rfl
    · exact b.ends loan old
    · simp only [Channel.isDropped, Channel.isOpen, Bool.or_eq_false_iff, Bool.not_eq_false', Bool.and_eq_true,
        Bool.not_eq_true'] at usable
      exact usable.1.1.2

/-- Lending a connection that is new. -/
theorem lendNew (b : Balanced mine ⟨pool, guards, w⟩) (transient : Bool) :
    Balanced (taking mine w.channels.length w.grow.channels.length)
      ⟨(pool.lend w.channels.length transient).2, ⟨pool.nextTicket, w.channels.length, false⟩ :: guards, w.grow⟩ where
  records := b.records.lend w.channels.length transient
  once i := by
    have once := b.count i
    simp only [lend, List.map_cons, List.count_cons, taking, World.length_grow]
    rcases Nat.lt_trichotomy i w.channels.length with before | rfl | beyond
    · have own : (decide (w.channels.length ≤ i)) = false := by simpa using before
      have other : (w.channels.length == i) = false := by simpa using (Nat.ne_of_lt before).symm
      rw [World.channel_grow_of_lt before, own, other]
      simpa using once
    · have unheld : (w.channel w.channels.length).held = false := by rw [World.channel_of_le (Nat.le_refl _)]; rfl
      rw [unheld, Bool.and_false, if_neg Bool.false_ne_true] at once
      simp only [World.channel_grow_new, Channel.fresh, Nat.le_refl, Nat.lt_succ_self, decide_true, Bool.and_self,
        Bool.or_true, beq_self_eq_true, if_true]
      omega
    · have unheld : (w.channel i).held = false := by rw [World.channel_of_le (Nat.le_of_lt beyond)]; rfl
      have unheld' : (w.grow.channel i).held = false := by
        rw [World.channel_of_le (by simpa using Nat.succ_le_of_lt beyond)]; rfl
      have other : (w.channels.length == i) = false := by simpa using Nat.ne_of_lt beyond
      rw [unheld, Bool.and_false] at once
      simpa [unheld', other] using once
  ends loan lent := by
    simp only [lend, List.mem_append, List.mem_singleton] at lent
    rcases lent with old | rfl
    · have made := World.made_of_held (b.own_of_loan old).2
      rw [World.channel_grow_of_lt made]
      exact b.ends loan old
    · simp [Channel.fresh]

/-- A guard that ends, its connection being closed. -/
theorem discard {guard : Guard} (b : Balanced mine ⟨pool, guard :: guards, w⟩) :
    Balanced mine ⟨{ pool with lent := pool.lent.filter (·.ticket != guard.ticket) }, guards,
      w.change guard.channel .drop⟩ where
  records := b.records.giveBack
  once i := by
    have once := b.count i
    have again : w.change guard.channel .drop = w.changeAll .drop [guard.channel] := rfl
    rw [again]
    simp only [List.map_cons, List.count_cons] at once ⊢
    by_cases here : guard.channel = i
    · subst here
      obtain ⟨own, held⟩ := b.own_of_guard List.mem_cons_self
      rw [World.held_dropAll List.mem_cons_self]
      simp [own, held] at once ⊢
      omega
    · rw [World.channel_dropAll_of_notMem (by simpa using Ne.symm here)]
      simpa [here] using once
  ends loan lent := by
    have same : ((w.change guard.channel .drop).channel loan.channel).shut = (w.channel loan.channel).shut := by
      rw [World.channel_change]
      split <;> rfl
    exact same.trans (b.ends loan (List.mem_filter.mp lent).1)

/-- A guard that ends, its connection being parked. -/
theorem park {guard : Guard} (b : Balanced mine ⟨pool, guard :: guards, w⟩) :
    Balanced mine ⟨{ pool with
      lent := pool.lent.filter (·.ticket != guard.ticket), idle := guard.channel :: pool.idle }, guards, w⟩ where
  records := b.records.giveBack.of_same rfl rfl
  once i := by
    have once := b.count i
    simp only [List.map_cons, List.count_cons] at once ⊢
    omega
  ends loan lent := b.ends loan (List.mem_filter.mp lent).1

/-- Shutting down what is lent. -/
theorem shutLent (b : Balanced mine ⟨pool, guards, w⟩) :
    Balanced mine ⟨{ pool with lent := pool.lent.map fun loan => { loan with interruptible := false } }, guards,
      w.changeAll .shutdown ((pool.lent.filter (·.interruptible)).map (·.channel))⟩ where
  records := by
    refine ⟨?_, ?_, ?_⟩
    · rw [List.map_map]
      exact b.records.loans
    · rw [List.map_map]
      exact b.records.tickets
    · intro loan changed
      obtain ⟨old, lent, rfl⟩ := List.mem_map.mp changed
      exact b.records.below old lent
  once i := by
    rw [World.channel_shutAll]
    split
    · exact b.once i
    · exact b.once i
  ends loan changed := by
    obtain ⟨old, lent, rfl⟩ := List.mem_map.mp changed
    have before := b.ends old lent
    have made := World.made_of_held (b.own_of_loan lent).2
    simp only [World.channel_shutAll]
    by_cases handled : old.interruptible = true
    · have listed : old.channel ∈ (pool.lent.filter (·.interruptible)).map (·.channel) :=
        List.mem_map_of_mem (List.mem_filter.mpr ⟨lent, handled⟩)
      rw [if_pos ⟨listed, made⟩]
      rfl
    · split
      · rfl
      · simpa [handled] using before

/-- A pool without connections of which nobody holds a guard. -/
theorem of_empty (idle : pool.idle = []) (lent : pool.lent = []) (none : guards = [])
    (own : ∀ i, (mine i && (w.channel i).held) = false) : Balanced mine ⟨pool, guards, w⟩ := by
  subst none
  refine ⟨⟨?_, ?_, ?_⟩, fun i => ?_, ?_⟩
  · simp [lent]
  · simp [lent]
  · simp [lent]
  · simp [idle, own i]
  · simp [lent]

end Books.Balanced

/-! ## What can happen -/

/-- The guard that a try to borrow gave out. -/
def Attempt.guards : Attempt → List Guard
  | .lent guard => [guard]
  | _ => []

/-- What can happen to a pool, the guards on it and the world, when the pool may be retired and closed on these
terms. -/
inductive Move (retiring closing : Prop) : Books → Books → Prop
  | borrow {pool pool' : Pool} {guards : List Guard} {w w' : World} {attempt : Attempt}
      (tries : pool.Tries w attempt pool' w') :
      Move retiring closing ⟨pool, guards, w⟩ ⟨pool', Attempt.guards attempt ++ guards, w'⟩
  | giveBack {pool pool' : Pool} {guard : Guard} {guards : List Guard} {w w' : World}
      (returns : pool.Returns guard w pool' w') :
      Move retiring closing ⟨pool, guard :: guards, w⟩ ⟨pool', guards, w'⟩
  | retire {pool : Pool} {guards : List Guard} {w : World} (may : retiring) :
      Move retiring closing ⟨pool, guards, w⟩ ⟨(pool.retire w).1, guards, (pool.retire w).2⟩
  | close {pool : Pool} {guards : List Guard} {w : World} (may : closing) :
      Move retiring closing ⟨pool, guards, w⟩ ⟨(pool.close w).1, guards, (pool.close w).2⟩
  /-- The guards are put in another order, or marked broken. -/
  | regard {pool : Pool} {guards others : List Guard} {w : World}
      (same : (guards.map Guard.key).Perm (others.map Guard.key)) :
      Move retiring closing ⟨pool, guards, w⟩ ⟨pool, others, w⟩
  /-- Something else happens that leaves the program's ends of all connections as they are. -/
  | elsewhere {pool : Pool} {guards : List Guard} {w w' : World}
      (made : w'.channels.length = w.channels.length)
      (ends : ∀ i, (w'.channel i).held = (w.channel i).held ∧ (w'.channel i).shut = (w.channel i).shut) :
      Move retiring closing ⟨pool, guards, w⟩ ⟨pool, guards, w'⟩

theorem Returns.length_eq {pool pool' : Pool} {guard : Guard} {w w' : World} (returns : pool.Returns guard w pool' w') :
    w'.channels.length = w.channels.length := by
  cases returns <;> simp

@[simp] theorem length_retire (pool : Pool) (w : World) : (pool.retire w).2.channels.length = w.channels.length := by
  rw [retire]
  split
  · rfl
  · exact w.length_changeAll .drop pool.idle

/-- Closing a pool shuts down what is lent and closes what is parked. -/
theorem close_eq (pool : Pool) (w : World) :
    pool.close w =
      ({ pool with
          closed := true
          idle := []
          lent := pool.lent.map fun loan => { loan with interruptible := false } },
        (w.changeAll .shutdown ((pool.lent.filter (·.interruptible)).map (·.channel))).changeAll .drop pool.idle) := by
  simp only [close, World.changeAll, List.foldl_map]

@[simp] theorem length_close (pool : Pool) (w : World) : (pool.close w).2.channels.length = w.channels.length := by
  simp [close_eq]

namespace Books.Balanced
variable {mine : Nat → Bool} {pool : Pool} {guards : List Guard} {w : World}

theorem tries (b : Balanced mine ⟨pool, guards, w⟩) {attempt : Attempt} {pool' : Pool} {w' : World}
    (tries : pool.Tries w attempt pool' w') :
    Balanced (taking mine w.channels.length w'.channels.length) ⟨pool', Attempt.guards attempt ++ guards, w'⟩ := by
  have emptied : Balanced mine ⟨pool.emptied, guards, w.changeAll .drop pool.idle⟩ :=
    b.dropIdle (List.append_nil pool.idle).symm
  cases tries with
  | refused why =>
    rw [taking_self]
    exact b
  | reused isOpen parked usable =>
    rw [World.length_changeAll, taking_self]
    exact (b.dropIdle parked).lendIdle rfl usable
  | @dialed transient isOpen stale admitted answers =>
    have lent := emptied.lendNew transient
    rw [World.length_changeAll] at lent
    exact lent
  | undialed isOpen stale admitted fault =>
    rw [World.length_changeAll, taking_self]
    exact emptied
  | full isOpen stale blocks taken =>
    rw [World.length_changeAll, taking_self]
    exact emptied

theorem returns {guard : Guard} (b : Balanced mine ⟨pool, guard :: guards, w⟩) {pool' : Pool} {w' : World}
    (returns : pool.Returns guard w pool' w') : Balanced mine ⟨pool', guards, w'⟩ := by
  cases returns with
  | unknown foreign =>
    obtain ⟨loan, lent, same, -⟩ := b.records.loan_of_guard List.mem_cons_self
    exact absurd same (foreign loan lent)
  | closed lent same spent => exact b.discard
  | parked lent same isOpen whole plain => exact b.park

theorem retire (b : Balanced mine ⟨pool, guards, w⟩) :
    Balanced mine ⟨(pool.retire w).1, guards, (pool.retire w).2⟩ := by
  have emptied := b.dropIdle (List.append_nil pool.idle).symm
  rw [Pool.retire]
  split
  · exact b
  · exact ⟨emptied.records.of_same rfl rfl, emptied.once, emptied.ends⟩

theorem close (b : Balanced mine ⟨pool, guards, w⟩) :
    Balanced mine ⟨(pool.close w).1, guards, (pool.close w).2⟩ := by
  have shut := b.shutLent.dropIdle (List.append_nil pool.idle).symm
  rw [close_eq]
  exact ⟨shut.records.of_same rfl rfl, shut.once, shut.ends⟩

end Books.Balanced

namespace Move
variable {retiring closing : Prop} {mine : Nat → Bool} {before after : Books}

/-- A pool to which something can happen on some terms is one to which it can happen on any. -/
theorem weaken (move : Move retiring closing before after) : Move True True before after := by
  cases move with
  | borrow tries => exact .borrow tries
  | giveBack returns => exact .giveBack returns
  | retire may => exact .retire trivial
  | close may => exact .close trivial
  | regard same => exact .regard same
  | elsewhere made ends => exact .elsewhere made ends

theorem length_le (move : Move retiring closing before after) :
    before.world.channels.length ≤ after.world.channels.length := by
  cases move with
  | borrow tries => cases tries <;> simp
  | giveBack returns => exact Nat.le_of_eq returns.length_eq.symm
  | retire may => simp
  | close may => simp
  | regard same => exact Nat.le_refl _
  | elsewhere made ends => exact Nat.le_of_eq made.symm

/-- What a pool was made for never changes. -/
theorem asMade (move : Move retiring closing before after) : after.pool.asMade = before.pool.asMade := by
  cases move with
  | borrow tries => exact tries.asMade
  | giveBack returns => exact returns.asMade
  | retire may => exact asMade_retire ..
  | close may => rfl
  | regard same => rfl
  | elsewhere made ends => rfl

theorem stays_closed (move : Move retiring closing before after) (closed : before.pool.closed = true) :
    after.pool.closed = true := by
  cases move with
  | borrow tries => cases tries <;> exact closed
  | giveBack returns => cases returns <;> exact closed
  | retire may =>
    rw [Pool.retire, if_pos closed]
    exact closed
  | close may => rfl
  | regard same => exact closed
  | elsewhere made ends => exact closed

/-- A pool that is closed was so before, or is retired or closed. -/
theorem closed_before (move : Move retiring closing before after) (closed : after.pool.closed = true) :
    before.pool.closed = true ∨ retiring ∨ closing := by
  cases move with
  | borrow tries => cases tries <;> exact .inl closed
  | giveBack returns => cases returns <;> exact .inl closed
  | retire may => exact .inr (.inl may)
  | close may => exact .inr (.inr may)
  | regard same => exact .inl closed
  | elsewhere made ends => exact .inl closed

/-- A pool that is not closed keeps its handles on what is lent. -/
theorem interruptible (move : Move retiring closing before after) (never : ¬closing)
    (all : ∀ loan ∈ before.pool.lent, loan.interruptible = true) :
    ∀ loan ∈ after.pool.lent, loan.interruptible = true := by
  have lends : ∀ {lent : List Loan} {ticket channel : Nat} {transient : Bool},
      (∀ loan ∈ lent, loan.interruptible = true) →
      ∀ loan ∈ lent ++ [⟨ticket, channel, transient, true⟩], loan.interruptible = true := by
    intro lent ticket channel transient all loan listed
    rcases List.mem_append.mp listed with old | new
    · exact all loan old
    · rw [List.mem_singleton.mp new]
  cases move with
  | borrow tries =>
    cases tries with
    | refused why => exact all
    | reused isOpen parked usable => exact lends all
    | dialed isOpen stale admitted answers => exact lends all
    | undialed isOpen stale admitted fault => exact all
    | full isOpen stale blocks taken => exact all
  | giveBack returns =>
    cases returns with
    | unknown foreign => exact all
    | closed lent same spent => exact fun loan kept => all loan (List.mem_filter.mp kept).1
    | parked lent same isOpen whole plain => exact fun loan kept => all loan (List.mem_filter.mp kept).1
  | retire may =>
    rw [Pool.retire]
    split
    · exact all
    · exact all
  | close may => exact absurd may never
  | regard same => exact all
  | elsewhere made ends => exact all

/-- Whatever happens, the books balance. -/
theorem balanced (move : Move retiring closing before after) (b : before.Balanced mine) :
    after.Balanced (taking mine before.world.channels.length after.world.channels.length) := by
  cases move with
  | borrow tries => exact b.tries tries
  | giveBack returns =>
    rw [returns.length_eq, taking_self]
    exact b.returns returns
  | retire may =>
    rw [length_retire, taking_self]
    exact b.retire
  | close may =>
    rw [length_close, taking_self]
    exact b.close
  | regard same =>
    rw [taking_self]
    refine ⟨b.records.congr same, fun i => ?_, b.ends⟩
    have channels := same.map Prod.snd
    simp only [List.map_map] at channels
    have counts := channels.count_eq i
    exact counts ▸ b.once i
  | elsewhere made ends =>
    rw [made, taking_self]
    exact b.congr (fun i => by rw [(ends i).1]) (fun i _ => (ends i).2)

/-- The program's ends of the connections of others stay as they are. -/
theorem frame (move : Move retiring closing before after) (b : before.Balanced mine) {i : Nat}
    (foreign : mine i = false) (made : i < before.world.channels.length) :
    (after.world.channel i).held = (before.world.channel i).held ∧
      (after.world.channel i).shut = (before.world.channel i).shut := by
  cases move with
  | @borrow pool pool' guards w w' attempt tries =>
    have kept := b.foreign_idle foreign
    cases tries with
    | refused why => exact ⟨rfl, rfl⟩
    | reused isOpen parked usable =>
      have above : i ∉ _ := fun stale => kept (parked ▸ List.mem_append_left _ stale)
      simp [World.channel_dropAll_of_notMem above]
    | dialed isOpen stale admitted answers =>
      have grown : i < (w.changeAll .drop pool.idle).channels.length := by simpa using made
      simp [World.channel_grow_of_lt grown, World.channel_dropAll_of_notMem kept]
    | undialed isOpen stale admitted fault => simp [World.channel_dropAll_of_notMem kept]
    | full isOpen stale blocks taken => simp [World.channel_dropAll_of_notMem kept]
  | @giveBack pool pool' guard guards w w' returns =>
    have other : ¬(guard.channel = i ∧ i < w.channels.length) := fun both => by
      have own := (b.own_of_guard List.mem_cons_self).1
      simp [both.1, foreign] at own
    cases returns with
    | unknown => simp [World.channel_change, other]
    | closed => simp [World.channel_change, other]
    | parked => exact ⟨rfl, rfl⟩
  | @retire pool guards w may =>
    have kept := b.foreign_idle foreign
    rw [Pool.retire]
    split
    · exact ⟨rfl, rfl⟩
    · change ((w.changeAll .drop pool.idle).channel i).held = _ ∧ ((w.changeAll .drop pool.idle).channel i).shut = _
      simp [World.channel_dropAll_of_notMem kept]
  | @close pool guards w may =>
    have kept := b.foreign_idle foreign
    have unlent : i ∉ (pool.lent.filter (·.interruptible)).map (·.channel) := by
      intro listed
      obtain ⟨loan, lent, same⟩ := List.mem_map.mp listed
      exact b.foreign_loan foreign loan (List.mem_filter.mp lent).1 same
    rw [close_eq]
    simp only [World.channel_dropAll_of_notMem kept, World.channel_shutAll]
    rw [if_neg fun both => unlent both.1]
    exact ⟨rfl, rfl⟩
  | regard same => exact ⟨rfl, rfl⟩
  | elsewhere made ends => exact ends i

end Move

end Pool

end EngineClient
