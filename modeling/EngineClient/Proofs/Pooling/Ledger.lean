import EngineClient.Proofs.Pooling.PoolHistory
import EngineClient.Proofs.Pooling.Shelf
/-!
# The books of all pools

The pools of a dispatcher, the guards held on their connections, the world, and who dialed which connection
(`Dispatcher.Books`), and what can happen to them (`Dispatcher.Move`). Whatever happens to one pool leaves the
connections of the others alone, so that the books of all pools balance together (`owned_of_moves`). What holds of a
pool and survives all that can happen to it holds of it for good (`pool_of_moves`).
-/

namespace EngineClient

open Relation (ReflTransGen)

namespace Dispatcher

/-! ## Pools by number -/

theorem pool_setPool_self {d : Dispatcher} {i : Nat} (made : i < d.pools.length) (pool : Pool) :
    (d.setPool i pool).pool i = pool := by
  simp [Dispatcher.pool, setPool, made]

theorem pool_setPool_of_ne {d : Dispatcher} {i j : Nat} (differs : i ≠ j) (pool : Pool) :
    (d.setPool i pool).pool j = d.pool j := by
  simp [Dispatcher.pool, setPool, List.getElem?_set_ne differs]

theorem pool_append_of_lt {d : Dispatcher} {i : Nat} (made : i < d.pools.length) (pool : Pool) :
    ({ d with pools := d.pools ++ [pool] } : Dispatcher).pool i = d.pool i := by
  simp [Dispatcher.pool, List.getElem?_append_left made]

@[simp] theorem pool_append_new (d : Dispatcher) (pool : Pool) :
    ({ d with pools := d.pools ++ [pool] } : Dispatcher).pool d.pools.length = pool := by
  simp [Dispatcher.pool]

/-- A pool that is not made has no connections. -/
theorem pool_of_le {d : Dispatcher} {i : Nat} (beyond : d.pools.length ≤ i) :
    (d.pool i).idle = [] ∧ (d.pool i).lent = [] := by
  simp [Dispatcher.pool, List.getElem?_eq_none beyond, Pool.create]

/-! ## The books of all pools -/

/-- The guards held on the connections of one pool. -/
def guardsOf (guards : List (Nat × Guard)) (i : Nat) : List Guard := (guards.filter (·.1 == i)).map (·.2)

theorem guardsOf_cons_self (i : Nat) (guard : Guard) (guards : List (Nat × Guard)) :
    guardsOf ((i, guard) :: guards) i = guard :: guardsOf guards i := by
  simp [guardsOf]

theorem guardsOf_cons_of_ne {i j : Nat} (differs : i ≠ j) (guard : Guard) (guards : List (Nat × Guard)) :
    guardsOf ((i, guard) :: guards) j = guardsOf guards j := by
  simp [guardsOf, differs]

theorem mem_guardsOf {guards : List (Nat × Guard)} {i : Nat} {guard : Guard} :
    guard ∈ guardsOf guards i ↔ (i, guard) ∈ guards := by
  simp [guardsOf]

/-- Whether a pool dialed a connection, when this is who dialed each: a pool, or the program by itself. -/
def dialedBy (dialers : List (Option Nat)) (i channel : Nat) : Bool := dialers[channel]? == some (some i)

theorem lt_of_dialedBy {dialers : List (Option Nat)} {i channel : Nat} (dialed : dialedBy dialers i channel = true) :
    channel < dialers.length := by
  rw [dialedBy, beq_iff_eq] at dialed
  exact (List.getElem?_eq_some_iff.mp dialed).1

theorem dialedBy_unique {dialers : List (Option Nat)} {i j channel : Nat} (dialed : dialedBy dialers i channel = true)
    (differs : i ≠ j) : dialedBy dialers j channel = false := by
  rw [dialedBy, beq_iff_eq] at dialed
  simp [dialedBy, dialed, differs]

theorem dialedBy_append (dialers : List (Option Nat)) (count : Nat) (i : Nat) :
    dialedBy (dialers ++ List.replicate count (some i)) i =
      Pool.taking (dialedBy dialers i) dialers.length (dialers.length + count) := by
  funext channel
  rw [dialedBy, Pool.taking]
  rcases Nat.lt_or_ge channel dialers.length with before | beyond
  · have old : (decide (dialers.length ≤ channel)) = false := by simpa using before
    rw [List.getElem?_append_left before, old]
    simp [dialedBy]
  · rw [List.getElem?_append_right beyond, List.getElem?_replicate]
    by_cases within : channel - dialers.length < count
    · have inside : channel < dialers.length + count := by omega
      simp [within, inside, beyond]
    · have outside : ¬channel < dialers.length + count := by omega
      simp [within, outside, dialedBy, List.getElem?_eq_none beyond]

theorem dialedBy_append_of_ne (dialers : List (Option Nat)) (count : Nat) {j : Nat} {dialer : Option Nat}
    (differs : dialer ≠ some j) : dialedBy (dialers ++ List.replicate count dialer) j = dialedBy dialers j := by
  funext channel
  rw [dialedBy, dialedBy]
  rcases Nat.lt_or_ge channel dialers.length with before | beyond
  · rw [List.getElem?_append_left before]
  · rw [List.getElem?_append_right beyond, List.getElem?_replicate, List.getElem?_eq_none beyond]
    split
    · simpa using differs
    · rfl

/-- The pools of a dispatcher, the guards held with the numbers of their pools, the world, and who dialed each
connection. -/
structure Books where
  dispatcher : Dispatcher
  guards : List (Nat × Guard)
  world : World
  dialers : List (Option Nat)

/-- The books of each pool balance for the connections that it dialed. -/
structure Books.Owned (b : Books) : Prop where
  known : b.dialers.length = b.world.channels.length
  balanced : ∀ i, Pool.Books.Balanced (dialedBy b.dialers i) ⟨b.dispatcher.pool i, guardsOf b.guards i, b.world⟩

/-- What can happen to the pools, when each may be retired and closed on these terms. -/
inductive Move (retiring closing : Nat → Prop) : Books → Books → Prop
  /-- Something happens to one pool; the connections made meanwhile are its own. -/
  | inPool {d : Dispatcher} {guards guards' : List (Nat × Guard)} {w w' : World} {dialers : List (Option Nat)}
      {i : Nat} {pool' : Pool} (made : i < d.pools.length)
      (move : Pool.Move (retiring i) (closing i) ⟨d.pool i, guardsOf guards i, w⟩ ⟨pool', guardsOf guards' i, w'⟩)
      (others : ∀ j, i ≠ j → guardsOf guards' j = guardsOf guards j) :
      Move retiring closing ⟨d, guards, w, dialers⟩ ⟨d.setPool i pool', guards', w',
        dialers ++ List.replicate (w'.channels.length - w.channels.length) (some i)⟩
  /-- Something else happens that leaves the program's ends of all connections as they are. -/
  | elsewhere {d : Dispatcher} {guards : List (Nat × Guard)} {w w' : World} {dialers : List (Option Nat)}
      (made : w'.channels.length = w.channels.length)
      (ends : ∀ i, (w'.channel i).held = (w.channel i).held ∧ (w'.channel i).shut = (w.channel i).shut) :
      Move retiring closing ⟨d, guards, w, dialers⟩ ⟨d, guards, w', dialers⟩
  /-- A connection is dialed outside of all pools and given up. -/
  | outside {d : Dispatcher} {guards : List (Nat × Guard)} {w : World} {dialers : List (Option Nat)} :
      Move retiring closing ⟨d, guards, w, dialers⟩
        ⟨d, guards, w.grow.change w.channels.length .drop, dialers ++ [none]⟩
  /-- The guards are put in another order, or marked broken. -/
  | regard {d : Dispatcher} {guards guards' : List (Nat × Guard)} {w : World} {dialers : List (Option Nat)}
      (same : ∀ i, ((guardsOf guards i).map Guard.key).Perm ((guardsOf guards' i).map Guard.key)) :
      Move retiring closing ⟨d, guards, w, dialers⟩ ⟨d, guards', w, dialers⟩
  | make {d : Dispatcher} {guards : List (Nat × Guard)} {w : World} {dialers : List (Option Nat)} (url : String) :
      Move retiring closing ⟨d, guards, w, dialers⟩
        ⟨{ d with pools := d.pools ++ [d.poolFor url] }, guards, w, dialers⟩
  | keep {d : Dispatcher} {guards : List (Nat × Guard)} {w : World} {dialers : List (Option Nat)}
      (cache : List (String × Nat)) :
      Move retiring closing ⟨d, guards, w, dialers⟩ ⟨{ d with cache }, guards, w, dialers⟩

/-- Whatever happens, the books of all pools balance. -/
theorem Move.owned {retiring closing : Nat → Prop} {before after : Books} (move : Move retiring closing before after)
    (owned : before.Owned) : after.Owned := by
  cases move with
  | @inPool d guards guards' w w' dialers i pool' made move others =>
    have known : dialers.length = w.channels.length := owned.known
    have grows : w.channels.length ≤ w'.channels.length := move.length_le
    have mine := owned.balanced i
    refine ⟨by simp; omega, fun j => ?_⟩
    by_cases same : i = j
    · subst same
      have balanced := move.balanced mine
      have last : dialers.length + (w'.channels.length - w.channels.length) = w'.channels.length := by omega
      rw [pool_setPool_self made, dialedBy_append, last, known]
      exact balanced
    · rw [pool_setPool_of_ne same, dialedBy_append_of_ne dialers _ (by simpa using same)]
      simp only [others j same]
      -- What the other pools dialed is foreign to this one, so that its ends stay as they are.
      have theirs := owned.balanced j
      have frame : ∀ c, dialedBy dialers j c = true →
          (w'.channel c).held = (w.channel c).held ∧ (w'.channel c).shut = (w.channel c).shut :=
        fun c dialed => move.frame mine (dialedBy_unique dialed (Ne.symm same)) (known ▸ lt_of_dialedBy dialed)
      refine theirs.congr (fun c => ?_) (fun c dialed => (frame c dialed).2)
      cases dialed : dialedBy dialers j c with
      | false => rfl
      | true => rw [(frame c dialed).1]
  | @elsewhere d guards w w' dialers made ends =>
    refine ⟨owned.known.trans made.symm, fun i => ?_⟩
    exact (owned.balanced i).congr (fun c => by rw [(ends c).1]) (fun c _ => (ends c).2)
  | @outside d guards w dialers =>
    have known : dialers.length = w.channels.length := owned.known
    refine ⟨by simp [known], fun i => ?_⟩
    have same : dialedBy (dialers ++ [none]) i = dialedBy dialers i :=
      dialedBy_append_of_ne dialers 1 (by simp)
    have frame : ∀ c, dialedBy dialers i c = true →
        (w.grow.change w.channels.length .drop).channel c = w.channel c := by
      intro c dialed
      have inside : c < w.channels.length := known ▸ lt_of_dialedBy dialed
      rw [World.channel_change, if_neg fun both => Nat.ne_of_gt inside both.1, World.channel_grow_of_lt inside]
    rw [same]
    refine (owned.balanced i).congr (fun c => ?_) (fun c dialed => by rw [frame c dialed])
    cases dialed : dialedBy dialers i c with
    | false => rfl
    | true => rw [frame c dialed]
  | @regard d guards guards' w dialers same =>
    refine ⟨owned.known, fun i => ?_⟩
    have move : Pool.Move True True ⟨d.pool i, guardsOf guards i, w⟩ ⟨d.pool i, guardsOf guards' i, w⟩ :=
      .regard (same i)
    have balanced := move.balanced (owned.balanced i)
    rwa [Pool.taking_self] at balanced
  | @make d guards w dialers url =>
    refine ⟨owned.known, fun i => ?_⟩
    have before := owned.balanced i
    rcases Nat.lt_trichotomy i d.pools.length with old | rfl | beyond
    · rw [pool_append_of_lt old]
      exact before
    · have none := pool_of_le (d := d) (Nat.le_refl _)
      have noGuards : guardsOf guards d.pools.length = [] := by
        have loans := before.records.loans
        rw [none.2] at loans
        exact List.map_eq_nil_iff.mp loans.nil_eq.symm
      rw [pool_append_new]
      refine .of_empty rfl rfl noGuards fun c => ?_
      have count := before.count c
      rw [none.1, noGuards] at count
      simpa using count
    · have unmade : ({ d with pools := d.pools ++ [d.poolFor url] } : Dispatcher).pool i = d.pool i := by
        have short : (d.pools ++ [d.poolFor url]).length ≤ i := by rw [List.length_append]; exact beyond
        simp only [Dispatcher.pool, List.getD_eq_getElem?_getD, List.getElem?_eq_none short,
          List.getElem?_eq_none (Nat.le_of_lt beyond)]
      rw [unmade]
      exact before
  | @keep d guards w dialers cache => exact ⟨owned.known, owned.balanced⟩

/-! ## One pool among the others -/

theorem Move.length_le {retiring closing : Nat → Prop} {before after : Books}
    (move : Move retiring closing before after) : before.dispatcher.pools.length ≤ after.dispatcher.pools.length := by
  cases move <;> simp [setPool]

theorem Move.poolFor_eq {retiring closing : Nat → Prop} {before after : Books}
    (move : Move retiring closing before after) : after.dispatcher.poolFor = before.dispatcher.poolFor := by
  cases move <;> rfl

/-- What happens to a pool that is made is something that can happen to a pool. -/
theorem Move.pool {retiring closing : Nat → Prop} {before after : Books} (move : Move retiring closing before after)
    {j : Nat} (made : j < before.dispatcher.pools.length) :
    ∃ guards guards' w w', Pool.Move (retiring j) (closing j) ⟨before.dispatcher.pool j, guards, w⟩
      ⟨after.dispatcher.pool j, guards', w'⟩ := by
  have nothing : ∀ (pool : Pool) (w : World), Pool.Move (retiring j) (closing j) ⟨pool, [], w⟩ ⟨pool, [], w⟩ :=
    fun pool w => .regard (List.Perm.refl _)
  cases move with
  | @inPool d guards guards' w w' dialers i pool' inside move others =>
    by_cases same : i = j
    · subst same
      rw [pool_setPool_self inside]
      exact ⟨_, _, _, _, move⟩
    · rw [pool_setPool_of_ne same]
      exact ⟨_, _, _, _, nothing _ w⟩
  | @elsewhere d guards w w' dialers count ends => exact ⟨_, _, _, _, nothing _ w⟩
  | @outside d guards w dialers => exact ⟨_, _, _, _, nothing _ w⟩
  | @regard d guards guards' w dialers same => exact ⟨_, _, _, _, nothing _ w⟩
  | @make d guards w dialers url =>
    rw [pool_append_of_lt made]
    exact ⟨_, _, _, _, nothing _ w⟩
  | @keep d guards w dialers cache => exact ⟨_, _, _, _, nothing _ w⟩

/-- A pool that is new is as it was made. -/
theorem Move.new {retiring closing : Nat → Prop} {before after : Books} (move : Move retiring closing before after)
    {j : Nat} (unmade : before.dispatcher.pools.length ≤ j) (made : j < after.dispatcher.pools.length) :
    ∃ url, after.dispatcher.pool j = before.dispatcher.poolFor url := by
  cases move with
  | make url =>
    rw [List.length_append, List.length_singleton] at made
    obtain rfl : j = _ := Nat.le_antisymm (Nat.le_of_lt_succ made) unmade
    exact ⟨url, pool_append_new ..⟩
  | inPool inside move others =>
    simp only [setPool, List.length_set] at made
    exact absurd made (Nat.not_lt.mpr unmade)
  | _ => exact absurd made (Nat.not_lt.mpr unmade)

section
variable {retiring closing : Nat → Prop} {before after : Books}

theorem owned_of_moves (moves : ReflTransGen (Move retiring closing) before after) (owned : before.Owned) :
    after.Owned := by
  induction moves with
  | refl => exact owned
  | tail _ move ih => exact move.owned ih

theorem length_le_of_moves (moves : ReflTransGen (Move retiring closing) before after) :
    before.dispatcher.pools.length ≤ after.dispatcher.pools.length := by
  induction moves with
  | refl => exact Nat.le_refl _
  | tail _ move ih => exact Nat.le_trans ih move.length_le

theorem poolFor_of_moves (moves : ReflTransGen (Move retiring closing) before after) :
    after.dispatcher.poolFor = before.dispatcher.poolFor := by
  induction moves with
  | refl => rfl
  | tail _ move ih => exact move.poolFor_eq.trans ih

variable {j : Nat} {P : Pool → Prop}
  (kept : ∀ {b b' : Pool.Books}, Pool.Move (retiring j) (closing j) b b' → P b.pool → P b'.pool)
include kept

/-- What holds of a pool and survives all that can happen to it holds of it for good. -/
theorem pool_of_moves (moves : ReflTransGen (Move retiring closing) before after)
    (made : j < before.dispatcher.pools.length) (holds : P (before.dispatcher.pool j)) :
    P (after.dispatcher.pool j) := by
  induction moves with
  | refl => exact holds
  | tail earlier move ih =>
    obtain ⟨guards, guards', w, w', inside⟩ := move.pool (Nat.lt_of_lt_of_le made (length_le_of_moves earlier))
    exact kept inside ih

/-- What holds of every new pool and survives all that can happen to it holds of every pool that was made since. -/
theorem new_of_moves (fresh : ∀ url, P (before.dispatcher.poolFor url))
    (moves : ReflTransGen (Move retiring closing) before after) (unmade : before.dispatcher.pools.length ≤ j)
    (made : j < after.dispatcher.pools.length) : P (after.dispatcher.pool j) := by
  induction moves using ReflTransGen.head_induction_on with
  | refl => exact absurd made (Nat.not_lt.mpr unmade)
  | @head b c move rest ih =>
    by_cases now : j < c.dispatcher.pools.length
    · obtain ⟨url, new⟩ := move.new unmade now
      exact pool_of_moves kept rest now (new ▸ fresh url)
    · exact ih (move.poolFor_eq ▸ fresh) (Nat.le_of_not_lt now)

end

end Dispatcher

end EngineClient
