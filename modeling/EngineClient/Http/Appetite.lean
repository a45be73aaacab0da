import EngineClient.Text.Numeral
/-!
# Appetites

How many bytes a reader asks for at once when it collects blocks of known length. It collects them in a room
that grows as it fills, and asks for what there is space for, within a ceiling that rises while its reads
are answered in full.
-/

namespace EngineClient.Http

/-- The most bytes one read puts into a buffer. -/
def bufferSize : Nat := 8192

/-- Where the bytes of blocks are collected, and what came of the reads that were made for them. -/
structure Room where
  /-- The bytes collected, of all blocks. -/
  filled : Nat
  /-- The bytes there is space for, those collected among them. -/
  capacity : Nat
  /-- The capacity when the block began. -/
  initial : Nat
  /-- No read was made for the block. -/
  untried : Bool
  /-- The most that one read asks for. -/
  ceiling : Nat
  /-- The last reads in a row that did not fill the space they were made for. -/
  shortReads : Nat
  /-- The bytes behind those collected that a read has written to and not filled. -/
  touched : Nat
  /-- The reads that were made, for all blocks. -/
  reads : Nat
  ceiling_pos : 0 < ceiling

namespace Room

/-- A room before any block. -/
def empty : Room := ⟨0, 0, 0, true, bufferSize, 0, 0, 0, by decide⟩

/-- The size of the reads that only try whether more bytes come. -/
def probeSize : Nat := 32

/-- The ceiling that stops no read. -/
def unlimited : Nat := Text.limit64 - 1

/-- The bytes that may be added before the room has to grow. -/
def space (room : Room) : Nat := room.capacity - room.filled

/-- The room with space for `more` bytes. A room that grows has twice its capacity at least. -/
def reserve (room : Room) (more : Nat) : Room :=
  if more ≤ room.space then room
  else { room with capacity := max 8 (max (2 * room.capacity) (room.filled + more)) }

/-- Whether the next read only tries if more bytes come, before the room grows for them: the block begins with
little space, or its bytes may fit exactly. -/
def probes (room : Room) : Bool :=
  room.untried && decide (room.space < probeSize) || decide (room.space = 0) && decide (room.capacity = room.initial)

/-- The room as the next read finds it: one that is full has grown, except for a probe. -/
def ready (room : Room) : Room :=
  if room.probes || decide (0 < room.space) then room else room.reserve probeSize

/-- The bytes the next read asks for. -/
def ask (room : Room) : Nat := if room.probes then probeSize else min room.ready.space room.ceiling

/-- The room at the start of a block. The block before ended with a read that found nothing left to take. -/
def begin (room : Room) : Room :=
  { room.ready with
    initial := room.ready.capacity
    untried := true
    ceiling := bufferSize
    shortReads := 0
    touched := 0
    ceiling_pos := by decide }

/-- The ceiling after a read that got `got` bytes of those `asked` for. Two short reads in a row whose source wrote to
less than the space it was given lift it for good; a read that was answered in full raises it. -/
def raised (room : Room) (asked got touched shortReads : Nat) : Nat :=
  let ceiling := if touched < asked ∧ 1 < shortReads then unlimited else room.ceiling
  if ceiling ≤ asked ∧ got = asked then min (2 * ceiling) unlimited else ceiling

theorem raised_pos (room : Room) (asked got touched shortReads : Nat) :
    0 < room.raised asked got touched shortReads := by
  have positive := room.ceiling_pos
  have some : 0 < unlimited := by decide
  simp only [raised]
  split <;> split <;> omega

/-- The room after a read that was left `granted` bytes to take and got `got` of them. A source writes to all the
space it is given (`whole`), a buffer only to what it fills. -/
def took (room : Room) (granted got : Nat) (whole : Bool) : Room :=
  if room.probes then
    { room.reserve got with
      filled := room.filled + got
      untried := false
      reads := room.reads + 1 }
  else
    let touched := max room.touched (if whole then granted else got)
    let shortReads := if got < room.ask then room.shortReads + 1 else 0
    { room.ready with
      filled := room.filled + got
      untried := false
      ceiling := room.raised room.ask got touched shortReads
      shortReads
      touched := touched - got
      reads := room.reads + 1
      ceiling_pos := room.raised_pos .. }

theorem reserve_space (room : Room) (more : Nat) : more ≤ (room.reserve more).space := by
  rw [reserve]
  split
  · assumption
  · simp only [space]
    omega

/-- A room always asks for something. -/
theorem ask_pos (room : Room) : 0 < room.ask := by
  rw [ask]
  split
  · decide
  · refine Nat.lt_min.mpr ⟨?_, room.ceiling_pos⟩
    rw [ready]
    split
    · simp_all
    · exact Nat.lt_of_lt_of_le (by decide) (room.reserve_space probeSize)

end Room

/-- How many bytes a reader of blocks asks for, by the room it has. A room counts the reads, so that every sequence
of sizes is what some reader asks for. -/
structure Appetite where
  ask : Room → Nat
  ask_pos : ∀ room, 0 < ask room

/-- Asking for what there is space for. -/
def Appetite.standard : Appetite := ⟨Room.ask, Room.ask_pos⟩

end EngineClient.Http
