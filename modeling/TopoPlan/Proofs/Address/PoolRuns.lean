import Mathlib.Data.Set.Card
import TopoPlan.Proofs.Address.Allocation

/-!
# Runs of a pool

A run makes calls on a fresh pool, in any order and number.  `Fulfilled` says what
the answer to a call has to be after a history of calls and answers: it speaks of
addresses and subnets only, not of block numbers.  `call_fulfilled` is the main
statement: every call of every run is fulfilled, and a failing call leaves the pool
as it was.
-/

namespace TopoPlan.Pool

/-- A call on a pool. -/
inductive Call where
  | reserveAddress (address : Address)
  | reserve (subnet : Subnet)
  | take (count : Nat)
  deriving DecidableEq

/-- The outcome of a call that gives no blocks. -/
def reservation (pool : Pool) (outcome : Except CompileError Pool) :
    Except CompileError (List Subnet) × Pool :=
  match outcome with
  | .ok after => (.ok [], after)
  | .error error => (.error error, pool)

/-- The answer to a call and the pool that it leaves. -/
def call (pool : Pool) : Call -> Except CompileError (List Subnet) × Pool
  | .reserveAddress address => pool.reservation (pool.reserveAddress address)
  | .reserve subnet => pool.reservation (pool.reserve subnet)
  | .take count => pool.take count

/-- Calls with their answers, in order. -/
abbrev History := List (Call × Except CompileError (List Subnet))

/-- Make one more call and note its answer. -/
def record (state : History × Pool) (next : Call) : History × Pool :=
  let (answer, after) := state.2.call next
  (state.1 ++ [(next, answer)], after)

/-- Make calls one after the other. -/
def run (pool : Pool) (calls : List Call) : History × Pool :=
  calls.foldl record ([], pool)

/-- A call reserves an address, alone or with the subnet that it lies in. -/
def Call.Reserves (address : Address) : Call → Prop
  | .reserveAddress reserved => address = reserved
  | .reserve subnet => subnet.contains address = true
  | .take _ => False

namespace History

/-- An address has been reserved. -/
def Reserved (history : History) (address : Address) : Prop :=
  ∃ entry ∈ history, entry.1.Reserves address

/-- A block has been handed out. -/
def HandedOut (history : History) (block : Subnet) : Prop :=
  ∃ entry ∈ history, ∃ blocks, entry.2 = .ok blocks ∧ block ∈ blocks

/-- After one more call, addresses are reserved by it or were reserved before. -/
theorem reserved_append {history : History} {entry : Call × Except CompileError (List Subnet)}
    {address : Address} :
    Reserved (history ++ [entry]) address ↔
      history.Reserved address ∨ entry.1.Reserves address := by
  simp [Reserved, or_and_right, exists_or]

/-- After one more call, blocks are handed out by it or were handed out before. -/
theorem handedOut_append {history : History} {entry : Call × Except CompileError (List Subnet)}
    {block : Subnet} :
    HandedOut (history ++ [entry]) block ↔
      history.HandedOut block ∨ ∃ blocks, entry.2 = .ok blocks ∧ block ∈ blocks := by
  simp [HandedOut, or_and_right, exists_or]

end History

/-- A block of the given length in the range that shares no address with what has
been reserved and that has not been handed out. -/
structure Available (range : Subnet) (length : Nat) (history : History) (block : Subnet) :
    Prop where
  length : block.length = length
  inside : range.covers block = true
  unreserved : ∀ address, block.contains address = true → ¬ history.Reserved address
  kept : ¬ history.HandedOut block

/-- So many of the candidates in increasing order, and no candidate left out that is
lower than one of them. -/
structure Lowest (candidates : Set Subnet) (count : Nat) (blocks : List Subnet) : Prop where
  length : blocks.length = count
  candidate : ∀ block ∈ blocks, block ∈ candidates
  increasing : blocks.Pairwise fun left right => left.network.value < right.network.value
  lowest : ∀ block ∈ blocks, ∀ other ∈ candidates,
    other.network.value < block.network.value → other ∈ blocks

/-- The lowest of all candidates, when none are wanted. -/
theorem lowest_nil {candidates : Set Subnet} : Lowest candidates 0 [] :=
  ⟨rfl, List.forall_mem_nil _, .nil, List.forall_mem_nil _⟩

/-- What the answer to a call has to be: a reservation succeeds, and a request for
blocks gives the lowest available ones, or fails where there are too few. -/
def Fulfilled (name : String) (range : Subnet) (length : Nat) (history : History) :
    Call → Except CompileError (List Subnet) → Prop
  | .reserveAddress _, answer => answer = .ok []
  | .reserve _, answer => answer = .ok []
  | .take count, answer =>
    let available := {block | Available range length history block}
    ((∃ required, answer = .error (.poolExhausted name required)) ↔ available.encard < count) ∧
      (¬ available.encard < count → ∃ blocks, answer = .ok blocks ∧ Lowest available count blocks)

variable {start current : Pool} {history : History}

/-- The bound blocks of a pool are those that its history touched: blocks with a
reserved address and blocks handed out. -/
def Tracks (start : Pool) (history : History) (current : Pool) : Prop :=
  Binds start current fun index =>
    (∃ address, history.Reserved address ∧ (start.block index).contains address = true) ∨
      history.HandedOut (start.block index)

/-- Nothing has been reserved or handed out by a fresh pool. -/
theorem tracks_nil (fresh : start.bound = []) : Tracks start [] start := by
  have sound : start.Sound := by
    constructor
    · rw [fresh]
      exact Spans.Ordered.nil
    · simp [fresh]
  apply sound.binds_self
  intro index _
  simp [History.Reserved, History.HandedOut]

/-- A call that binds what it reserves or gives keeps track of the history. -/
theorem Tracks.snoc {after : Pool} {touched : Nat → Prop}
    {entry : Call × Except CompileError (List Subnet)} (tracks : Tracks start history current)
    (binds : Binds current after touched)
    (new : ∀ index < start.size, touched index ↔
      (∃ address, entry.1.Reserves address ∧ (start.block index).contains address = true) ∨
        ∃ blocks, entry.2 = .ok blocks ∧ start.block index ∈ blocks) :
    Tracks start (history ++ [entry]) after := by
  apply (Binds.trans tracks binds).congr
  intro index below
  simp only [new index below, History.reserved_append, History.handedOut_append,
    or_and_right, exists_or]
  rw [or_comm, or_or_or_comm]

/-- The available blocks are the ones with a free number. -/
theorem Tracks.available_iff (tracks : Tracks start history current) (fresh : start.bound = [])
    {block : Subnet} :
    Available start.range start.blockLength history block ↔
      ∃ index ∈ current.freeIndices, block = start.block index := by
  have notBound : ∀ index, start.isBound index = false := fun index => by
    rw [isBound, fresh, Spans.contains_nil]
  have free : ∀ index, index ∈ current.freeIndices ↔ index < start.size ∧
      ¬ ((∃ address, history.Reserved address ∧ (start.block index).contains address = true) ∨
        history.HandedOut (start.block index)) := fun index => by
    rw [mem_freeIndices, tracks.size, ← Bool.not_eq_true]
    apply and_congr_right
    intro below
    rw [tracks.bound index below, notBound index]
    simp
  constructor
  · rintro ⟨length, inside, unreserved, kept⟩
    obtain ⟨below, same⟩ := exists_block length inside
    refine ⟨_, (free _).mpr ⟨below, ?_⟩, same⟩
    rw [← same]
    rintro (⟨address, reserved, holds⟩ | handedOut)
    · exact unreserved address holds reserved
    · exact kept handedOut
  · rintro ⟨index, found, rfl⟩
    obtain ⟨below, untouched⟩ := (free index).mp found
    rw [not_or] at untouched
    exact ⟨rfl, covers_block below,
      fun address holds reserved => untouched.1 ⟨address, reserved, holds⟩, untouched.2⟩

/-- Free numbers are numbers of blocks. -/
theorem Tracks.lt_size (tracks : Tracks start history current) {index : Nat}
    (found : index ∈ current.freeIndices) : index < start.size := by
  rw [← tracks.size]
  exact (mem_freeIndices.mp found).1

/-- There are as many available blocks as free numbers. -/
theorem Tracks.encard_available (tracks : Tracks start history current)
    (fresh : start.bound = []) :
    {block | Available start.range start.blockLength history block}.encard =
      current.freeIndices.length := by
  have blocks : {block | Available start.range start.blockLength history block} =
      ((current.freeIndices.map start.block).toFinset : Set Subnet) := by
    ext block
    simp only [Set.mem_ofPred_eq, tracks.available_iff fresh, List.coe_toFinset, List.mem_map]
    exact exists_congr fun index => and_congr_right fun _ => eq_comm
  have different : (current.freeIndices.map start.block).Nodup := by
    refine List.Nodup.map_on ?_ (current.freeIndices_sorted.imp Nat.ne_of_lt)
    intro left leftFound right rightFound same
    exact block_inj (tracks.lt_size leftFound) (tracks.lt_size rightFound) same
  rw [blocks, Set.encard_coe_eq_coe_finsetCard, List.toFinset_card_of_nodup different,
    List.length_map]

/-- The start of a sorted list leaves nothing out below its elements. -/
theorem mem_take_of_lt {indices : List Nat} (sorted : indices.Pairwise (· < ·)) {count : Nat}
    {lower upper : Nat} (upperFound : upper ∈ indices.take count) (lowerFound : lower ∈ indices)
    (order : lower < upper) : lower ∈ indices.take count := by
  rw [← List.take_append_drop count indices, List.mem_append] at lowerFound
  rw [← List.take_append_drop count indices, List.pairwise_append] at sorted
  rcases lowerFound with found | behind
  · exact found
  · have := sorted.2.2 upper upperFound lower behind
    omega

/-- Where blocks start in the order of their numbers. -/
theorem value_lt_value_iff {left right : Nat} (leftBelow : left < start.size)
    (rightBelow : right < start.size) :
    (start.block left).network.value < (start.block right).network.value ↔ left < right := by
  rw [value_block leftBelow, value_block rightBelow, Nat.add_lt_add_iff_left]
  exact Nat.mul_lt_mul_right start.blockSize_pos

/-- The blocks with the first free numbers are the lowest ones with a free number. -/
theorem lowest_take {candidates : Set Subnet} (free : ∀ block, block ∈ candidates ↔
      ∃ index ∈ current.freeIndices, block = current.block index)
    {count : Nat} (enough : count ≤ current.freeIndices.length) :
    Lowest candidates count ((current.freeIndices.take count).map current.block) where
  length := by rw [List.length_map, List.length_take, Nat.min_eq_left enough]
  candidate := by
    rintro block found
    obtain ⟨index, taken, rfl⟩ := List.mem_map.mp found
    exact (free _).mpr ⟨index, List.mem_of_mem_take taken, rfl⟩
  increasing := by
    have sorted := current.freeIndices_sorted.sublist (List.take_sublist count _)
    rw [List.pairwise_map]
    apply sorted.imp_of_mem
    intro left right leftTaken rightTaken order
    have leftFree := mem_freeIndices.mp (List.mem_of_mem_take leftTaken)
    have rightFree := mem_freeIndices.mp (List.mem_of_mem_take rightTaken)
    exact (value_lt_value_iff leftFree.1 rightFree.1).mpr order
  lowest := by
    rintro block found other candidate lower
    obtain ⟨upper, taken, rfl⟩ := List.mem_map.mp found
    obtain ⟨index, listed, rfl⟩ := (free other).mp candidate
    have upperFree := mem_freeIndices.mp (List.mem_of_mem_take taken)
    rw [value_lt_value_iff (mem_freeIndices.mp listed).1 upperFree.1] at lower
    exact List.mem_map_of_mem (mem_take_of_lt current.freeIndices_sorted taken listed lower)

/-- The blocks with the first free numbers are the lowest available ones. -/
theorem Tracks.lowest (tracks : Tracks start history current) (fresh : start.bound = [])
    {count : Nat} (enough : count ≤ current.freeIndices.length) :
    Lowest {block | Available start.range start.blockLength history block} count
      ((current.freeIndices.take count).map start.block) := by
  rw [← tracks.block]
  refine lowest_take (fun block => ?_) enough
  rw [tracks.block]
  exact tracks.available_iff fresh

/-- A call is fulfilled, its history is kept track of, and a failure changes nothing. -/
structure Answered (start : Pool) (history : History) (current : Pool) (next : Call) : Prop where
  fulfilled : Fulfilled start.name start.range start.blockLength history next
    (current.call next).1
  tracks : Tracks start (history ++ [(next, (current.call next).1)]) (current.call next).2
  unchanged : ∀ error, (current.call next).1 = .error error → (current.call next).2 = current

/-- Calls do not change how many blocks there are. -/
theorem Tracks.few (tracks : Tracks start history current) (few : start.indexBits < 128) :
    current.indexBits < 128 := by
  rwa [indexBits, tracks.range, tracks.blockLength]

/-- Reserving an address. -/
theorem Tracks.answered_reserveAddress (tracks : Tracks start history current)
    (address : Address) : Answered start history current (.reserveAddress address) := by
  obtain ⟨after, done, binds⟩ := tracks.sound.reserveAddress address
  have result : current.call (.reserveAddress address) = (.ok [], after) := by
    simp [Pool.call, done, reservation]
  constructor <;> rw [result]
  · rfl
  · apply tracks.snoc binds
    intro index _
    simp [tracks.block, Call.Reserves]
  · exact fun error failed => nomatch failed

/-- Reserving a subnet. -/
theorem Tracks.answered_reserve (tracks : Tracks start history current)
    (few : start.indexBits < 128) (subnet : Subnet) :
    Answered start history current (.reserve subnet) := by
  obtain ⟨after, touched, done, binds, meets⟩ := tracks.sound.reserve subnet
  have result : current.call (.reserve subnet) = (.ok [], after) := by
    simp [Pool.call, done, reservation]
  constructor <;> rw [result]
  · rfl
  · apply tracks.snoc binds
    intro index below
    rw [← tracks.size] at below
    rw [meets (tracks.few few) index below, tracks.block]
    simp [Call.Reserves, Subnet.Meets, and_comm]
  · exact fun error failed => nomatch failed

/-- A request for more blocks than are free. -/
theorem Tracks.answered_short (tracks : Tracks start history current)
    (fresh : start.bound = []) {count : Nat} (short : current.freeIndices.length < count) :
    Answered start history current (.take count) := by
  obtain ⟨required, done⟩ := tracks.sound.take_of_short short
  have result : current.call (.take count) =
      (.error (.poolExhausted start.name required), current) := by
    rw [← tracks.name]
    exact done
  have fewer : {block | Available start.range start.blockLength history block}.encard <
      (count : ℕ∞) := by
    rw [tracks.encard_available fresh]
    exact Nat.cast_lt.mpr short
  constructor <;> rw [result]
  · constructor
    · exact ⟨fun _ => fewer, fun _ => ⟨required, rfl⟩⟩
    · exact fun enough => absurd fewer enough
  · refine tracks.snoc (tracks.sound.binds_self fun _ _ none => none) ?_
    intro index _
    simp [Call.Reserves]
  · exact fun _ _ => rfl

/-- A request for no more blocks than are free. -/
theorem Tracks.answered_enough (tracks : Tracks start history current)
    (fresh : start.bound = []) {count : Nat} (enough : count ≤ current.freeIndices.length) :
    Answered start history current (.take count) := by
  obtain ⟨after, done, binds⟩ := tracks.sound.take_of_enough enough
  have result : current.call (.take count) =
      (.ok ((current.freeIndices.take count).map start.block), after) := by
    rw [← tracks.block]
    exact done
  have notFewer : ¬ {block | Available start.range start.blockLength history block}.encard <
      (count : ℕ∞) := by
    rw [tracks.encard_available fresh]
    exact not_lt.mpr (Nat.cast_le.mpr enough)
  constructor <;> rw [result]
  · constructor
    · exact ⟨fun ⟨_, failed⟩ => (nomatch failed), fun fewer => absurd fewer notFewer⟩
    · exact fun _ => ⟨_, rfl, tracks.lowest fresh enough⟩
  · apply tracks.snoc binds
    intro index below
    have taken : index ∈ current.freeIndices.take count ↔
        start.block index ∈ (current.freeIndices.take count).map start.block := by
      refine ⟨List.mem_map_of_mem, ?_⟩
      intro found
      obtain ⟨other, otherTaken, same⟩ := List.mem_map.mp found
      have otherBelow := tracks.lt_size (List.mem_of_mem_take otherTaken)
      rwa [← block_inj otherBelow below same]
    simp [taken, Call.Reserves]
  · exact fun error failed => nomatch failed

/-- Every call is answered as its history asks. -/
theorem Tracks.answered (tracks : Tracks start history current) (fresh : start.bound = [])
    (few : start.indexBits < 128) (next : Call) : Answered start history current next := by
  cases next with
  | reserveAddress address => exact tracks.answered_reserveAddress address
  | reserve subnet => exact tracks.answered_reserve few subnet
  | take count =>
    rcases Nat.lt_or_ge current.freeIndices.length count with short | enough
    · exact tracks.answered_short fresh short
    · exact tracks.answered_enough fresh enough

/-- Every run keeps track of its history. -/
theorem tracks_run (fresh : start.bound = []) (few : start.indexBits < 128)
    (calls : List Call) : Tracks start (start.run calls).1 (start.run calls).2 := by
  induction calls using List.reverseRecOn with
  | nil => exact tracks_nil fresh
  | append_singleton calls next inductionHypothesis =>
    simp only [run, List.foldl_append, List.foldl_cons, List.foldl_nil]
    exact (inductionHypothesis.answered fresh few next).tracks

/-- Every call of every run on a fresh pool of fewer than `2 ^ 128` blocks is
fulfilled, and where it fails the pool stays as it was. -/
theorem call_fulfilled {name : String} {range : Subnet} {length : Nat} {pool : Pool}
    (made : ofRange name range length = .ok pool) (few : length - range.length < 128)
    (calls : List Call) (next : Call) :
    let state := pool.run calls
    let reply := state.2.call next
    Fulfilled name range length state.1 next reply.1 ∧
      ∀ error, reply.1 = .error error → reply.2 = state.2 := by
  unfold ofRange at made
  split at made
  case isFalse => cases made
  case isTrue lower =>
    split at made
    case isFalse => cases made
    case isTrue upper =>
      cases made
      let fresh : Pool :=
        { name, range, blockLength := length, range_le := lower, block_le := upper }
      have smaller : fresh.indexBits < 128 := few
      have tracks : Tracks fresh (fresh.run calls).1 (fresh.run calls).2 :=
        tracks_run rfl smaller calls
      have answered := tracks.answered rfl smaller next
      exact ⟨answered.fulfilled, answered.unchanged⟩

/-- Of four blocks one is reserved by a subnet within it; a request for all four fails
and leaves the other three for the next one. -/
theorem call_fulfilled_after_failure :
    let range := Subnet.around (Address.ofNat .v4 0x0A000000) 24 (by decide)
    let reserved := Subnet.around (Address.ofNat .v4 0x0A000040) 27 (by decide)
    ∃ pool, ofRange "hosts" range 26 = .ok pool ∧ 26 - range.length < 128 ∧
      let state := pool.run [.reserve reserved, .take 4]
      let reply := state.2.call (.take 3)
      Fulfilled "hosts" range 26 state.1 (.take 3) reply.1 ∧
        ∀ error, reply.1 = .error error → reply.2 = state.2 := by
  intro range reserved
  have few : 26 - range.length < 128 := by decide
  have made : ofRange "hosts" range 26 = .ok
      { name := "hosts", range, blockLength := 26, range_le := by decide, block_le := by decide } :=
    rfl
  exact ⟨_, made, few, call_fulfilled made few [.reserve reserved, .take 4] (.take 3)⟩

end TopoPlan.Pool
