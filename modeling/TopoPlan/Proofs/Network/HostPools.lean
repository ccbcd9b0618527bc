import TopoPlan.Proofs.Network.SettledSegments

/-!
# Pools of single addresses

Loopback addresses and addresses of management interfaces come from pools of the single
addresses of a range.  `HostPool` says what such a pool never hands out.  Addresses that some
objects have already are bound first (`Occupied`), and then each object that waits gets a block
of its own (`Dealt`).
-/

namespace TopoPlan.Addressing

/-- A pool of the single addresses of a range in which the network address and, for family
v4, the broadcast address are bound. -/
structure HostPool (range : Subnet) (pool : Pool) : Prop where
  sound : pool.Sound
  range_eq : pool.range = range
  blockLength : pool.blockLength = range.width
  network_bound : ∀ index ∈ pool.freeIndices, (pool.block index).network ≠ range.network
  broadcast_bound : range.family = .v4 →
    ∀ index ∈ pool.freeIndices, (pool.block index).network ≠ range.broadcast

variable {range : Subnet} {pool next : Pool} {touched : Nat → Prop}

/-- A block of the length of an address is one address. -/
theorem HostPool.blockSize (hosts : HostPool range pool) : pool.blockSize = 1 := by
  rw [Pool.blockSize, hosts.range_eq, hosts.blockLength, Nat.sub_self]

/-- Binding more leaves less to hand out. -/
theorem HostPool.binds (hosts : HostPool range pool) (binds : Pool.Binds pool next touched) :
    HostPool range next where
  sound := binds.sound
  range_eq := binds.range.trans hosts.range_eq
  blockLength := binds.blockLength.trans hosts.blockLength
  network_bound index free := by
    rw [binds.block]
    exact hosts.network_bound index (binds.mem_freeIndices.mp free).1
  broadcast_bound v4 index free := by
    rw [binds.block]
    exact hosts.broadcast_bound v4 index (binds.mem_freeIndices.mp free).1

/-- The broadcast address is the last block of a pool of single addresses. -/
theorem eq_lastIndex_of_broadcast (range_eq : pool.range = range) (single : pool.blockSize = 1)
    {index : Nat} (below : index < pool.size)
    (broadcast : (pool.block index).network = range.broadcast) : index = pool.lastIndex := by
  have value := congrArg Address.value broadcast
  have positive := pool.size_pos
  rw [Pool.value_block below, range.value_broadcast, ← range_eq, pool.range_size, single] at value
  rw [Pool.lastIndex]
  omega

/-- The pool of a range binds the network address and the broadcast address. -/
theorem HostPool.of_hostPool {name : String} (made : hostPool name range = .ok pool) :
    HostPool range pool := by
  obtain ⟨fresh, new, made⟩ := Outcome.bind_eq_ok.mp made
  obtain ⟨started, reserved, made⟩ := Outcome.bind_eq_ok.mp made
  obtain ⟨range_eq, blockLength⟩ := Pool.parts_of_ofRange new
  obtain ⟨_, run, binds⟩ := (Pool.sound_of_ofRange new).reserveAddress range.network
  cases run.symm.trans reserved
  have startedRange : started.range = range := binds.range.trans range_eq
  have startedLength : started.blockLength = range.width := binds.blockLength.trans blockLength
  have single : started.blockSize = 1 := by
    rw [Pool.blockSize, startedRange, startedLength, Nat.sub_self]
  have network (index : Nat) (free : index ∈ started.freeIndices) :
      (started.block index).network ≠ range.network := by
    intro same
    refine (binds.mem_freeIndices.mp free).2 ?_
    rw [← same, binds.block]
    exact Subnet.contains_network _
  split at made
  case isTrue condition =>
    obtain ⟨last, lastRun, made⟩ := Outcome.bind_eq_ok.mp made
    have inside : started.lastIndex < started.size := by
      have succ := started.lastIndex_succ
      omega
    cases (Pool.get_eq_ok inside).symm.trans lastRun
    obtain ⟨_, more, run, ends, meets⟩ := binds.sound.reserve (started.block started.lastIndex)
    cases run.symm.trans made
    refine ⟨ends.sound, ends.range.trans startedRange, ends.blockLength.trans startedLength,
      fun index free => ?_, fun v4 index free broadcast => ?_⟩
    · rw [ends.block]
      exact network index (ends.mem_freeIndices.mp free).1
    · obtain ⟨before, untouched⟩ := ends.mem_freeIndices.mp free
      have below := (Pool.mem_freeIndices.mp before).1
      rw [ends.block] at broadcast
      have last := eq_lastIndex_of_broadcast startedRange single below broadcast
      have few : started.indexBits < 128 := by
        rw [Pool.indexBits, startedLength, startedRange, Subnet.width, v4]
        exact Nat.lt_of_le_of_lt (Nat.sub_le _ _) (by decide)
      refine untouched ((meets few index below).mpr ?_)
      rw [← last]
      exact ⟨_, Subnet.contains_network _, Subnet.contains_network _⟩
  case isFalse condition =>
    cases made
    refine ⟨binds.sound, startedRange, startedLength, network, fun v4 index free broadcast => ?_⟩
    -- A range of one address has it as network address too.
    have one : pool.size = 1 := by
      have positive := pool.size_pos
      have limit : 1 < Pool.countLimit := by decide
      have short : ¬ 1 < pool.length := fun long => condition (by simp [v4, long])
      rw [Pool.length] at short
      omega
    refine network index free (broadcast.trans (Address.eq_of_value rfl ?_))
    rw [range.value_broadcast, ← startedRange, pool.range_size, one, single]
    rfl

/-- What an address for a host of a range is: one of the range that is neither its network
address nor, for family v4, its broadcast address. -/
structure HostOf (range : Subnet) (address : Address) : Prop where
  inside : range.contains address = true
  notNetwork : address ≠ range.network
  notBroadcast : range.family = .v4 → address ≠ range.broadcast

/-- The block with a free number of a host pool starts with a host of the range. -/
theorem HostPool.hostOf (hosts : HostPool range pool) {index : Nat}
    (free : index ∈ pool.freeIndices) : HostOf range (pool.block index).network where
  inside := by
    rw [← hosts.range_eq]
    exact Subnet.contains_of_covers (Pool.covers_block (Pool.mem_freeIndices.mp free).1)
      (Subnet.contains_network _)
  notNetwork := hosts.network_bound index free
  notBroadcast v4 := hosts.broadcast_bound v4 index free

/-! ## Addresses that objects have -/

/-- A block has an address that one of some objects has. -/
def Occupied (address? : Nat → Option Address) (pool : Pool) (ids : List Nat) (index : Nat) : Prop :=
  ∃ id ∈ ids, ∃ address, address? id = some address ∧ (pool.block index).contains address = true

section Occupied

variable {address? : Nat → Option Address} {start : Pool} {ids : List Nat} {id index : Nat}

/-- A block is occupied by the last interface or by one before it. -/
theorem occupied_concat : Occupied address? pool (ids ++ [id]) index ↔
    (∃ address, address? id = some address ∧ (pool.block index).contains address = true) ∨
      Occupied address? pool ids index := by
  simp only [Occupied, List.mem_append, List.mem_singleton, or_and_right, exists_or, exists_eq_left]
  exact or_comm

/-- A new pool has nothing occupied. -/
theorem binds_occupied_nil (sound : pool.Sound) : Pool.Binds pool pool (Occupied address? pool []) :=
  sound.binds_self fun _ _ ⟨_, listed, _⟩ => List.not_mem_nil listed

/-- One more object has an address, which is reserved. -/
theorem binds_occupied_some (binds : Pool.Binds start pool (Occupied address? start ids))
    {address : Address} (has : address? id = some address)
    (run : pool.reserveAddress address = .ok next) :
    Pool.Binds start next (Occupied address? start (ids ++ [id])) := by
  obtain ⟨_, done, touches⟩ := binds.sound.reserveAddress address
  cases done.symm.trans run
  refine (binds.trans touches).congr fun index _ => ?_
  rw [occupied_concat, binds.block, has]
  simp only [Option.some_inj, exists_eq_left']

/-- One more object has no address. -/
theorem binds_occupied_none (binds : Pool.Binds start pool (Occupied address? start ids))
    (free : address? id = none) : Pool.Binds start pool (Occupied address? start (ids ++ [id])) := by
  refine binds.congr fun index _ => ?_
  rw [occupied_concat, free]
  simp only [reduceCtorEq, false_and, exists_false, false_or]

/-- A free block does not start with an address that one of the objects has. -/
theorem ne_of_occupied (binds : Pool.Binds start pool (Occupied address? start ids))
    (free : index ∈ pool.freeIndices) (listed : id ∈ ids) {address : Address}
    (has : address? id = some address) : (pool.block index).network ≠ address := by
  intro same
  refine (binds.mem_freeIndices.mp free).2 ⟨id, listed, address, has, ?_⟩
  rw [← same, binds.block]
  exact Subnet.contains_network _

end Occupied

/-! ## Blocks for objects that wait -/

/-- The blocks that objects in a list get by their place in it: blocks with free numbers, a
different one for each. -/
structure Dealt (pool : Pool) (waiting : List Nat) (number : Nat → Nat) : Prop where
  free : ∀ id ∈ waiting, number id ∈ pool.freeIndices
  apart : ∀ left ∈ waiting, ∀ right ∈ waiting, number left = number right → left = right
  paired : ∀ id ∈ waiting, (id, pool.block (number id)) ∈
    waiting.zip ((pool.freeIndices.take waiting.length).map pool.block)

/-- Each of the objects that wait gets the block with a free number of its own. -/
theorem dealt_of_enough {waiting : List Nat} (enough : waiting.length ≤ pool.freeIndices.length) :
    Dealt pool waiting fun id => pool.freeIndices.getD (waiting.idxOf id) 0 := by
  have below {id : Nat} (listed : id ∈ waiting) : waiting.idxOf id < pool.freeIndices.length :=
    Nat.lt_of_lt_of_le (List.idxOf_lt_length_iff.mpr listed) enough
  have place {id : Nat} (listed : id ∈ waiting) :
      pool.freeIndices.getD (waiting.idxOf id) 0 =
        pool.freeIndices.get ⟨waiting.idxOf id, below listed⟩ := by
    rw [List.getD_eq_getElem?_getD, List.getElem?_eq_getElem (below listed), Option.getD_some]
    rfl
  constructor
  case free =>
    intro id listed
    rw [place listed]
    exact List.getElem_mem _
  case apart =>
    intro left leftListed right rightListed same
    rw [place leftListed, place rightListed] at same
    have different : pool.freeIndices.Nodup := pool.freeIndices_sorted.imp Nat.ne_of_lt
    exact (List.idxOf_inj leftListed).mp (different.getElem_inj_iff.mp same)
  case paired =>
    intro id listed
    refine List.mem_iff_getElem.mpr ⟨waiting.idxOf id, ?_, ?_⟩
    · rw [List.length_zip, List.length_map, List.length_take, Nat.min_eq_left enough, Nat.min_self]
      exact List.idxOf_lt_length_iff.mpr listed
    · rw [place listed]
      simp only [List.getElem_zip, List.getElem_map, List.getElem_take, List.getElem_idxOf,
        List.get_eq_getElem]

/-- No two of them start with one address. -/
theorem Dealt.network_ne {waiting : List Nat} {number : Nat → Nat}
    (dealt : Dealt pool waiting number) {left right : Nat} (leftListed : left ∈ waiting)
    (rightListed : right ∈ waiting) (different : left ≠ right) :
    (pool.block (number left)).network ≠ (pool.block (number right)).network := by
  intro same
  have below {id : Nat} (listed : id ∈ waiting) : number id < pool.size :=
    (Pool.mem_freeIndices.mp (dealt.free id listed)).1
  refine different (dealt.apart left leftListed right rightListed ?_)
  refine Pool.eq_of_block_meets (below leftListed) (below rightListed)
    ⟨_, Subnet.contains_network _, ?_⟩
  rw [same]
  exact Subnet.contains_network _

end TopoPlan.Addressing
