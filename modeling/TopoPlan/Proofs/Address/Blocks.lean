import TopoPlan.Address.Pool
import TopoPlan.Proofs.Address.Intervals
import TopoPlan.Proofs.Address.Spans

/-!
# Blocks of a pool

The blocks of a pool are the subnets of its block length in its range, numbered by
their distance from the start of the range.  Every call on a pool is described here
by what it does to the bound numbers: a reservation binds the blocks that meet what
is reserved, and handing out binds the lowest ones that are free.
-/

namespace TopoPlan.Pool

variable {pool : Pool}

/-- The block with a number. -/
def block (pool : Pool) (index : Nat) : Subnet :=
  Subnet.around
    (Address.ofNat pool.range.family (pool.range.network.value + index * pool.blockSize))
    pool.blockLength pool.block_le

/-- A new pool divides the range into blocks of the length. -/
theorem parts_of_ofRange {name : String} {range : Subnet} {length : Nat}
    (made : ofRange name range length = .ok pool) :
    pool.range = range ∧ pool.blockLength = length := by
  unfold ofRange at made
  split at made
  case isFalse => cases made
  case isTrue =>
    split at made
    case isFalse => cases made
    case isTrue =>
      cases made
      exact ⟨rfl, rfl⟩

/-- Every pool has a block. -/
theorem size_pos (pool : Pool) : 0 < pool.size :=
  Nat.two_pow_pos _

theorem blockSize_pos (pool : Pool) : 0 < pool.blockSize :=
  Nat.two_pow_pos _

/-- The range is made of its blocks. -/
theorem range_size (pool : Pool) : pool.range.size = pool.size * pool.blockSize := by
  have lower := pool.range_le
  have upper := pool.block_le
  have bits : pool.range.hostBits = pool.indexBits + (pool.range.width - pool.blockLength) := by
    rw [Subnet.hostBits, indexBits]
    omega
  rw [Subnet.size_eq, bits, Nat.pow_add]
  rfl

/-- An index beyond the last one is at least the number of blocks. -/
theorem lastIndex_lt_iff {index : Nat} : pool.lastIndex < index ↔ pool.size ≤ index := by
  have positive := pool.size_pos
  simp only [lastIndex]
  omega

/-- The last index is one less than the number of blocks. -/
theorem lastIndex_succ (pool : Pool) : pool.lastIndex + 1 = pool.size := by
  have positive := pool.size_pos
  simp only [lastIndex]
  omega

/-- Blocks divide the range of a pool. -/
theorem blockSize_dvd_size (pool : Pool) : pool.blockSize ∣ pool.range.size :=
  ⟨pool.size, by rw [pool.range_size, Nat.mul_comm]⟩

/-- The range of a pool starts at the start of a block. -/
theorem blockSize_dvd_value (pool : Pool) : pool.blockSize ∣ pool.range.network.value :=
  Nat.dvd_trans pool.blockSize_dvd_size pool.range.size_dvd_value

/-- A block starts within the range. -/
theorem offset_le {index : Nat} (below : index < pool.size) :
    index * pool.blockSize + pool.blockSize ≤ pool.range.size := by
  rw [pool.range_size, ← Nat.succ_mul]
  exact Nat.mul_le_mul_right _ below

@[simp]
theorem length_block (pool : Pool) (index : Nat) : (pool.block index).length = pool.blockLength :=
  rfl

/-- Blocks are of the family of the range. -/
@[simp]
theorem family_block (pool : Pool) (index : Nat) :
    (pool.block index).family = pool.range.family :=
  rfl

/-- All blocks of a pool have the same number of addresses. -/
@[simp]
theorem size_block (pool : Pool) (index : Nat) : (pool.block index).size = pool.blockSize :=
  rfl

/-- The number of an address that starts a block is within the family. -/
theorem start_lt {index : Nat} (below : index < pool.size) :
    pool.range.network.value + index * pool.blockSize < Nat.pow 2 pool.range.family.width := by
  have inside := offset_le below
  have positive := pool.blockSize_pos
  have space : pool.range.network.value + pool.range.size ≤ Nat.pow 2 pool.range.family.width :=
    pool.range.value_add_size_le
  omega

/-- Where a block starts. -/
theorem value_block {index : Nat} (below : index < pool.size) :
    (pool.block index).network.value = pool.range.network.value + index * pool.blockSize := by
  have start : (Address.ofNat pool.range.family
      (pool.range.network.value + index * pool.blockSize)).value =
      pool.range.network.value + index * pool.blockSize :=
    Nat.mod_eq_of_lt (start_lt below)
  have aligned : (pool.range.network.value + index * pool.blockSize) % pool.blockSize = 0 :=
    Nat.mod_eq_zero_of_dvd
      (Nat.dvd_add pool.blockSize_dvd_value (Nat.dvd_mul_left _ _))
  calc (pool.block index).network.value
      = (pool.range.network.value + index * pool.blockSize) -
          (pool.range.network.value + index * pool.blockSize) % pool.blockSize := by
        rw [← start]
        rfl
    _ = pool.range.network.value + index * pool.blockSize := by
        rw [aligned, Nat.sub_zero]

/-- The range covers its blocks. -/
theorem covers_block {index : Nat} (below : index < pool.size) :
    pool.range.covers (pool.block index) = true := by
  have inside := offset_le below
  rw [Subnet.covers_iff, value_block below, size_block]
  exact ⟨rfl, by omega, by omega⟩

/-- A later block starts where the earlier one has ended. -/
theorem value_block_lt {lower upper : Nat} (order : lower < upper) (below : upper < pool.size) :
    (pool.block lower).network.value + pool.blockSize ≤ (pool.block upper).network.value := by
  rw [value_block below, value_block (Nat.lt_trans order below)]
  have step : (lower + 1) * pool.blockSize ≤ upper * pool.blockSize :=
    Nat.mul_le_mul_right _ order
  rw [Nat.succ_mul] at step
  omega

/-- Blocks with different numbers share no address. -/
theorem eq_of_block_meets {left right : Nat} (leftBelow : left < pool.size)
    (rightBelow : right < pool.size) (meets : (pool.block left).Meets (pool.block right)) :
    left = right := by
  have shared := Subnet.meets_iff.mp meets
  simp only [size_block] at shared
  rcases Nat.lt_trichotomy left right with order | same | order
  · have := value_block_lt order rightBelow
    omega
  · exact same
  · have := value_block_lt order leftBelow
    omega

/-- A block meets itself, so its number is determined by it. -/
theorem block_inj {left right : Nat} (leftBelow : left < pool.size)
    (rightBelow : right < pool.size) (same : pool.block left = pool.block right) :
    left = right := by
  apply eq_of_block_meets leftBelow rightBelow
  rw [same]
  exact ⟨_, Subnet.contains_network _, Subnet.contains_network _⟩

/-- The number of an address of the range is that of a block. -/
theorem indexAt_lt {address : Address} (inside : pool.range.contains address = true) :
    pool.indexAt address < pool.size := by
  have interval := Subnet.contains_iff.mp inside
  rw [pool.range_size] at interval
  rw [indexAt, Nat.div_lt_iff_lt_mul pool.blockSize_pos]
  omega

/-- The block with the number of an address holds it. -/
theorem block_indexAt_contains {address : Address}
    (inside : pool.range.contains address = true) :
    (pool.block (pool.indexAt address)).contains address = true := by
  have interval := Subnet.contains_iff.mp inside
  have positive := pool.blockSize_pos
  have split := Nat.div_add_mod (address.value - pool.range.network.value) pool.blockSize
  have remainder := Nat.mod_lt (address.value - pool.range.network.value) positive
  rw [Nat.mul_comm] at split
  rw [Subnet.contains_iff, value_block (indexAt_lt inside), family_block, size_block, indexAt]
  exact ⟨interval.1, by omega, by omega⟩

/-- The block around an address of the range. -/
theorem blockAround_eq_ok (shown : String) {address : Address}
    (inside : pool.range.contains address = true) :
    pool.blockAround shown address = .ok (pool.block (pool.indexAt address)) := by
  have family := (Subnet.contains_iff.mp inside).1
  have bound : pool.blockLength ≤ address.family.width := by
    rw [family]
    exact pool.block_le
  have around : pool.block (pool.indexAt address) = Subnet.around address pool.blockLength bound :=
    Subnet.eq_around_of_contains (block_indexAt_contains inside) rfl
  rw [blockAround, Subnet.ofAddress_eq_ok bound, around]

/-- The blocks are the subnets of the block length that the range covers. -/
theorem exists_block {subnet : Subnet} (length : subnet.length = pool.blockLength)
    (covers : pool.range.covers subnet = true) :
    pool.indexAt subnet.network < pool.size ∧
      subnet = pool.block (pool.indexAt subnet.network) := by
  have inside := Subnet.contains_of_covers covers subnet.contains_network
  refine ⟨indexAt_lt inside, ?_⟩
  have family := (Subnet.covers_iff.mp covers).1
  have bound : pool.blockLength ≤ subnet.network.family.width := by
    rw [show subnet.network.family = pool.range.family from family]
    exact pool.block_le
  calc subnet = Subnet.around subnet.network pool.blockLength bound :=
        Subnet.eq_around_of_contains subnet.contains_network length
    _ = pool.block (pool.indexAt subnet.network) :=
        (Subnet.eq_around_of_contains (block_indexAt_contains inside) rfl).symm

/-- The number of a block is found again. -/
theorem indexAt_block {index : Nat} (below : index < pool.size) :
    pool.indexAt (pool.block index).network = index := by
  rw [indexAt, value_block below, Nat.add_sub_cancel_left,
    Nat.mul_div_cancel _ pool.blockSize_pos]

/-- The index of a block is the one that it was made from. -/
theorem indexOf_block {index : Nat} (below : index < pool.size) :
    pool.indexOf (pool.block index) = .ok index := by
  simp [indexOf, covers_block below, indexAt_block below]

/-- The pool has a block for every number below its size. -/
theorem get_eq_ok {index : Nat} (below : index < pool.size) :
    pool.get index = .ok (pool.block index) := by
  have inRange : ¬ pool.lastIndex < index := by
    rw [lastIndex_lt_iff]
    omega
  have start := start_lt below
  have address : Address.ofNat? pool.range.family
      (pool.range.network.value + index * pool.blockSize) =
      some (pool.block index).network := by
    rw [Address.ofNat?, dif_pos start]
    exact congrArg some (Address.eq_of_value rfl (value_block below).symm)
  have inside := Subnet.contains_of_covers (covers_block below)
    (Subnet.contains_network (pool.block index))
  simp only [get, inRange, if_false, address]
  rw [blockAround_eq_ok _ inside, indexAt_block below]

/-- Binding from an address of the range on binds the numbers from its block on. -/
theorem bindFrom_eq_ok (shown : String) {address : Address} (count : Nat)
    (inside : pool.range.contains address = true) :
    pool.bindFrom shown address count =
      .ok (pool.bind (pool.indexAt address) (min (pool.indexAt address + count) pool.size)) := by
  rw [bindFrom, blockAround_eq_ok shown inside]
  change (pool.indexOf _ >>= _) = _
  rw [indexOf_block (indexAt_lt inside), lastIndex_succ]
  rfl

end TopoPlan.Pool
