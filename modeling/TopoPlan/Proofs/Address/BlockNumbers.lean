import TopoPlan.Proofs.Address.Blocks
import TopoPlan.Proofs.Address.ByteArithmetic

/-!
# Numbers of blocks

The numbers up to the last one stand for the blocks of the range, one for one and in the
order of their addresses.  `BlockNumbers` says so of a pool, and `blockNumbers_of_ofRange`
is that it holds of every pool that can be made, up to the end of the address space.  Blocks
are found by the numbers of addresses; that adding and subtracting byte by byte finds the same
ones is part of the statement.
-/

namespace TopoPlan.Pool

/-- Numbers and blocks of one length in a range stand for each other. -/
structure BlockNumbers (range : Subnet) (length : Nat) (pool : Pool) : Prop where
  /-- There is a block for every number up to the last one, and for no other. -/
  given : ∀ index, (∃ block, pool.get index = .ok block) ↔ index ≤ pool.lastIndex
  /-- Blocks have the length of the pool and lie in its range. -/
  inside : ∀ index block, pool.get index = .ok block →
    block.length = length ∧ range.covers block = true
  /-- Blocks with greater numbers have greater addresses. -/
  increasing : ∀ lower upper first second, lower < upper → pool.get lower = .ok first →
    pool.get upper = .ok second → first.network.value < second.network.value
  /-- Blocks with different numbers share no address. -/
  apart : ∀ left right first second, left ≠ right → pool.get left = .ok first →
    pool.get right = .ok second → ¬ first.Meets second
  /-- The number of a block is found again. -/
  found : ∀ index block, pool.get index = .ok block → pool.indexOf block = .ok index
  /-- Every subnet of the length in the range is the block with its number. -/
  numbered : ∀ subnet : Subnet, subnet.length = length → range.covers subnet = true →
    ∃ index, pool.indexOf subnet = .ok index ∧ pool.get index = .ok subnet
  /-- No other subnet has a number. -/
  refused : ∀ subnet : Subnet, ¬ (subnet.length = length ∧ range.covers subnet = true) →
    ∃ error, pool.indexOf subnet = .error error
  /-- The bytes of a block are those of the range and the addresses before it, without
  overflow. -/
  added : ∀ index block, pool.get index = .ok block →
    Bytes.add (Bytes.ofAddress range.network) (index * 2 ^ (range.width - length)) =
      (Bytes.ofAddress block.network, true)
  /-- What the bytes of a numbered subnet differ by from those of the range are the addresses
  before it. -/
  subtracted : ∀ subnet index, pool.indexOf subnet = .ok index →
    Bytes.difference? (Bytes.ofAddress subnet.network) (Bytes.ofAddress range.network) =
      some (index * 2 ^ (range.width - length))

variable {pool : Pool} {index : Nat} {subnet : Subnet}

/-- Beyond the last number there is no block. -/
theorem get_eq_error (beyond : pool.lastIndex < index) :
    pool.get index =
      .error (.invalidAddress (Numeral.text index) (.indexOutOfRange pool.name)) := by
  rw [get, if_pos beyond]

/-- The block that is given for a number is the one with this number. -/
theorem get_eq_ok_iff : pool.get index = .ok subnet ↔
    index < pool.size ∧ subnet = pool.block index := by
  rcases Nat.lt_or_ge index pool.size with below | beyond
  · rw [get_eq_ok below, Except.ok.injEq, and_iff_right below, eq_comm]
  · rw [get_eq_error (lastIndex_lt_iff.mpr beyond)]
    exact iff_of_false nofun fun given => Nat.not_lt.mpr beyond given.1

/-- Subnets of another length and subnets that are not in the range have no number. -/
theorem exists_indexOf_error
    (other : ¬ (subnet.length = pool.blockLength ∧ pool.range.covers subnet = true)) :
    ∃ error, pool.indexOf subnet = .error error := by
  unfold indexOf
  split
  case isTrue => exact ⟨_, rfl⟩
  case isFalse lengths =>
    have length : subnet.length = pool.blockLength := by simpa using lengths
    have outside : ¬ pool.range.covers subnet = true := fun covers => other ⟨length, covers⟩
    rw [Bool.not_eq_true] at outside
    rw [outside]
    exact ⟨_, rfl⟩

/-- A subnet that has a number is the block with this number. -/
theorem eq_block_of_indexOf (numbered : pool.indexOf subnet = .ok index) :
    index < pool.size ∧ subnet = pool.block index := by
  by_cases own : subnet.length = pool.blockLength ∧ pool.range.covers subnet = true
  case neg =>
    obtain ⟨error, failed⟩ := exists_indexOf_error own
    cases failed.symm.trans numbered
  case pos =>
    obtain ⟨below, same⟩ := exists_block own.1 own.2
    rw [same, indexOf_block below, Except.ok.injEq] at numbered
    rw [← numbered]
    exact ⟨below, same⟩

/-- The numbers of a pool, whatever is bound in it, stand for the blocks of its range. -/
theorem blockNumbers (pool : Pool) : BlockNumbers pool.range pool.blockLength pool where
  given index := by
    simp only [get_eq_ok_iff, exists_and_left, exists_eq, and_true]
    exact pool.lastIndex_succ ▸ Nat.lt_succ_iff
  inside index block given := by
    obtain ⟨below, rfl⟩ := get_eq_ok_iff.mp given
    exact ⟨length_block pool index, covers_block below⟩
  increasing lower upper first second order givenFirst givenSecond := by
    obtain ⟨_, rfl⟩ := get_eq_ok_iff.mp givenFirst
    obtain ⟨below, rfl⟩ := get_eq_ok_iff.mp givenSecond
    have positive := pool.blockSize_pos
    have ended := value_block_lt order below
    omega
  apart left right first second different givenFirst givenSecond meets := by
    obtain ⟨leftBelow, rfl⟩ := get_eq_ok_iff.mp givenFirst
    obtain ⟨rightBelow, rfl⟩ := get_eq_ok_iff.mp givenSecond
    exact different (eq_of_block_meets leftBelow rightBelow meets)
  found index block given := by
    obtain ⟨below, rfl⟩ := get_eq_ok_iff.mp given
    exact indexOf_block below
  numbered subnet length covers := by
    obtain ⟨below, same⟩ := exists_block length covers
    refine ⟨pool.indexAt subnet.network, ?_, get_eq_ok_iff.mpr ⟨below, same⟩⟩
    calc pool.indexOf subnet
        = pool.indexOf (pool.block (pool.indexAt subnet.network)) := congrArg pool.indexOf same
      _ = .ok (pool.indexAt subnet.network) := indexOf_block below
  refused _ := exists_indexOf_error
  added index block given := by
    obtain ⟨below, rfl⟩ := get_eq_ok_iff.mp given
    exact Bytes.add_ofAddress (pool.family_block index) (value_block below)
  subtracted subnet index numbered := by
    obtain ⟨below, rfl⟩ := eq_block_of_indexOf numbered
    rw [Bytes.difference?_ofAddress (pool.family_block index)
      (value_block below ▸ Nat.le_add_right _ _), value_block below, Nat.add_sub_cancel_left]
    rfl

/-- In every pool that can be made for a range and a length the numbers up to the last one
stand for the subnets of this length in the range, one for one and in order. -/
theorem blockNumbers_of_ofRange {name : String} {range : Subnet} {length : Nat}
    (made : ofRange name range length = .ok pool) : BlockNumbers range length pool := by
  obtain ⟨rfl, rfl⟩ := parts_of_ofRange made
  exact pool.blockNumbers

/-- The single addresses of family v6 are the blocks of a pool of all of them, and the very
last address has the greatest number. -/
theorem blockNumbers_of_all_addresses :
    let all := Subnet.around (Address.ofNat .v6 0) 0 (by decide)
    let last := Subnet.around (Address.ofNat .v6 (2 ^ 128 - 1)) 128 (by decide)
    let pool : Pool :=
      { name := "hosts", range := all, blockLength := 128, range_le := by decide,
        block_le := by decide }
    ofRange "hosts" all 128 = .ok pool ∧ BlockNumbers all 128 pool ∧
      pool.indexOf last = .ok (2 ^ 128 - 1) ∧ pool.get (2 ^ 128 - 1) = .ok last := by
  intro all last pool
  have made : ofRange "hosts" all 128 = .ok pool := rfl
  have numbers := blockNumbers_of_ofRange made
  have number : pool.indexOf last = .ok (2 ^ 128 - 1) := by decide +kernel
  obtain ⟨index, same, given⟩ := numbers.numbered last rfl (by decide +kernel)
  cases number.symm.trans same
  exact ⟨made, numbers, number, given⟩

end TopoPlan.Pool
