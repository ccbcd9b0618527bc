import TopoPlan.Proofs.Address.Blocks

/-!
# What calls bind

`Binds` says which numbers a call on a pool binds.  A reservation binds the blocks
that meet what is reserved, whatever the sizes are; handing out binds the first free
blocks, or none if there are too few.  Reserving a subnet is limited to pools of fewer
than `2 ^ 128` blocks, beyond which its count is cut off.
-/

namespace TopoPlan.Pool

/-- The bound numbers are ordered spans of block numbers. -/
structure Sound (pool : Pool) : Prop where
  ordered : pool.bound.Ordered
  within : ∀ span ∈ pool.bound, span.stop ≤ pool.size

/-- A call leaves the pool as it is, but for binding some blocks more. -/
structure Binds (pool after : Pool) (touched : Nat → Prop) : Prop where
  same : after = { pool with bound := after.bound }
  sound : after.Sound
  bound : ∀ index < pool.size,
    after.isBound index = true ↔ touched index ∨ pool.isBound index = true

/-- The numbers of the blocks that are not bound. -/
def freeIndices (pool : Pool) : List Nat := pool.bound.gaps 0 pool.size

variable {pool after : Pool} {touched : Nat → Prop}

/-- Reserving keeps the name of a pool. -/
theorem Binds.name (binds : Binds pool after touched) : after.name = pool.name := by
  rw [binds.same]

/-- Reserving keeps the range of a pool. -/
theorem Binds.range (binds : Binds pool after touched) : after.range = pool.range := by
  rw [binds.same]

/-- Reserving keeps the length of the blocks of a pool. -/
theorem Binds.blockLength (binds : Binds pool after touched) :
    after.blockLength = pool.blockLength := by
  rw [binds.same]

/-- Reserving keeps the number of blocks of a pool. -/
theorem Binds.size (binds : Binds pool after touched) : after.size = pool.size := by
  rw [binds.same]
  rfl

/-- The blocks of a pool are the same after a reservation. -/
theorem Binds.block (binds : Binds pool after touched) : after.block = pool.block := by
  rw [binds.same]
  rfl

/-- A new pool is sound. -/
theorem sound_of_ofRange {name : String} {range : Subnet} {length : Nat}
    (made : ofRange name range length = .ok pool) : pool.Sound := by
  unfold ofRange at made
  split at made
  case isFalse => cases made
  case isTrue =>
    split at made
    case isFalse => cases made
    case isTrue =>
      cases made
      exact ⟨.nil, List.forall_mem_nil _⟩

/-- A sound pool that nothing happens to. -/
theorem Sound.binds_self (sound : pool.Sound) (none : ∀ index < pool.size, ¬ touched index) :
    Binds pool pool touched :=
  ⟨rfl, sound, fun index below => by simp [none index below]⟩

/-- Two calls in a row bind what either binds. -/
theorem Binds.trans {last : Pool} {more : Nat → Prop} (first : Binds pool after touched)
    (second : Binds after last more) :
    Binds pool last fun index => more index ∨ touched index := by
  refine ⟨?_, second.sound, fun index below => ?_⟩
  · rw [second.same, first.same]
  · have belowAfter : index < after.size := by rwa [first.size]
    rw [second.bound index belowAfter, first.bound index below, or_assoc]

/-- What a call binds may be described in other words. -/
theorem Binds.congr {other : Nat → Prop} (binds : Binds pool after touched)
    (same : ∀ index < pool.size, touched index ↔ other index) : Binds pool after other :=
  ⟨binds.same, binds.sound, fun index below => by
    rw [binds.bound index below, same index below]⟩

/-- Binding a run of numbers. -/
theorem Sound.binds_bind {first stop : Nat} (sound : pool.Sound) (nonempty : first < stop)
    (inside : stop ≤ pool.size) :
    Binds pool (pool.bind first stop) fun index => first ≤ index ∧ index < stop where
  same := rfl
  sound := ⟨sound.ordered.add nonempty, Spans.stop_le_add inside sound.within⟩
  bound _ _ := Spans.contains_add sound.ordered nonempty

/-- Binding from an address of the range on succeeds. -/
theorem Sound.bindFrom {address : Address} {count : Nat} (sound : pool.Sound) (shown : String)
    (positive : 0 < count) (inside : pool.range.contains address = true) :
    ∃ after, pool.bindFrom shown address count = .ok after ∧
      Binds pool after fun index =>
        pool.indexAt address ≤ index ∧ index < pool.indexAt address + count := by
  have first := indexAt_lt inside
  refine ⟨_, bindFrom_eq_ok shown count inside, ?_⟩
  apply (sound.binds_bind (by omega) (Nat.min_le_right _ _)).congr
  intro index below
  omega

/-- An address of the range lies in the block with its number only. -/
theorem block_contains_iff {address : Address} {index : Nat} (below : index < pool.size)
    (inside : pool.range.contains address = true) :
    (pool.block index).contains address = true ↔ index = pool.indexAt address := by
  have own := block_indexAt_contains inside
  constructor
  · intro holds
    exact eq_of_block_meets below (indexAt_lt inside) ⟨address, holds, own⟩
  · rintro rfl
    exact own

/-- What meets a block meets the range. -/
theorem range_meets {subnet : Subnet} {index : Nat} (below : index < pool.size)
    (meets : (pool.block index).Meets subnet) : pool.range.Meets subnet :=
  meets.of_covers (covers_block below)

/-- Reserving an address binds the block that holds it. -/
theorem Sound.reserveAddress (sound : pool.Sound) (address : Address) :
    ∃ after, pool.reserveAddress address = .ok after ∧
      Binds pool after fun index => (pool.block index).contains address = true := by
  unfold Pool.reserveAddress
  split
  case isTrue inside =>
    obtain ⟨after, done, binds⟩ := sound.bindFrom address.text Nat.one_pos inside
    refine ⟨after, done, binds.congr ?_⟩
    intro index below
    rw [block_contains_iff below inside]
    omega
  case isFalse outside =>
    refine ⟨pool, rfl, sound.binds_self fun index below holds => outside ?_⟩
    exact Subnet.contains_of_covers (covers_block below) holds

/-- A subnet around the range meets every block. -/
theorem block_meets_of_covers {subnet : Subnet} {index : Nat} (below : index < pool.size)
    (around : subnet.covers pool.range = true) : (pool.block index).Meets subnet := by
  have inRange := Subnet.meets_of_covers (covers_block below)
  exact (inRange.of_covers around).symm

/-- The size of a subnet of the range that is longer than a block, in blocks. -/
theorem size_eq_blocks {subnet : Subnet} (family : subnet.family = pool.range.family)
    (longer : subnet.length ≤ pool.blockLength) :
    subnet.size = 2 ^ (pool.blockLength - subnet.length) * pool.blockSize := by
  have upper := pool.block_le
  have bits : subnet.hostBits =
      (pool.blockLength - subnet.length) + (pool.range.width - pool.blockLength) := by
    rw [Subnet.hostBits, Subnet.width, family]
    change pool.range.width - _ = _
    omega
  rw [Subnet.size_eq, bits, Nat.pow_add]
  rfl

/-- A subnet of the range that is longer than a block meets the blocks from its own
number on, as many as it has. -/
theorem block_meets_iff_of_longer {subnet : Subnet} {index : Nat} (below : index < pool.size)
    (inside : pool.range.covers subnet = true) (longer : subnet.length ≤ pool.blockLength) :
    (pool.block index).Meets subnet ↔
      pool.indexAt subnet.network ≤ index ∧
        index < pool.indexAt subnet.network + 2 ^ (pool.blockLength - subnet.length) := by
  have interval := Subnet.covers_iff.mp inside
  have size := size_eq_blocks interval.1 longer
  have positive := pool.blockSize_pos
  -- Both the range and the subnet start at a multiple of the size of a block.
  have divides : pool.blockSize ∣ subnet.network.value - pool.range.network.value := by
    refine Nat.dvd_sub (Nat.dvd_trans ?_ subnet.size_dvd_value) pool.blockSize_dvd_value
    rw [size]
    exact Nat.dvd_mul_left _ _
  have start : subnet.network.value =
      pool.range.network.value + pool.indexAt subnet.network * pool.blockSize := by
    rw [indexAt, Nat.div_mul_cancel divides]
    omega
  rw [Subnet.meets_iff, family_block, value_block below, size_block, size, start]
  generalize pool.indexAt subnet.network = first
  generalize 2 ^ (pool.blockLength - subnet.length) = count
  have upper : pool.range.network.value + index * pool.blockSize <
      pool.range.network.value + first * pool.blockSize + count * pool.blockSize ↔
      index < first + count := by
    rw [Nat.add_assoc, Nat.add_lt_add_iff_left, ← Nat.add_mul]
    exact Nat.mul_lt_mul_right positive
  have lower : pool.range.network.value + first * pool.blockSize <
      pool.range.network.value + index * pool.blockSize + pool.blockSize ↔ first < index + 1 := by
    rw [Nat.add_assoc, Nat.add_lt_add_iff_left, ← Nat.succ_mul]
    exact Nat.mul_lt_mul_right positive
  rw [upper, lower]
  have family := interval.1.symm
  constructor
  · rintro ⟨-, inFront, behind⟩
    omega
  · rintro ⟨behind, inFront⟩
    exact ⟨family, inFront, by omega⟩

/-- A subnet of the range that is no longer than a block meets the block of its
network address only. -/
theorem block_meets_iff_of_shorter {subnet : Subnet} {index : Nat} (below : index < pool.size)
    (inside : pool.range.covers subnet = true) (shorter : pool.blockLength ≤ subnet.length) :
    (pool.block index).Meets subnet ↔ index = pool.indexAt subnet.network := by
  have network := Subnet.contains_of_covers inside subnet.contains_network
  rw [← block_contains_iff below network]
  constructor
  · intro meets
    exact Subnet.contains_of_covers (Subnet.covers_of_meets meets shorter)
      subnet.contains_network
  · intro holds
    exact ⟨_, holds, subnet.contains_network⟩

/-- A subnet spans at least one block. -/
theorem spanCount_pos (pool : Pool) (subnet : Subnet) : 0 < pool.spanCount subnet :=
  Nat.lt_min.mpr ⟨Nat.two_pow_pos _, by decide⟩

/-- The count of a reservation is cut off only from `2 ^ 128` on. -/
theorem min_countLimit {bits : Nat} (few : bits < 128) : min (2 ^ bits) countLimit = 2 ^ bits := by
  have bound : 2 ^ bits < 2 ^ 128 := Nat.pow_lt_pow_right (by decide) few
  have limit : countLimit + 1 = 2 ^ 128 := rfl
  exact Nat.min_eq_left (by omega)

/-- A subnet inside another one is not shorter. -/
theorem length_le_of_covers {outer inner : Subnet} (covers : outer.covers inner = true) :
    outer.length ≤ inner.length := by
  simp only [Subnet.covers, Bool.and_eq_true, decide_eq_true_eq] at covers
  exact covers.1

/-- A reservation succeeds, and it binds the blocks that meet the subnet unless its
count is cut off. -/
def Reserves (pool : Pool) (subnet : Subnet) (outcome : Except CompileError Pool) : Prop :=
  ∃ after touched, outcome = .ok after ∧ Binds pool after touched ∧
    (pool.indexBits < 128 →
      ∀ index < pool.size, touched index ↔ (pool.block index).Meets subnet)

/-- The call for a subnet around the range. -/
theorem Sound.bindAll (sound : pool.Sound) {subnet : Subnet}
    (around : subnet.covers pool.range = true) :
    pool.Reserves subnet
      (pool.bindFrom subnet.text pool.range.network (pool.spanCount subnet)) := by
  obtain ⟨after, done, binds⟩ :=
    sound.bindFrom subnet.text (pool.spanCount_pos subnet) pool.range.contains_network
  refine ⟨after, _, done, binds, ?_⟩
  intro few index below
  have span : pool.spanCount subnet = pool.size := by
    rw [spanCount, Nat.max_eq_right (length_le_of_covers around)]
    exact min_countLimit few
  have first : pool.indexAt pool.range.network = 0 := by simp [indexAt]
  simp [block_meets_of_covers below around, first, span, below]

/-- The call for a subnet of the range that is longer than a block. -/
theorem Sound.bindLonger (sound : pool.Sound) {subnet : Subnet}
    (inside : pool.range.covers subnet = true) (longer : subnet.length ≤ pool.blockLength) :
    pool.Reserves subnet
      (pool.bindFrom subnet.text subnet.network (pool.spanCount subnet)) := by
  obtain ⟨after, done, binds⟩ :=
    sound.bindFrom subnet.text (pool.spanCount_pos subnet)
      (Subnet.contains_of_covers inside subnet.contains_network)
  refine ⟨after, _, done, binds, ?_⟩
  intro few index below
  have shorter := length_le_of_covers inside
  have span : pool.spanCount subnet = 2 ^ (pool.blockLength - subnet.length) := by
    rw [spanCount, Nat.max_eq_left shorter]
    rw [indexBits] at few
    exact min_countLimit (by omega)
  rw [block_meets_iff_of_longer below inside longer, span]

/-- The call for a subnet of the range that is no longer than a block. -/
theorem Sound.bindShorter (sound : pool.Sound) {subnet : Subnet}
    (inside : pool.range.covers subnet = true) (shorter : pool.blockLength ≤ subnet.length) :
    pool.Reserves subnet (pool.bindFrom subnet.text subnet.network 1) := by
  obtain ⟨after, done, binds⟩ := sound.bindFrom subnet.text Nat.one_pos
    (Subnet.contains_of_covers inside subnet.contains_network)
  refine ⟨after, _, done, binds, ?_⟩
  intro _ index below
  rw [block_meets_iff_of_shorter below inside shorter]
  omega

/-- Reserving a subnet binds the blocks that meet it. -/
theorem Sound.reserve (sound : pool.Sound) (subnet : Subnet) :
    pool.Reserves subnet (pool.reserve subnet) := by
  have apart : ¬ pool.range.Meets subnet → pool.Reserves subnet (.ok pool) := fun separate =>
    ⟨pool, fun index => (pool.block index).Meets subnet, rfl,
      sound.binds_self fun index below meets => separate (range_meets below meets),
      fun _ _ _ => Iff.rfl⟩
  unfold Pool.reserve
  split
  case isTrue families =>
    apply apart
    intro meets
    have same := (Subnet.meets_iff.mp meets).1
    simp [same] at families
  case isFalse =>
    split
    case isTrue longer =>
      split
      case isTrue around => exact sound.bindAll around
      case isFalse notAround =>
        split
        case isTrue inside => exact sound.bindLonger inside (Nat.le_of_lt longer)
        case isFalse notInside =>
          exact apart fun meets =>
            (Subnet.covers_or_covers_of_meets meets).elim notInside notAround
    case isFalse notLonger =>
      have shorter : pool.blockLength ≤ subnet.length := Nat.le_of_not_lt notLonger
      split
      case isTrue inside => exact sound.bindShorter inside shorter
      case isFalse notInside =>
        exact apart fun meets => notInside
          (Subnet.covers_of_meets meets (Nat.le_trans pool.range_le shorter))

/-- A free number is one of a block that is not bound. -/
theorem mem_freeIndices {index : Nat} :
    index ∈ pool.freeIndices ↔ index < pool.size ∧ pool.isBound index = false := by
  simp [freeIndices, Spans.gaps, isBound]

/-- The free numbers after a call are those before it that it did not bind. -/
theorem Binds.mem_freeIndices (binds : Binds pool after touched) {index : Nat} :
    index ∈ after.freeIndices ↔ index ∈ pool.freeIndices ∧ ¬ touched index := by
  rw [Pool.mem_freeIndices, Pool.mem_freeIndices, binds.size, and_assoc]
  refine and_congr_right fun below => ?_
  rw [← Bool.not_eq_true, binds.bound index below, not_or, Bool.not_eq_true]
  exact and_comm

/-- Free numbers are listed in increasing order. -/
theorem freeIndices_sorted (pool : Pool) : pool.freeIndices.Pairwise (· < ·) :=
  List.Pairwise.filter _ List.pairwise_lt_range'

/-- Every block is bound or free. -/
theorem Sound.boundCount_add (sound : pool.Sound) :
    pool.boundCount + pool.freeIndices.length = pool.size :=
  Spans.count_add_length_gaps sound.ordered sound.within fun _ _ => Nat.zero_le _

/-- Binding blocks one after the other gives all of them. -/
theorem Sound.handOut (sound : pool.Sound) (indices : List Nat)
    (inside : ∀ index ∈ indices, index < pool.size) :
    ∃ after, pool.handOut indices = (.ok (indices.map pool.block), after) ∧
      Binds pool after fun index => index ∈ indices := by
  induction indices generalizing pool with
  | nil => exact ⟨pool, rfl, sound.binds_self fun _ _ => List.not_mem_nil⟩
  | cons index rest inductionHypothesis =>
    obtain ⟨below, restInside⟩ := List.forall_mem_cons.mp inside
    have first := sound.binds_bind (Nat.lt_succ_self index) below
    obtain ⟨after, done, binds⟩ := inductionHypothesis first.sound restInside
    have block : (pool.bind index (index + 1)).get index = .ok (pool.block index) :=
      get_eq_ok below
    refine ⟨after, ?_, (first.trans binds).congr fun other _ => ?_⟩
    · rw [Pool.handOut, block, done]
      rfl
    · have single : (index ≤ other ∧ other < index + 1) ↔ other = index := by omega
      rw [single, List.mem_cons, or_comm]

/-- Where enough blocks are free the first ones are handed out. -/
theorem Sound.take_of_enough {count : Nat} (sound : pool.Sound)
    (enough : count ≤ pool.freeIndices.length) :
    ∃ after, pool.take count =
        (.ok ((pool.freeIndices.take count).map pool.block), after) ∧
      Binds pool after fun index => index ∈ pool.freeIndices.take count := by
  have total := sound.boundCount_add
  have free : pool.bound.free 0 pool.size count = pool.freeIndices.take count :=
    Spans.free_eq_take_gaps sound.ordered _ _ _
  have length : (pool.freeIndices.take count).length = count := by
    rw [List.length_take, Nat.min_eq_left enough]
  have isEnough : pool.isEnough (min (count + pool.boundCount) countLimit) = true := by
    rw [Pool.isEnough, decide_eq_true_eq]
    omega
  obtain ⟨after, done, binds⟩ := sound.handOut (pool.freeIndices.take count)
    fun index found => (mem_freeIndices.mp (List.mem_of_mem_take found)).1
  refine ⟨after, ?_, binds⟩
  simp only [take, free, isEnough, length, decide_true, Bool.and_self, if_true]
  exact done

/-- Where too few blocks are free the call fails and changes nothing. -/
theorem Sound.take_of_short {count : Nat} (sound : pool.Sound)
    (short : pool.freeIndices.length < count) :
    ∃ required, pool.take count = (.error (.poolExhausted pool.name required), pool) := by
  have free : pool.bound.free 0 pool.size count = pool.freeIndices.take count :=
    Spans.free_eq_take_gaps sound.ordered _ _ _
  have length : (pool.freeIndices.take count).length ≠ count := by
    rw [List.length_take]
    omega
  refine ⟨min (count + pool.boundCount) countLimit, ?_⟩
  simp only [take, free, decide_eq_false length, Bool.and_false]
  rfl

/-- Handing out nothing succeeds. -/
theorem Sound.take_zero (sound : pool.Sound) : (pool.take 0).1 = .ok [] := by
  obtain ⟨after, run, _⟩ := sound.take_of_enough (Nat.zero_le _)
  rw [run]
  rfl

/-- What a call hands out are the first free blocks, as many as it was asked for. -/
theorem Sound.blocks_of_take (sound : pool.Sound) {count : Nat} {blocks : List Subnet}
    (run : (pool.take count).1 = .ok blocks) :
    count ≤ pool.freeIndices.length ∧ blocks = (pool.freeIndices.take count).map pool.block := by
  rcases Nat.lt_or_ge pool.freeIndices.length count with short | enough
  · obtain ⟨required, failed⟩ := sound.take_of_short short
    rw [failed] at run
    cases run
  · obtain ⟨after, done, _⟩ := sound.take_of_enough enough
    rw [done] at run
    cases run
    exact ⟨enough, rfl⟩

/-- A call hands out as many blocks as it was asked for, or none. -/
theorem Sound.length_of_take (sound : pool.Sound) {count : Nat} {blocks : List Subnet}
    (run : (pool.take count).1 = .ok blocks) : blocks.length = count := by
  obtain ⟨enough, rfl⟩ := sound.blocks_of_take run
  rw [List.length_map, List.length_take, Nat.min_eq_left enough]

end TopoPlan.Pool
