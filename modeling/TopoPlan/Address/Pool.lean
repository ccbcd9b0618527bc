import TopoPlan.Address.Spans
import TopoPlan.Error

/-!
# Address pools

A pool divides a range into blocks of one length, numbered from the start of the
range.  Reserving an address or a subnet binds every block that it meets; handing
out blocks takes the lowest ones that are not bound.  The bound blocks are kept
as spans of their numbers.
-/

namespace TopoPlan

/-- A range divided into blocks of one length, and the blocks that are bound. -/
structure Pool where
  name : String
  range : Subnet
  /-- The length of every block. -/
  blockLength : Nat
  range_le : range.length <= blockLength
  block_le : blockLength <= range.width
  bound : Spans := []
  deriving DecidableEq

namespace Pool

/-- The largest count that an answer can show. -/
def countLimit : Nat := Nat.pow 2 128 - 1

/-- A pool in which no block is bound, if the range holds blocks of that length. -/
def ofRange (name : String) (range : Subnet) (blockLength : Nat) : Except CompileError Pool :=
  if lower : range.length <= blockLength then
    if upper : blockLength <= range.width then
      .ok { name, range, blockLength, range_le := lower, block_le := upper }
    else .error (.invalidAddress range.text (.poolTooSmall name blockLength))
  else .error (.invalidAddress range.text (.poolTooSmall name blockLength))

/-- Number of bits that number the blocks. -/
def indexBits (pool : Pool) : Nat := pool.blockLength - pool.range.length

/-- Number of blocks. -/
def size (pool : Pool) : Nat := Nat.pow 2 pool.indexBits

/-- Number of addresses of a block. -/
def blockSize (pool : Pool) : Nat := Nat.pow 2 (pool.range.width - pool.blockLength)

/-- Number of blocks as shown, which a pool of `2 ^ 128` blocks exceeds. -/
def length (pool : Pool) : Nat := min pool.size countLimit

/-- Number of the last block. -/
def lastIndex (pool : Pool) : Nat := pool.size - 1

/-- Number of bound blocks. -/
def boundCount (pool : Pool) : Nat := pool.bound.count

/-- Whether a block is bound. -/
def isBound (pool : Pool) (index : Nat) : Bool := pool.bound.contains index

/-- Whether the pool has so many blocks at all. -/
def isEnough (pool : Pool) (count : Nat) : Bool := count <= pool.size

/-- The block of the pool's length around an address; `shown` is what an error is about. -/
def blockAround (pool : Pool) (shown : String) (address : Address) : Except CompileError Subnet :=
  match Subnet.ofAddress address pool.blockLength with
  | .ok block => .ok block
  | .error fault => .error (.invalidAddress shown (.subnet fault))

/-- The block with the given number. -/
def get (pool : Pool) (index : Nat) : Except CompileError Subnet :=
  if pool.lastIndex < index then
    .error (.invalidAddress (Numeral.text index) (.indexOutOfRange pool.name))
  else
    match Address.ofNat? pool.range.family
        (pool.range.network.value + index * pool.blockSize) with
    | none => .error (.invalidAddress (Numeral.text index) (.indexOverflow pool.name))
    | some address => pool.blockAround address.text address

/-- The last block. -/
def last (pool : Pool) : Except CompileError Subnet := pool.get pool.lastIndex

/-- The number of the block that holds an address of the range. -/
def indexAt (pool : Pool) (address : Address) : Nat :=
  (address.value - pool.range.network.value) / pool.blockSize

/-- The number of a block. -/
def indexOf (pool : Pool) (subnet : Subnet) : Except CompileError Nat :=
  if subnet.length != pool.blockLength then
    .error (.invalidAddress subnet.text (.otherLength pool.blockLength pool.name))
  else if !pool.range.covers subnet then
    .error (.invalidAddress subnet.text (.outsideRange pool.range))
  else .ok (pool.indexAt subnet.network)

/-- Bind the blocks with numbers from `first` up to, but not including, `stop`. -/
def bind (pool : Pool) (first stop : Nat) : Pool :=
  { pool with bound := pool.bound.add first stop }

/-- Bind the block around an address and those after it, `count` in all, as far as
there are blocks. -/
def bindFrom (pool : Pool) (shown : String) (address : Address) (count : Nat) :
    Except CompileError Pool := do
  let block <- pool.blockAround shown address
  let first <- pool.indexOf block
  pure (pool.bind first (min (first + count) (pool.lastIndex + 1)))

/-- Bind the block that holds an address; other addresses change nothing. -/
def reserveAddress (pool : Pool) (address : Address) : Except CompileError Pool :=
  if pool.range.contains address then pool.bindFrom address.text address 1 else .ok pool

/-- Number of blocks in the part of the range that a subnet longer than a block
shares with it. -/
def spanCount (pool : Pool) (subnet : Subnet) : Nat :=
  min (Nat.pow 2 (pool.blockLength - max subnet.length pool.range.length)) countLimit

/-- Bind every block that meets a subnet: all blocks for a subnet around the
range, the blocks inside a larger subnet of the range, or the one block around a
smaller one.  Other subnets change nothing. -/
def reserve (pool : Pool) (subnet : Subnet) : Except CompileError Pool :=
  if subnet.family != pool.range.family then .ok pool
  else if subnet.length < pool.blockLength then
    if subnet.covers pool.range then
      pool.bindFrom subnet.text pool.range.network (pool.spanCount subnet)
    else if pool.range.covers subnet then
      pool.bindFrom subnet.text subnet.network (pool.spanCount subnet)
    else .ok pool
  else if pool.range.covers subnet then pool.bindFrom subnet.text subnet.network 1
  else .ok pool

/-- Bind the blocks with the given numbers and give them.  Blocks bound before a
failure stay bound. -/
def handOut (pool : Pool) : List Nat -> Except CompileError (List Subnet) × Pool
  | [] => (.ok [], pool)
  | index :: rest =>
    let bound := pool.bind index (index + 1)
    match bound.get index with
    | .error error => (.error error, bound)
    | .ok block =>
      let (blocks, after) := bound.handOut rest
      (blocks.map (block :: ·), after)

/-- Hand out the lowest blocks that are not bound, and bind them.  The second
component is the pool that the call leaves, also where it fails. -/
def take (pool : Pool) (count : Nat) : Except CompileError (List Subnet) × Pool :=
  let required := min (count + pool.boundCount) countLimit
  let indices := pool.bound.free 0 pool.size count
  if pool.isEnough required && indices.length = count then pool.handOut indices
  else (.error (.poolExhausted pool.name required), pool)

end Pool

end TopoPlan
