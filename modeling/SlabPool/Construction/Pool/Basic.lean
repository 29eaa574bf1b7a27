import SlabPool.Construction.Class.Contract
import Mathlib.Algebra.Group.Nat.Basic

/-!
# `MemoryPool`: state, construction and routing

The pool's fields as `MemoryPool.cpp` uses them, its constructor with `createAllocationClasses`
and `checkState`, and the three lookups of a class: by size (`getAllocationClassId(uint32_t)`,
the route `allocate` takes), by memory (`getAllocationClassId(const void*)`, the route `free`
takes, through the slab header) and by id (`getAllocationClassFor(ClassId)`).

`freeSlabs_` is a vector used as a stack (`push_back`, `back`, `pop_back`); the model keeps it
as a list with the back first.  The two atomic counters are `size_t`: their updates go through
`sizeAdd` and `sizeSub`, which wrap modulo `2^64` as the source's do.  `ac_[cid]` is written
`acAt`, with no bounds check: an index outside `ac_` is the fault `indexOutOfBounds`.
-/

namespace SlabPool

/-- `size_t` addition. -/
def sizeAdd (a b : Nat) : Nat := (a + b) % 2 ^ 64

/-- `size_t` subtraction, which wraps below zero. -/
def sizeSub (a b : Nat) : Nat := (a + (2 ^ 64 - b % 2 ^ 64)) % 2 ^ 64

lemma sizeAdd_of_lt {a b : Nat} (h : a + b < 2 ^ 64) : sizeAdd a b = a + b :=
  Nat.mod_eq_of_lt h

lemma sizeSub_of_le {a b : Nat} (hb : b ≤ a) (ha : a < 2 ^ 64) : sizeSub a b = a - b := by
  unfold sizeSub
  omega

lemma sizeAdd_mod (a b : Nat) : sizeAdd (a % 2 ^ 64) b = (a + b) % 2 ^ 64 := by
  unfold sizeAdd
  omega

/-- Subtracting what was added undoes the addition, modulo `2^64`. -/
lemma sizeSub_mod (a b : Nat) : sizeSub ((a + b) % 2 ^ 64) b = a % 2 ^ 64 := by
  unfold sizeSub
  omega

/-- The fields of `MemoryPool` its code reads or writes. -/
structure MemoryPool (C : Type) where
  id : Int
  maxSize : Nat
  slabAllocator : SlabAllocator
  acSizes : List Nat
  ac : List C
  /-- `freeSlabs_`, back first. -/
  freeSlabs : List Slab
  currAllocSize : Nat
  currSlabAllocSize : Nat
  nSlabResize : Nat
  nSlabRebalance : Nat
  nSlabReleaseAborted : Nat

/-- A call on the pool: it returns a value or throws, and either way leaves a state, since an
exception does not undo what the call already changed. -/
abbrev PoolM (C α : Type) := EStateM Fault (MemoryPool C) α

namespace MemoryPool

variable {C : Type} (ops : AllocationClassOps C) (kSize kMinAllocSize : Nat)

/-! ## Construction -/

/-- `std::is_sorted`: no size is less than the one before it. -/
def isSorted : List Nat → Bool
  | a :: b :: rest => !(b < a) && isSorted (b :: rest)
  | _ => true

/-- `std::adjacent_find`: the first size equal to the next one. -/
def adjacentFind : List Nat → Option Nat
  | a :: b :: rest => if a = b then some a else adjacentFind (b :: rest)
  | _ => none

/-- `createAllocationClasses()`: a class of id `0, 1, …` for each size, in order. -/
def createAllocationClasses (id : Int) : Int → List Nat → Except Fault (List C)
  | _, [] => .ok []
  | cid, size :: sizes =>
    if size < kMinAllocSize ∨ size > kSize then
      .error (.invalidArgument s!"Invalid allocation class size {size}")
    else do
      let c ← ops.create cid id size
      let cs ← createAllocationClasses id (cid + 1) sizes
      pure (c :: cs)

/-- The loop of `checkState` over the classes. -/
def checkClassSizes : List Nat → List C → Except Fault Unit
  | size :: sizes, c :: cs =>
    let cid := (ops.constants c).classId
    let got := (ops.constants c).allocationSize
    if size ≠ got ∨ size < kMinAllocSize ∨ size > kSize then
      .error (.invalidArgument (s!"Allocation Class with id {cid} and size {got}, does not " ++
        s!"match the allocation size we expect {size}"))
    else checkClassSizes sizes cs
  | _, _ => .ok ()

/-- The loop of `checkState` over the free slabs. -/
def checkFreeSlabs (sa : SlabAllocator) : List Slab → Except Fault Unit
  | [] => .ok ()
  | s :: rest =>
    let idx := s.idx
    if sa.isValidSlab s then checkFreeSlabs sa rest
    else .error (.invalidArgument s!"Invalid free slab {idx}")

/-- `checkState()`. -/
def checkState (p : MemoryPool C) : Except Fault Unit := do
  let id := p.id
  let currAlloc := p.currAllocSize
  let currSlabAlloc := p.currSlabAllocSize
  if id < 0 then throw (.invalidArgument s!"Invalid MemoryPool id {id}")
  if currAlloc > currSlabAlloc then
    throw (.invalidArgument
      s!"Alloc size {currAlloc} is more than total slab alloc size {currSlabAlloc}")
  if p.acSizes.isEmpty ∨ p.ac.isEmpty then throw (.invalidArgument "Empty alloc sizes")
  let nSizes := p.acSizes.length
  let nClasses := p.ac.length
  if nSizes ≠ nClasses then
    throw (.invalidArgument (s!"Allocation classes are not setup correctly. acSize.size = " ++
      s!"{nSizes}, but ac.size() = {nClasses}"))
  if !isSorted p.acSizes then throw (.invalidArgument "Allocation sizes are not sorted.")
  if let some d := adjacentFind p.acSizes then
    throw (.invalidArgument s!"Duplicate allocation size: {d}")
  checkClassSizes ops kSize kMinAllocSize p.acSizes p.ac
  checkFreeSlabs p.slabAllocator p.freeSlabs

/-- The constructor `MemoryPool(id, poolSize, alloc, allocSizes)`.  `allocSizes` is the
`std::set` in its order; since `checkState` checks order and uniqueness again, any list is
accepted as input. -/
def create (id : Int) (poolSize : Nat) (sa : SlabAllocator) (allocSizes : List Nat) :
    Except Fault (MemoryPool C) := do
  let ac ← createAllocationClasses ops kSize kMinAllocSize id 0 allocSizes
  let p : MemoryPool C :=
    { id, maxSize := poolSize, slabAllocator := sa, acSizes := allocSizes, ac, freeSlabs := [],
      currAllocSize := 0, currSlabAllocSize := 0, nSlabResize := 0, nSlabRebalance := 0,
      nSlabReleaseAborted := 0 }
  checkState ops kSize kMinAllocSize p
  pure p

/-! ## Finding a class -/

/-- `ac_[cid]`, with no bounds check. -/
def acAt (p : MemoryPool C) (cid : Int) : Except Fault (Nat × C) :=
  if 0 ≤ cid then
    match p.ac[cid.toNat]? with
    | some c => .ok (cid.toNat, c)
    | none => .error (.indexOutOfBounds cid)
  else .error (.indexOutOfBounds cid)

/-- `getAllocationClassId(uint32_t size)`.  `std::lower_bound` on the ascending `acSizes_` is
the first position whose size is not less than `size`. -/
def getAllocationClassId (p : MemoryPool C) (size : Nat) : Except Fault Int :=
  if size > p.acSizes.getLastD 0 ∨ size = 0 then
    .error (.invalidArgument s!"Invalid size for alloc {size} ")
  else .ok (p.acSizes.findIdx fun x => !(x < size) : Nat)

/-- `getAllocationClassId(const void* memory)`: the class id the slab header names. -/
def getAllocationClassIdOfMemory (p : MemoryPool C) (memory : Nat) : Except Fault Int :=
  let id := p.id
  match p.slabAllocator.getSlabHeader kSize memory with
  | none =>
    let pid := Slab.kInvalidPoolId
    .error (.invalidArgument
      s!"Memory {memory} [PoolId = {pid}] does not belong to this pool with id {id}")
  | some header =>
    let pid := header.poolId
    let classId := header.classId
    if pid ≠ id then
      .error (.invalidArgument
        s!"Memory {memory} [PoolId = {pid}] does not belong to this pool with id {id}")
    else if classId = Slab.kInvalidClassId then
      .error (.invalidArgument "Memory does not belong to any valid class Id")
    else if classId ≥ p.ac.length ∨ classId < 0 then
      .error (.runtimeError s!"corrupt slab header/memory pool with class id {classId}")
    else .ok classId

/-- `getAllocationClassFor(uint32_t size)`. -/
def getAllocationClassFor (p : MemoryPool C) (size : Nat) : Except Fault (Nat × C) := do
  p.acAt (← p.getAllocationClassId size)

/-- `getAllocationClassFor(void* memory)`. -/
def getAllocationClassForMemory (p : MemoryPool C) (memory : Nat) : Except Fault (Nat × C) := do
  p.acAt (← p.getAllocationClassIdOfMemory kSize memory)

/-- `getAllocationClassFor(ClassId cid)`: it rejects ids from `ac_.size()` up, and no other. -/
def getAllocationClassForId (p : MemoryPool C) (cid : Int) : Except Fault (Nat × C) :=
  if cid < p.ac.length then p.acAt cid
  else .error (.invalidArgument s!"Invalid classId {cid}")

/-! ## What a lookup found -/

variable {kSize} {p : MemoryPool C} {i : Nat} {c : C}

lemma acAt_eq_ok {cid : Int} (h : p.acAt cid = .ok (i, c)) : p.ac[i]? = some c ∧ (i : Int) = cid := by
  unfold acAt at h
  split_ifs at h with hcid
  split at h <;> cases h
  exact ⟨‹_›, Int.toNat_of_nonneg hcid⟩

lemma getAllocationClassForId_eq_ok {cid : Int} (h : p.getAllocationClassForId cid = .ok (i, c)) :
    p.ac[i]? = some c ∧ (i : Int) = cid := by
  unfold getAllocationClassForId at h
  split_ifs at h
  exact acAt_eq_ok h

lemma getAllocationClassFor_eq_ok {size : Nat} (h : p.getAllocationClassFor size = .ok (i, c)) :
    p.ac[i]? = some c ∧ p.getAllocationClassId size = .ok (i : Int) := by
  unfold getAllocationClassFor at h
  cases hid : p.getAllocationClassId size with
  | error e => rw [hid] at h; cases h
  | ok cid =>
    rw [hid] at h
    obtain ⟨h1, h2⟩ := acAt_eq_ok h
    exact ⟨h1, h2 ▸ rfl⟩

lemma getAllocationClassForMemory_eq_ok {memory : Nat}
    (h : p.getAllocationClassForMemory kSize memory = .ok (i, c)) :
    p.ac[i]? = some c ∧ p.getAllocationClassIdOfMemory kSize memory = .ok (i : Int) := by
  unfold getAllocationClassForMemory at h
  cases hid : p.getAllocationClassIdOfMemory kSize memory with
  | error e => rw [hid] at h; cases h
  | ok cid =>
    rw [hid] at h
    obtain ⟨h1, h2⟩ := acAt_eq_ok h
    exact ⟨h1, h2 ▸ rfl⟩

end MemoryPool

end SlabPool
