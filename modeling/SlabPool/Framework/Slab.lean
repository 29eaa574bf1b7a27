import Mathlib.Order.Basic

/-!
# Slabs, slab headers and release contexts

The vocabulary `MemoryPool.cpp` and `AllocationClass.h` share.  `Slab.h` and the declaration
of `SlabReleaseContext` are not among the sources, so the types here follow the spec's account
of them (§3, §6): a slab is named by its index in the slab allocator's memory, pool and class
ids are signed integers whose sentinel is `-1`, and a header carries
`{poolId, classId, allocSize, advised, markedForRelease}`.

Ids are `Int` rather than `int8_t`: every statement over them then covers every value the
narrower type can hold.  `Slab::kSize` is a compile-time constant of the missing `Slab.h`, so
every definition that reads it takes it as the parameter `kSize`.

How a call ends other than by returning is a `Fault`: one of the exceptions the sources throw,
or an index of `ac_` outside its bounds, which the source does not guard against and which is
undefined behaviour there.
-/

namespace SlabPool

/-- A slab, named by its index in the slab allocator's memory: its bytes are
`[idx * kSize, (idx + 1) * kSize)`. -/
structure Slab where
  idx : Nat
deriving DecidableEq, Repr

namespace Slab

/-- `Slab::kInvalidPoolId`. -/
def kInvalidPoolId : Int := -1

/-- `Slab::kInvalidClassId`. -/
def kInvalidClassId : Int := -1

/-- The first byte of a slab. -/
def base (kSize : Nat) (s : Slab) : Nat := s.idx * kSize

end Slab

/-- The per-slab header the slab allocator keeps.  A fresh header names no pool and no class. -/
structure SlabHeader where
  poolId : Int := Slab.kInvalidPoolId
  classId : Int := Slab.kInvalidClassId
  allocSize : Nat := 0
  advised : Bool := false
  markedForRelease : Bool := false
deriving DecidableEq, Repr

/-- The two slab release modes: `kResize` hands the slab back to the slab allocator, and
`kRebalance` keeps it in the pool, for a receiving class or for the pool's free slabs. -/
inductive SlabReleaseMode
  | kResize
  | kRebalance
deriving DecidableEq, Repr

/-- The handle of one slab release.  `isReleased` means the slab already left its class when
the context was made, so `completeSlabRelease` has nothing left to do. -/
structure SlabReleaseContext where
  slab : Slab
  poolId : Int
  classId : Int
  activeAllocations : List Nat
  mode : SlabReleaseMode
  isReleased : Bool
  receiver : Int := Slab.kInvalidClassId
deriving DecidableEq, Repr

/-- `SlabReleaseContext::setReceiver`. -/
@[simps] def SlabReleaseContext.setReceiver (ctx : SlabReleaseContext) (receiver : Int) :
    SlabReleaseContext :=
  { ctx with receiver := receiver }

/-- `SlabReleaseAbortFn`, polled between pruning batches: its answer at the `n`-th poll. -/
abbrev SlabReleaseAbortFn := Nat → Bool

/-- How a call ends other than by returning. -/
inductive Fault
  /-- `std::invalid_argument` with its message. -/
  | invalidArgument (what : String)
  /-- `std::runtime_error` with its message. -/
  | runtimeError (what : String)
  /-- `exception::SlabReleaseAborted`. -/
  | slabReleaseAborted (what : String)
  /-- `completeSlabRelease` waits for frees that a sequential run never makes. -/
  | blocked
  /-- `ac_[cid]` with `cid` outside `[0, ac_.size())`: undefined behaviour in the source. -/
  | indexOutOfBounds (cid : Int)
deriving DecidableEq, Repr

/-- A fault the source throws, as opposed to an out-of-bounds index or a call that never
returns. -/
def Fault.IsThrow : Fault → Prop
  | .invalidArgument _ | .runtimeError _ | .slabReleaseAborted _ => True
  | .blocked | .indexOutOfBounds _ => False

end SlabPool
