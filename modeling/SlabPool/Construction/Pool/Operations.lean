import SlabPool.Construction.Pool.Basic

/-!
# `MemoryPool`: the operations

`allocate`, `free`, `releaseSlab` and the three slab-release entry points, each a call in
`PoolM`: it returns or throws, and leaves the pool in the state it reached, as a C++ member
function that throws leaves its object.  Calls into a class go through the class's
`AllocationClassOps`; a class call that throws leaves its class unchanged, so the pool's state
at the throw is whatever the pool itself had already written.

`allSlabsAllocated()` is declared in `MemoryPool.h`, which is not among the sources; the spec
gives it as `currSlabAllocSize ≥ maxSize` (§4.2).

Every write the calls make to the pool's fields is a function of the pool of its own
(`setClass`, `addAllocSize`, `freeSlabToAllocator`, …), and the calls are split where other
threads can come between their steps (`allocateFast` and `allocateLocked`, `freeToClass`,
`obtainReleaseContext`, `completeInClass`), so that the threads of `Threads.lean` take the same
steps as the calls: `freeSlabToAllocator`, `pushFreeSlab` and `decrementSlabAllocSize` are the
two halves of the branches of `releaseSlab` that other threads can see between, and
`getSlabLocked` is the locked section of `allocate`'s slow path.
-/

namespace SlabPool

namespace MemoryPool

variable {C : Type} (ops : AllocationClassOps C) (kSize : Nat)

/-- Raise a lookup's fault, or carry on with its value. -/
def liftExcept {α : Type} : Except Fault α → PoolM C α
  | .ok a => pure a
  | .error e => throw e

/-! ## The writes

Each write the operations make to the pool's fields, as a function of the pool. -/

/-- `ac_[i]` after a call on the class at index `i`. -/
@[simps] def setClass (i : Nat) (c : C) (p : MemoryPool C) : MemoryPool C :=
  { p with ac := p.ac.set i c }

/-- The slab headers after a class call has written them. -/
def setHeaders (h : SlabHeaders) (p : MemoryPool C) : MemoryPool C :=
  { p with slabAllocator := { p.slabAllocator with headers := h } }

/-- `currAllocSize_ += n`. -/
@[simps] def addAllocSize (n : Nat) (p : MemoryPool C) : MemoryPool C :=
  { p with currAllocSize := sizeAdd p.currAllocSize n }

/-- `currAllocSize_ -= n`. -/
@[simps] def subAllocSize (n : Nat) (p : MemoryPool C) : MemoryPool C :=
  { p with currAllocSize := sizeSub p.currAllocSize n }

/-- `currSlabAllocSize_ += Slab::kSize`. -/
@[simps] def incrementSlabAllocSize (p : MemoryPool C) : MemoryPool C :=
  { p with currSlabAllocSize := sizeAdd p.currSlabAllocSize kSize }

/-- `currSlabAllocSize_ -= Slab::kSize`. -/
@[simps] def decrementSlabAllocSize (p : MemoryPool C) : MemoryPool C :=
  { p with currSlabAllocSize := sizeSub p.currSlabAllocSize kSize }

/-- `slabAllocator_.freeSlab(slab)`. -/
@[simps] def freeSlabToAllocator (slab : Slab) (p : MemoryPool C) : MemoryPool C :=
  { p with slabAllocator := p.slabAllocator.freeSlab slab }

/-- `freeSlabs_.push_back(slab)`, under `lock_`. -/
@[simps] def pushFreeSlab (slab : Slab) (p : MemoryPool C) : MemoryPool C :=
  { p with freeSlabs := slab :: p.freeSlabs }

/-- `++nSlabResize_`. -/
@[simps] def countResize (p : MemoryPool C) : MemoryPool C :=
  { p with nSlabResize := p.nSlabResize + 1 }

/-- `++nSlabRebalance_`. -/
@[simps] def countRebalance (p : MemoryPool C) : MemoryPool C :=
  { p with nSlabRebalance := p.nSlabRebalance + 1 }

/-- `++nSlabReleaseAborted_`. -/
@[simps] def countAborted (p : MemoryPool C) : MemoryPool C :=
  { p with nSlabReleaseAborted := p.nSlabReleaseAborted + 1 }

section SetHeaders

variable (h : SlabHeaders) (p : MemoryPool C)

@[simp] lemma setHeaders_slabAllocator :
    (setHeaders h p).slabAllocator = { p.slabAllocator with headers := h } := rfl
@[simp] lemma setHeaders_id : (setHeaders h p).id = p.id := rfl
@[simp] lemma setHeaders_maxSize : (setHeaders h p).maxSize = p.maxSize := rfl
@[simp] lemma setHeaders_acSizes : (setHeaders h p).acSizes = p.acSizes := rfl
@[simp] lemma setHeaders_ac : (setHeaders h p).ac = p.ac := rfl
@[simp] lemma setHeaders_freeSlabs : (setHeaders h p).freeSlabs = p.freeSlabs := rfl
@[simp] lemma setHeaders_currAllocSize : (setHeaders h p).currAllocSize = p.currAllocSize := rfl
@[simp] lemma setHeaders_currSlabAllocSize :
    (setHeaders h p).currSlabAllocSize = p.currSlabAllocSize := rfl

end SetHeaders

/-- Modelled from the spec: `allSlabsAllocated()`, `currSlabAllocSize ≥ maxSize` (§4.2). -/
def allSlabsAllocated (p : MemoryPool C) : Bool := p.maxSize ≤ p.currSlabAllocSize

/-- `getSlabLocked()`, which is `noexcept`: bump the size first, then take a free slab or a new
one from the slab allocator, and bump the size back down if there is none. -/
def getSlabLocked (p : MemoryPool C) : Option Slab × MemoryPool C :=
  if p.allSlabsAllocated then (none, p)
  else
    let p := incrementSlabAllocSize kSize p
    match p.freeSlabs with
    | s :: rest => (some s, { p with freeSlabs := rest })
    | [] =>
      match p.slabAllocator.makeNewSlab p.id with
      | (some s, sa) => (some s, { p with slabAllocator := sa })
      | (none, sa) => (none, decrementSlabAllocSize kSize { p with slabAllocator := sa })

/-- `releaseSlab(mode, slab, receiverClassId)`. -/
def releaseSlab (mode : SlabReleaseMode) (slab : Slab) (receiverClassId : Int) :
    PoolM C Unit :=
  match mode with
  | .kResize => do
    modify (freeSlabToAllocator slab)
    modify (decrementSlabAllocSize kSize)
    modify countResize
  | .kRebalance => do
    if receiverClassId ≠ Slab.kInvalidClassId then
      let (j, receiverAC) ← liftExcept ((← get).getAllocationClassForId receiverClassId)
      let (receiverAC, h) := ops.addSlab receiverAC (← get).slabAllocator.headers slab
      modify (setClass j receiverAC)
      modify (setHeaders h)
    else
      modify (pushFreeSlab slab)
      modify (decrementSlabAllocSize kSize)
    modify countRebalance

/-- The fast path of `allocate(size)`: the class of the size, its `allocate()`, and the class's
chunk size.  It returns the class's index, its chunk size and the chunk, if any. -/
def allocateFast (size : Nat) : PoolM C (Nat × Nat × Option Nat) := do
  let (i, ac) ← liftExcept ((← get).getAllocationClassFor size)
  let (alloc, ac) := ops.allocate ac
  modify (setClass i ac)
  let allocSize := (ops.constants ac).allocationSize
  if alloc.isSome then modify (addAllocSize allocSize)
  return (i, allocSize, alloc)

/-- The slow path of `allocate(size)`, under `lock_`, on the class `ac_[i]`: its `allocate()`
again, then a slab from `getSlabLocked` for `addSlabAndAllocate`. -/
def allocateLocked (i allocSize : Nat) : PoolM C (Option Nat) := do
  let (i, ac) ← liftExcept ((← get).acAt i)
  let (alloc, ac) := ops.allocate ac
  modify (setClass i ac)
  if let some a := alloc then
    modify (addAllocSize allocSize)
    return some a
  let (slab, p) := getSlabLocked kSize (← get)
  set p
  let some slab := slab | return none
  let (a, ac, h) := ops.addSlabAndAllocate ac p.slabAllocator.headers slab
  modify (setClass i ac)
  modify (setHeaders h)
  modify (addAllocSize allocSize)
  return some a

/-- `allocate(size)`.  `ac` is a reference to `ac_[i]`, which the slow path reads again. -/
def allocate (size : Nat) : PoolM C (Option Nat) := do
  let (i, allocSize, alloc) ← allocateFast ops size
  if alloc.isSome then return alloc
  if (← get).allSlabsAllocated then return none
  allocateLocked ops kSize i allocSize

/-- The part of `free(alloc)` before its `releaseSlab`: the class of the chunk's slab header takes
the chunk back and says whether it gave the slab up; its chunk size comes with the answer. -/
def freeToClass (alloc : Nat) : PoolM C (Bool × Nat) := do
  let (i, ac) ← liftExcept ((← get).getAllocationClassForMemory kSize alloc)
  let (released, ac) ← liftExcept (ops.free ac alloc)
  modify (setClass i ac)
  return (released, (ops.constants ac).allocationSize)

/-- `free(alloc)`. -/
def free (alloc : Nat) : PoolM C Unit := do
  let (released, allocSize) ← freeToClass ops kSize alloc
  if released then
    releaseSlab ops kSize .kResize (SlabAllocator.getSlabForMemory kSize alloc)
      Slab.kInvalidClassId
  modify (subAllocSize allocSize)

/-- `releaseFromFreeSlabs()`. -/
def releaseFromFreeSlabs : PoolM C SlabReleaseContext := do
  let p ← get
  match p.freeSlabs with
  | [] => throw (.invalidArgument "Pool does not have any free slabs outside of allocation class ")
  | slab :: rest =>
    set { p with freeSlabs := rest }
    return { slab, poolId := p.id, classId := Slab.kInvalidClassId, activeAllocations := [],
             mode := .kResize, isReleased := true }

/-- The part of `startSlabRelease(victim, receiver, mode, hint, shouldAbortFn)` before its
`releaseSlab`: the checks, and the context from `freeSlabs_` or from the victim class, with the
receiver set.  The header it looks up for `hint` is never read, and is left out. -/
def obtainReleaseContext (victim receiver : Int) (mode : SlabReleaseMode) (hint : Nat)
    (shouldAbortFn : SlabReleaseAbortFn) : PoolM C SlabReleaseContext := do
  if receiver ≠ Slab.kInvalidClassId ∧ mode ≠ .kRebalance then
    throw (.invalidArgument (s!"A valid receiver {receiver} is specified but the rebalancing " ++
      "mode is not SlabReleaseMode::kRebalance"))
  if victim = Slab.kInvalidClassId ∧ mode ≠ .kResize then
    throw (.invalidArgument "can not obtain from free slab pool when not using resizing mode")
  let context ← if victim = Slab.kInvalidClassId then releaseFromFreeSlabs else do
    let (i, ac) ← liftExcept ((← get).getAllocationClassForId victim)
    let (ctx, ac, h) ←
      liftExcept (ops.startSlabRelease ac (← get).slabAllocator.headers mode hint shouldAbortFn)
    modify (setClass i ac)
    modify (setHeaders h)
    pure ctx
  return context.setReceiver receiver

/-- `startSlabRelease(victim, receiver, mode, hint, shouldAbortFn)`. -/
def startSlabRelease (victim receiver : Int) (mode : SlabReleaseMode) (hint : Nat)
    (shouldAbortFn : SlabReleaseAbortFn) : PoolM C SlabReleaseContext := do
  let context ← obtainReleaseContext ops victim receiver mode hint shouldAbortFn
  if context.isReleased then
    releaseSlab ops kSize context.mode context.slab receiver
  return context

/-- `abortSlabRelease(context)`. -/
def abortSlabRelease (context : SlabReleaseContext) : PoolM C Unit := do
  let (i, allocClass) ← liftExcept ((← get).getAllocationClassForId context.classId)
  let (allocClass, h) ←
    liftExcept (ops.abortSlabRelease allocClass (← get).slabAllocator.headers context)
  modify (setClass i allocClass)
  modify (setHeaders h)
  modify countAborted

/-- The part of `completeSlabRelease(context)` before its `releaseSlab`: whether the class has
given the slab up. -/
def completeInClass (context : SlabReleaseContext) : PoolM C Bool := do
  if context.isReleased then return false
  let receiver := context.receiver
  if receiver ≠ Slab.kInvalidClassId ∧ context.mode ≠ .kRebalance then
    throw (.invalidArgument (s!"A valid receiver {receiver} is specified but the rebalancing " ++
      "mode is not SlabReleaseMode::kRebalance"))
  let (i, allocClass) ← liftExcept ((← get).getAllocationClassForId context.classId)
  let (done, allocClass, h) ←
    liftExcept (ops.completeSlabRelease allocClass (← get).slabAllocator.headers context)
  modify (setClass i allocClass)
  modify (setHeaders h)
  return done

/-- `completeSlabRelease(context)`. -/
def completeSlabRelease (context : SlabReleaseContext) : PoolM C Unit := do
  if ← completeInClass ops context then
    releaseSlab ops kSize context.mode context.slab context.receiver

/-- `getCurrentUsedSize()`. -/
def getCurrentUsedSize (p : MemoryPool C) : Nat :=
  sizeAdd p.currSlabAllocSize ((p.freeSlabs.length * kSize) % 2 ^ 64)

/-! ## Runs -/

/-- A call a caller of the pool makes. -/
inductive PoolCall
  | allocate (size : Nat)
  | free (memory : Nat)
  | startSlabRelease (victim receiver : Int) (mode : SlabReleaseMode) (hint : Nat)
      (shouldAbortFn : SlabReleaseAbortFn)
  | completeSlabRelease (context : SlabReleaseContext)
  | abortSlabRelease (context : SlabReleaseContext)

/-- What a call returns. -/
inductive PoolReturn
  | pointer (alloc : Option Nat)
  | unit
  | context (context : SlabReleaseContext)

/-- Run one call. -/
def call : PoolCall → PoolM C PoolReturn
  | .allocate size => .pointer <$> allocate ops kSize size
  | .free memory => (fun _ => .unit) <$> free ops kSize memory
  | .startSlabRelease victim receiver mode hint shouldAbortFn =>
    .context <$> startSlabRelease ops kSize victim receiver mode hint shouldAbortFn
  | .completeSlabRelease context => (fun _ => .unit) <$> completeSlabRelease ops kSize context
  | .abortSlabRelease context => (fun _ => .unit) <$> abortSlabRelease ops context

/-- The states a pool reaches from `p₀` by calls that return normally, with the calls and what
they returned. -/
inductive Reachable (p₀ : MemoryPool C) : List (PoolCall × PoolReturn) → MemoryPool C → Prop
  | init : Reachable p₀ [] p₀
  | step {tr : List (PoolCall × PoolReturn)} {p p' : MemoryPool C} {c : PoolCall}
      {r : PoolReturn} :
      Reachable p₀ tr p → call ops kSize c p = .ok r p' → Reachable p₀ (tr ++ [(c, r)]) p'

/-- The calls `cs` made one after another from `p`, after the run `tr`: the longer run and its
last state, or `none` once a call throws. -/
def runCalls (tr : List (PoolCall × PoolReturn)) (p : MemoryPool C) :
    List PoolCall → Option (List (PoolCall × PoolReturn) × MemoryPool C)
  | [] => some (tr, p)
  | c :: cs =>
    match call ops kSize c p with
    | .ok r p' => runCalls (tr ++ [(c, r)]) p' cs
    | .error _ _ => none

end MemoryPool

end SlabPool
