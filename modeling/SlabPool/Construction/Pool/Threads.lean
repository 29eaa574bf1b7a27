import SlabPool.Construction.Pool.Operations

/-!
# `MemoryPool` under concurrent calls

Threads call the pool at once.  `lock_` is held by `allocate`'s slow path (through
`getSlabLocked`, `makeNewSlab` and `addSlabAndAllocate`), by `releaseFromFreeSlabs` and by
`releaseSlab`'s push onto `freeSlabs_`; the two counters are atomics; a class's members are
atomic to the pool, the class having its own locks.  A call is therefore a sequence of steps no
other thread splits, and any other thread's steps can come between two of them:

* `allocate`: the class's fast path; the unlocked `allSlabsAllocated()`; the slow path;
* `free`: the class's `free`; the steps of its `releaseSlab`; `currAllocSize_ -= allocSize`;
* `startSlabRelease` and `completeSlabRelease`: what comes before their `releaseSlab`, then its
  steps; `abortSlabRelease`: one step;
* `releaseSlab(kResize)`: `freeSlab`, then the decrement; `releaseSlab(kRebalance)` with no
  receiver: the locked push, then the decrement; to a receiver: its `addSlab`.

`Pc` says where a thread is, `beginCall` is a call's first step and `stepPc` every later one,
built from the same pieces as the calls of `Operations.lean`.  A `System` is the pool and its
threads; `next` lets one thread take one step, and `Interleaving` collects the systems the steps
of any threads, in any order, reach from a pool.
-/

namespace SlabPool

namespace MemoryPool

variable {C : Type} (ops : AllocationClassOps C) (kSize : Nat)

/-- Where a `releaseSlab(mode, slab, receiver)` is: the step named comes next. -/
inductive ReleaseStage
  /-- `kResize`: `slabAllocator_.freeSlab(slab)`. -/
  | freeSlab (slab : Slab)
  /-- `kResize`, after `freeSlab`: `currSlabAllocSize_ -= Slab::kSize`. -/
  | decrementResize
  /-- `kRebalance` with no receiver: the push onto `freeSlabs_`, under `lock_`. -/
  | push (slab : Slab)
  /-- `kRebalance` with no receiver, after the push: `currSlabAllocSize_ -= Slab::kSize`. -/
  | decrementRebalance
  /-- `kRebalance` to a receiver: the receiver's `addSlab(slab)`. -/
  | addTo (slab : Slab) (receiver : Int)
deriving DecidableEq, Repr

/-- Where a thread is in the call it makes: the step named comes next. -/
inductive Pc
  /-- In no call. -/
  | idle
  /-- `allocate`: class `i` had no chunk; the unlocked `allSlabsAllocated()` comes next. -/
  | allocCheck (i allocSize : Nat)
  /-- `allocate`: the slow path under `lock_` comes next. -/
  | allocLocked (i allocSize : Nat)
  /-- A `releaseSlab` in progress; `free`'s `currAllocSize_ -= allocSize` comes after it when
  `after` is `some allocSize`. -/
  | release (stage : ReleaseStage) (after : Option Nat)
  /-- `free`: `currAllocSize_ -= allocSize`. -/
  | subAlloc (allocSize : Nat)
deriving DecidableEq, Repr

/-- The first step of `releaseSlab(mode, slab, receiverClassId)`. -/
def releaseStart (mode : SlabReleaseMode) (slab : Slab) (receiverClassId : Int) : ReleaseStage :=
  match mode with
  | .kResize => .freeSlab slab
  | .kRebalance =>
    if receiverClassId ≠ Slab.kInvalidClassId then .addTo slab receiverClassId else .push slab

/-- Where a thread goes when its `releaseSlab` is done. -/
def afterRelease : Option Nat → Pc
  | some allocSize => .subAlloc allocSize
  | none => .idle

/-- A call's first step. -/
def beginCall : PoolCall → PoolM C Pc
  | .allocate size => do
    let (i, allocSize, alloc) ← allocateFast ops size
    return if alloc.isSome then .idle else .allocCheck i allocSize
  | .free memory => do
    let (released, allocSize) ← freeToClass ops kSize memory
    return if released then
      .release (.freeSlab (SlabAllocator.getSlabForMemory kSize memory)) (some allocSize)
    else .subAlloc allocSize
  | .startSlabRelease victim receiver mode hint shouldAbortFn => do
    let context ← obtainReleaseContext ops victim receiver mode hint shouldAbortFn
    return if context.isReleased then
      .release (releaseStart context.mode context.slab receiver) none
    else .idle
  | .completeSlabRelease context => do
    let done ← completeInClass ops context
    return if done then
      .release (releaseStart context.mode context.slab context.receiver) none
    else .idle
  | .abortSlabRelease context => do
    abortSlabRelease ops context
    return .idle

/-- One step of a `releaseSlab`, and the step after it, if any. -/
def releaseStep : ReleaseStage → PoolM C (Option ReleaseStage)
  | .freeSlab slab => do
    modify (freeSlabToAllocator slab)
    return some .decrementResize
  | .decrementResize => do
    modify (decrementSlabAllocSize kSize)
    modify countResize
    return none
  | .push slab => do
    modify (pushFreeSlab slab)
    return some .decrementRebalance
  | .decrementRebalance => do
    modify (decrementSlabAllocSize kSize)
    modify countRebalance
    return none
  | .addTo slab receiver => do
    let (j, receiverAC) ← liftExcept ((← get).getAllocationClassForId receiver)
    let (receiverAC, h) := ops.addSlab receiverAC (← get).slabAllocator.headers slab
    modify (setClass j receiverAC)
    modify (setHeaders h)
    modify countRebalance
    return none

/-- A busy thread's next step. -/
def stepPc : Pc → PoolM C Pc
  | .idle => return .idle
  | .allocCheck i allocSize => do
    return if (← get).allSlabsAllocated then .idle else .allocLocked i allocSize
  | .allocLocked i allocSize => do
    let _ ← allocateLocked ops kSize i allocSize
    return .idle
  | .release stage after => do
    match ← releaseStep ops kSize stage with
    | some stage => return .release stage after
    | none => return afterRelease after
  | .subAlloc allocSize => do
    modify (subAllocSize allocSize)
    return .idle

/-- The pool and where each of its threads is. -/
structure System (C : Type) where
  pool : MemoryPool C
  threads : List Pc

/-- The pool a step leaves and where it leaves the thread: a call that throws is over. -/
def settle : EStateM.Result Fault (MemoryPool C) Pc → MemoryPool C × Pc
  | .ok pc p => (p, pc)
  | .error _ p => (p, .idle)

/-- Thread `k` takes a step: an idle thread begins the call `call`, a busy one goes on with its
call. -/
def next (s : System C) (k : Nat) : Option PoolCall → Option (System C)
  | some call =>
    match s.threads[k]? with
    | some .idle =>
      let (p, pc) := settle (beginCall ops kSize call s.pool)
      some ⟨p, s.threads.set k pc⟩
    | _ => none
  | none =>
    match s.threads[k]? with
    | some .idle | none => none
    | some pc =>
      let (p, pc) := settle (stepPc ops kSize pc s.pool)
      some ⟨p, s.threads.set k pc⟩

/-- The systems reached from `p₀` with `n` idle threads by the steps of any threads in any order,
with the calls begun. -/
inductive Interleaving (p₀ : MemoryPool C) : List PoolCall → System C → Prop
  | init (n : Nat) : Interleaving p₀ [] ⟨p₀, List.replicate n .idle⟩
  | begin {calls : List PoolCall} {s s' : System C} {k : Nat} {call : PoolCall} :
      Interleaving p₀ calls s → next ops kSize s k (some call) = some s' →
      Interleaving p₀ (calls ++ [call]) s'
  | step {calls : List PoolCall} {s s' : System C} {k : Nat} :
      Interleaving p₀ calls s → next ops kSize s k none = some s' → Interleaving p₀ calls s'

/-- The steps `(thread, call)` of a schedule taken one after another, with the calls begun, or
`none` once a step cannot be taken. -/
def runSchedule (calls : List PoolCall) (s : System C) :
    List (Nat × Option PoolCall) → Option (List PoolCall × System C)
  | [] => some (calls, s)
  | (k, call) :: rest =>
    match next ops kSize s k call with
    | some s' => runSchedule (calls ++ call.toList) s' rest
    | none => none

end MemoryPool

end SlabPool
