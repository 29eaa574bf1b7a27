import SlabPool.Properties.InterleavedSlabCount
import SlabPool.Properties.StateCheck

/-!
# Quiescent states of an interleaving

A state in which every thread is idle is one no call is in the middle of.  Under an interleaving
that frees only chunks the classes have out, never resizes from the free slabs and names no
receiver outside the pool's classes, such a state is as calls made one after another leave it:
what each thread had still to take off either counter is gone (`Pc.pending`, `Pc.tokens`), so
`currAllocSize_` is the bytes handed out and `currSlabAllocSize_` the slabs the classes hold,
`checkState()` passes, and `getCurrentUsedSize()` is `Slab::kSize` times the slabs the pool owns.

Between two such states `checkState()` need not pass: a `free` whose `releaseSlab` has taken the
slab's unit off `currSlabAllocSize_` has not yet taken the chunk's size off `currAllocSize_`, and
until it does `currAllocSize_ ≤ currSlabAllocSize_` fails.
-/

namespace SlabPool

namespace MemoryPool

variable {C : Type} {ops : AllocationClassOps C} {kSize kMinAllocSize : Nat} {sa₀ : SlabAllocator}
  {id : Int} {poolSize : Nat} {allocSizes : List Nat} {p₀ : MemoryPool C}
  {calls : List PoolCall} {s : System C}

/-- What idle threads have still to do, by any measure that gives an idle thread nothing. -/
lemma sum_map_eq_zero_of_idle (f : Pc → Nat) (hf : f .idle = 0) {l : List Pc}
    (h : ∀ pc ∈ l, pc = .idle) : (l.map f).sum = 0 :=
  List.sum_eq_zero fun x hx => by
    obtain ⟨pc, hpc, rfl⟩ := List.mem_map.1 hx
    rw [h pc hpc, hf]

/-- **Every quiescent state passes `checkState()`.**  From a constructed pool, under any
interleaving of the steps of any number of threads in which every `free` begins on a chunk a class
has out, no call resizes from the free slabs and none names a receiver outside the pool's classes:
whenever every thread is idle, `checkState()` passes, and `getCurrentUsedSize()` is `Slab::kSize`
times the slabs on `freeSlabs_` and in the classes.  The slab region has to fit in a `size_t`. -/
theorem checkState_quiescent_interleaved (hops : ops.Lawful kSize) (hsa : sa₀.WellFormed)
    (hfit : kSize * sa₀.numSlabs < 2 ^ 64)
    (hcreate : create ops kSize kMinAllocSize id poolSize sa₀ allocSizes = .ok p₀)
    (hi : FreesLive ops kSize p₀ calls s) (hno : ∀ c ∈ calls, c.releasesFreeSlab = false)
    (hout : outsideReceiverCalls allocSizes.length calls = 0)
    (hidle : ∀ pc ∈ s.threads, pc = .idle) :
    checkState ops kSize kMinAllocSize s.pool = .ok () ∧
      s.pool.getCurrentUsedSize kSize =
        kSize * (s.pool.freeSlabs ++ s.pool.ac.flatMap ops.held).length := by
  have hi' := hi.toInterleaving
  have hf := hi'.frame
  obtain ⟨-, lost, hp, -⟩ := create_placed hops hsa hcreate hi'
  obtain ⟨ha, -⟩ := create_accounted hops hsa hcreate hi
  obtain ⟨m, hc, hm⟩ := create_counted hops hsa hcreate hi' hno
  rw [AllocCounted, sum_map_eq_zero_of_idle Pc.pending rfl hidle, Nat.add_zero] at ha
  rw [SlabsCounted, heldCount, sum_map_eq_zero_of_idle Pc.tokens rfl hidle, Nat.zero_add,
    show m = 0 by omega, Nat.add_zero] at hc
  have hslabs := Nat.mul_le_mul_left kSize hp.length_slabs_le
  rw [hf.numSlabs, (create_constructed hops hcreate).1.slabAllocator, slabs, List.length_append,
    Nat.mul_add] at hslabs
  have hlive := hp.liveBytes_le hops
  rw [Nat.mod_eq_of_lt (by omega)] at ha hc
  refine ⟨(CheckedState.of_frame hops hcreate hf hp (by omega)).checkState, ?_⟩
  rw [getCurrentUsedSize, hc, List.length_append, sizeAdd, Nat.mul_comm s.pool.freeSlabs.length,
    Nat.mod_eq_of_lt (by omega), Nat.mod_eq_of_lt (by omega), Nat.mul_add, Nat.add_comm]

/-- Two threads take a slab each, racing through `allocate`'s slow path, and thread 0 frees its
chunk, which sends its slab back to the allocator: once both are idle `checkState()` passes, with
the one slab class 0 holds counted. -/
theorem checkState_quiescent_after_race :
    let ops := ReferenceClass.ops 8 1
    let p₀ : MemoryPool ReferenceClass :=
      { id := 0, maxSize := 16, slabAllocator := SlabAllocator.init 1 2, acSizes := [8],
        ac := [{ constants := ⟨0, 0, 8⟩, held := [], live := [], releasing := [] }],
        freeSlabs := [], currAllocSize := 0, currSlabAllocSize := 0, nSlabResize := 0,
        nSlabRebalance := 0, nSlabReleaseAborted := 0 }
    ∃ calls s, runSchedule ops 8 [] ⟨p₀, List.replicate 2 .idle⟩ [(0, some (.allocate 8)),
        (1, some (.allocate 8)), (0, none), (1, none), (0, none), (1, none),
        (0, some (.free 8)), (0, none), (0, none), (0, none)] = some (calls, s) ∧
      s.pool.currSlabAllocSize = 8 ∧ checkState ops 8 1 s.pool = .ok () ∧
      s.pool.getCurrentUsedSize 8 = 8 * (s.pool.freeSlabs ++ s.pool.ac.flatMap ops.held).length := by
  intro ops p₀
  have hcreate : create ops 8 1 0 16 (SlabAllocator.init 1 2) [8] = .ok p₀ := rfl
  have hrun : ((runSchedule ops 8 [] ⟨p₀, List.replicate 2 .idle⟩ [(0, some (.allocate 8)),
      (1, some (.allocate 8)), (0, none), (1, none), (0, none), (1, none),
      (0, some (.free 8)), (0, none), (0, none), (0, none)]).map fun x =>
        (x.1.all fun c => !c.releasesFreeSlab, outsideReceiverCalls 1 x.1,
          x.2.threads.all (· == .idle), x.2.pool.currSlabAllocSize)) =
        some (true, 0, true, 8) := by
    decide
  have hok : freesLiveSchedule ops 8 ⟨p₀, List.replicate 2 .idle⟩ [(0, some (.allocate 8)),
      (1, some (.allocate 8)), (0, none), (1, none), (0, none), (1, none),
      (0, some (.free 8)), (0, none), (0, none), (0, none)] = true := by
    decide
  obtain ⟨⟨calls, s⟩, h, hv⟩ := Option.map_eq_some'.1 hrun
  simp only [Prod.mk.injEq] at hv
  obtain ⟨hno, hout, hidle, hcurr⟩ := hv
  exact ⟨calls, s, h, hcurr, checkState_quiescent_interleaved (ReferenceClass.lawful Nat.one_pos)
    (SlabAllocator.WellFormed.init 1 2) (by decide) hcreate (FreesLive.of_runSchedule (.init 2) h hok)
    (by simpa using hno) hout (by simpa using hidle)⟩

/-- Not between quiescent states: thread 0's `free` has taken its slab's unit off
`currSlabAllocSize_` and not yet its chunk's size off `currAllocSize_`, and `checkState()` throws. -/
example :
    let ops := ReferenceClass.ops 8 1
    let p₀ : MemoryPool ReferenceClass :=
      { id := 0, maxSize := 16, slabAllocator := SlabAllocator.init 1 2, acSizes := [8],
        ac := [{ constants := ⟨0, 0, 8⟩, held := [], live := [], releasing := [] }],
        freeSlabs := [], currAllocSize := 0, currSlabAllocSize := 0, nSlabResize := 0,
        nSlabRebalance := 0, nSlabReleaseAborted := 0 }
    ((runSchedule ops 8 [] ⟨p₀, [.idle]⟩ [(0, some (.allocate 8)), (0, none), (0, none),
        (0, some (.free 8)), (0, none), (0, none)]).map fun x =>
      (checkState ops 8 1 x.2.pool).isOk) = some false := by
  decide

end MemoryPool

end SlabPool
