import SlabPool.Properties.InterleavedAccounting

/-!
# The count of `currSlabAllocSize_`, under any interleaving

`SlabCount.lean` counts the slabs with `currSlabAllocSize_` over calls made one after another,
and `Interleaving.lean` shows that under any interleaving the counter is never behind.  It is
never ahead either.  `getSlabLocked` adds `Slab::kSize` in the step that hands the slab to its
class, or takes it off again in the same step when `makeNewSlab` has none; a `releaseSlab` takes
it off only in its last step, once the slab is back with the allocator or on `freeSlabs_`, and a
receiver class takes the slab with its unit.  So the counter is the slabs the classes hold, a unit
for each thread in the middle of a `releaseSlab`, and a unit for each slab lost on its way: a
`releaseSlab` whose receiver is outside the pool's classes throws with its slab, and leaves the
slab's unit on the counter for good.  As in `SlabCount.lean`, the free-slab resize is left out.

`System.Counted` is that count, with the lost units bounded as `System.Placed` bounds the lost
slabs; `next_counted` is one step of one thread.

The order of the decrement is what makes the counter's promise good: a thread that finds the pool
below its limit under `lock_` finds a slab, on `freeSlabs_` or with the allocator, as long as the
allocator had room for the pool's limit.  So `allocate`'s slow path returns `nullptr` only at the
limit (`allocateLocked_null_at_limit_interleaved`).
-/

namespace SlabPool

namespace MemoryPool

variable {C : Type} {ops : AllocationClassOps C} {kSize : Nat} {sa₀ : SlabAllocator}
variable {n bad : Nat} {T : List Slab} {p q : MemoryPool C} {e : Fault}

/-! ## One step -/

section Step

variable (hops : ops.Lawful kSize)
include hops

/-- A call's first step: a class call; a class that gave up a slab gives its unit to the
thread's `releaseSlab`. -/
lemma beginCall_counted {call : PoolCall} {pc : Pc} {N : Nat} (hc : call.releasesFreeSlab = false)
    (h : Consistent ops sa₀ T p) (hn : SlabsCounted ops kSize N p)
    (hb : beginCall ops kSize call p = .ok pc q) : SlabsCounted ops kSize (N + pc.tokens) q := by
  cases call with
  | allocate size =>
    obtain ⟨⟨i, allocSize, alloc⟩, q', hx, hret⟩ := bind_eq_ok.1 hb
    obtain ⟨c, c', hroute, halloc, rfl⟩ := allocateFast_eq_ok hx
    have hi := (getAllocationClassFor_eq_ok hroute).1
    have hq := hn.keepClass hi (length_held_allocate hops (h.class_wf _ _ hi) halloc)
    cases alloc <;> simp at hret <;> obtain ⟨rfl, rfl⟩ := hret <;> exact hq
  | free m =>
    obtain ⟨⟨b, allocSize⟩, q', hx, hret⟩ := bind_eq_ok.1 hb
    obtain ⟨i, c, c', hroute, hfree, rfl⟩ := freeToClass_eq_ok hx
    have hi := (getAllocationClassForMemory_eq_ok hroute).1
    obtain ⟨-, -, -, h4, h5⟩ := hops.free (h.class_wf _ _ hi) hfree
    cases b <;> simp at hret <;> obtain ⟨rfl, rfl⟩ := hret
    · exact hn.keepClass hi (h4 rfl).length_eq
    · exact hn.releaseClass hi (length_held_erase (h5 rfl).1 (h5 rfl).2)
  | startSlabRelease victim receiver mode hint fn =>
    have hv : victim ≠ Slab.kInvalidClassId := by simpa [PoolCall.releasesFreeSlab] using hc
    obtain ⟨_, q', hx, hret⟩ := bind_eq_ok.1 hb
    obtain ⟨i, c, ctx', c', hd, hroute, hs, rfl, rfl⟩ := obtainReleaseContext_eq_ok hv hx
    have hi := (getAllocationClassForId_eq_ok hroute).1
    obtain ⟨-, -, -, -, h5, h6⟩ := hops.startSlabRelease (h.class_wf _ _ hi) hs
    simp at hret
    obtain ⟨rfl, rfl⟩ := hret
    cases hrel : ctx'.isReleased
    · simpa [hrel] using (hn.keepClass hi (h5 hrel).length_eq :
        SlabsCounted ops kSize N (setHeaders hd (setClass i c' p)))
    · simpa [hrel] using (hn.releaseClass hi (length_held_erase (h6 hrel).1 (h6 hrel).2.1) :
        SlabsCounted ops kSize (N + 1) (setHeaders hd (setClass i c' p)))
  | completeSlabRelease ctx =>
    obtain ⟨done, q', hx, hret⟩ := bind_eq_ok.1 hb
    simp at hret
    obtain ⟨rfl, rfl⟩ := hret
    rcases completeInClass_eq_ok hx with ⟨rfl, rfl⟩ | ⟨i, c, c', hd, hroute, hs, rfl⟩
    · exact hn
    have hi := (getAllocationClassForId_eq_ok hroute).1
    obtain ⟨-, -, -, -, h5, h6⟩ := hops.completeSlabRelease (h.class_wf _ _ hi) hs
    cases done
    · exact hn.keepClass hi (h5 rfl).length_eq
    · simpa using (hn.releaseClass hi (length_held_erase (h6 rfl).1 (h6 rfl).2.1) :
        SlabsCounted ops kSize (N + 1) (setHeaders hd (setClass i c' p)))
  | abortSlabRelease ctx =>
    obtain ⟨_, q', hx, hret⟩ := bind_eq_ok.1 hb
    simp at hret
    obtain ⟨rfl, rfl⟩ := hret
    cases abortSlabRelease_path hx with
    | abort hroute hs =>
      have hi := (getAllocationClassForId_eq_ok hroute).1
      obtain ⟨-, -, h3, -⟩ := hops.abortSlabRelease (h.class_wf _ _ hi) hs
      exact hn.keepClass hi h3.length_eq

/-- `allocate`'s slow path: the slab `getSlabLocked` counts goes to the class at once, and a
`makeNewSlab` that has none takes its unit off again. -/
lemma LockedPath.counted {i allocSize N : Nat} (h : Consistent ops sa₀ T p)
    (hn : SlabsCounted ops kSize N p) (hl : LockedPath ops kSize i allocSize p q) :
    SlabsCounted ops kSize N q := by
  cases hl with
  | retry hi ha => exact hn.keepClass hi (length_held_allocate hops (h.class_wf _ _ hi) ha)
  | noSlab hi ha hsl =>
    exact hsl.counted_none (hn.keepClass hi (length_held_allocate hops (h.class_wf _ _ hi) ha))
  | newSlab hi ha hsl haa =>
    have hq := hsl.consistent_some (h.allocateClass hops hi ha)
    have hi' : _ = some _ := (congrArg (·[i]?) hsl.ac).trans (getElem?_setClass_self hi)
    have hs := fun hs => hq.not_mem_transit (mem_slabs_of_held hi' hs) (List.mem_cons_self _ _)
    obtain ⟨-, -, g3, -⟩ := hops.addSlabAndAllocate (hq.class_wf _ _ hi') hs haa
    exact (hsl.counted_some (hn.keepClass hi (length_held_allocate hops (h.class_wf _ _ hi)
      ha))).addClass hi' (by simpa using g3.length_eq)

/-- A busy thread's step: the decrement of a `releaseSlab` takes its unit off, a receiver class
takes the slab with its unit, and no other step moves a unit. -/
lemma stepPc_counted {pc pc' : Pc} {N : Nat} (h : Consistent ops sa₀ (pc.transit ++ T) p)
    (hn : SlabsCounted ops kSize (N + pc.tokens) p) (hs : stepPc ops kSize pc p = .ok pc' q) :
    SlabsCounted ops kSize (N + pc'.tokens) q := by
  cases stepPc_path hs with
  | idle | freeSlab | push | subAlloc => exact hn
  | check => split <;> exact hn
  | locked hl => exact hl.counted hops h hn
  | decrementResize | decrementRebalance =>
    rw [tokens_afterRelease, Nat.add_zero]
    exact hn.decrement rfl rfl
  | addTo hj hadd =>
    have hi := (getAllocationClassForId_eq_ok hj).1
    simp only [Pc.transit, ReleaseStage.transit, List.singleton_append] at h
    have hs := fun hs => h.not_mem_transit (mem_slabs_of_held hi hs) (List.mem_cons_self _ _)
    obtain ⟨-, -, h3, -⟩ := hops.addSlab (h.class_wf _ _ hi) hs hadd
    rw [tokens_afterRelease, Nat.add_zero]
    exact hn.addClass hi (by simpa using h3.length_eq)

omit hops in
/-- A busy thread's step throws only at the lookup of a receiver outside the pool's classes, and
the unit of the slab it loses stays on the counter. -/
lemma stepPc_eq_error_tokens {pc : Pc} (hs : stepPc ops kSize pc p = .error e q) :
    pc.tokens ≤ pc.lossy p.ac.length := by
  have hl := stepPc_eq_error_lossy hs
  obtain ⟨-, ⟨i, allocSize, rfl⟩ | ⟨slab, receiver, after, e', rfl, -⟩⟩ := stepPc_eq_error_cases hs
  · exact Nat.zero_le _
  · simpa [ReleaseStage.transit] using hl

end Step

/-- `allocate`'s slow path that hands out nothing: the class had no chunk, and `getSlabLocked`
no slab. -/
lemma allocateLocked_eq_none {i allocSize : Nat}
    (h : allocateLocked ops kSize i allocSize p = .ok none q) :
    ∃ c c', p.ac[i]? = some c ∧ ops.allocate c = (none, c') ∧
      SlabLockedPath kSize (setClass i c' p) none q := by
  obtain ⟨c, c', hi, ⟨a, -, h, -⟩ | ⟨h1, -, hs⟩ | ⟨s, q', a, c'', hd, -, -, -, h, -⟩⟩ :=
    allocateLocked_eq_ok h
  · cases h
  · exact ⟨c, c', hi, h1, hs⟩
  · cases h

/-! ## Every interleaving -/

variable (ops kSize) in
/-- The count of `currSlabAllocSize_` in a system whose pool has `n` classes: the slabs the
classes hold, a unit for each thread in a `releaseSlab`, and the units `m` of slabs lost on their
way, which with the slabs the threads may yet lose are at most `bad`. -/
def System.Counted (n bad : Nat) (s : System C) : Prop :=
  ∃ m, SlabsCounted ops kSize ((s.threads.map Pc.tokens).sum + m) s.pool ∧
    m + (s.threads.map (Pc.lossy n)).sum ≤ bad

/-- The count of a system seen from its thread `k`: the pool's with the units `N` of everyone
else, and back again once the thread has stepped, with the units `m'` it lost. -/
lemma System.Counted.focus {s : System C} {k : Nat} {pc : Pc} (hs : s.Counted ops kSize n bad)
    (hk : s.threads[k]? = some pc) :
    ∃ N M, SlabsCounted ops kSize (N + pc.tokens) s.pool ∧ M + pc.lossy n ≤ bad ∧
      ∀ (pc' : Pc) (q : MemoryPool C) (m' bad' : Nat),
        SlabsCounted ops kSize (N + m' + pc'.tokens) q → M + m' + pc'.lossy n ≤ bad' →
        (⟨q, s.threads.set k pc'⟩ : System C).Counted ops kSize n bad' := by
  obtain ⟨m, hc, hbad⟩ := hs
  have hk' : (s.threads.set k .idle)[k]? = some .idle :=
    List.getElem?_set_self (List.getElem?_eq_some_iff.1 hk).1
  have ht := sum_map_set Pc.tokens s.threads k .idle pc hk
  have hl := sum_map_set (Pc.lossy n) s.threads k .idle pc hk
  rw [Pc.tokens_idle, Nat.add_zero] at ht
  rw [Pc.lossy_idle, Nat.add_zero] at hl
  refine ⟨((s.threads.set k .idle).map Pc.tokens).sum + m,
    m + ((s.threads.set k .idle).map (Pc.lossy n)).sum, ?_, by omega, ?_⟩
  · rwa [Nat.add_right_comm, ht]
  · intro pc' q m' bad' hq hbad'
    have ht' := sum_map_set Pc.tokens (s.threads.set k .idle) k pc' .idle hk'
    have hl' := sum_map_set (Pc.lossy n) (s.threads.set k .idle) k pc' .idle hk'
    rw [List.set_set, Pc.tokens_idle, Nat.add_zero] at ht'
    rw [List.set_set, Pc.lossy_idle, Nat.add_zero] at hl'
    refine ⟨m + m', ?_, show m + m' + ((s.threads.set k pc').map (Pc.lossy n)).sum ≤ bad' by omega⟩
    rwa [show ((s.threads.set k pc').map Pc.tokens).sum + (m + m') =
      ((s.threads.set k .idle).map Pc.tokens).sum + m + m' + pc'.tokens by omega]

/-- **One step of one thread keeps the count**, the call it begins counted if it names a receiver
outside the pool's classes. -/
lemma next_counted (hops : ops.Lawful kSize) {bad₀ : Nat} {s s' : System C} {k : Nat}
    {call : Option PoolCall} (hc : ∀ c ∈ call, c.releasesFreeSlab = false)
    (hP : s.Placed ops sa₀ n bad₀) (hs : s.Counted ops kSize n bad)
    (hn : next ops kSize s k call = some s') :
    s'.Counted ops kSize n (bad + outsideReceiverCalls n call.toList) := by
  cases call with
  | some c =>
    simp only [next] at hn
    split at hn
    next hk =>
      obtain ⟨T, -, -, h, -, -⟩ := hP.focus hk
      obtain ⟨N, M, hcount, hbad, back⟩ := hs.focus hk
      rcases hb : beginCall ops kSize c s.pool with ⟨pc, q⟩ | ⟨e, q⟩ <;>
        simp only [hb, settle, Option.some.injEq] at hn <;> subst hn
      · have h4 : outsideReceiverCalls n [c] = if receiverOutside n c.receiver then 1 else 0 := by
          simp only [outsideReceiverCalls, List.countP_cons, List.countP_nil, Nat.zero_add]
        have := (beginCall_placed hops (T := T) (by simpa using h) hb).2.2 n
        refine back pc q 0 _ (beginCall_counted hops (hc c rfl) (by simpa using h) hcount hb) ?_
        show M + 0 + pc.lossy n ≤ bad + outsideReceiverCalls n [c]
        rw [h4]
        exact Nat.add_le_add (Nat.le_of_add_right_le hbad) this
      · obtain rfl := beginCall_eq_error hb
        exact back .idle s.pool 0 _ hcount (Nat.le_add_right_of_le hbad)
    next => cases hn
  | none =>
    simp only [next] at hn
    split at hn
    · cases hn
    · cases hn
    next _ pc _ hk =>
      obtain ⟨T, -, hlen, h, -, -⟩ := hP.focus hk
      obtain ⟨N, M, hcount, hbad, back⟩ := hs.focus hk
      rcases hb : stepPc ops kSize pc s.pool with ⟨pc', q⟩ | ⟨e, q⟩ <;>
        simp only [hb, settle, Option.some.injEq] at hn <;> subst hn
      · refine back pc' q 0 _ (stepPc_counted hops h hcount hb) ?_
        rw [(stepPc_placed hops h hb).2.2 n]
        exact Nat.le_of_add_right_le hbad
      · obtain rfl := stepPc_eq_error hb
        have := stepPc_eq_error_tokens hb
        rw [hlen] at this
        refine back .idle s.pool pc.tokens _ hcount ?_
        show M + pc.tokens + 0 ≤ bad + 0
        omega

/-! ## From construction -/

section Construction

variable {kMinAllocSize : Nat} {id : Int} {poolSize : Nat} {allocSizes : List Nat}
  {p₀ : MemoryPool C} {calls : List PoolCall} {s : System C}

/-- The count of every interleaving from a constructed pool with no free-slab resize. -/
lemma create_counted (hops : ops.Lawful kSize) (hsa : sa₀.WellFormed)
    (hcreate : create ops kSize kMinAllocSize id poolSize sa₀ allocSizes = .ok p₀)
    (hi : Interleaving ops kSize p₀ calls s) (hno : ∀ c ∈ calls, c.releasesFreeSlab = false) :
    s.Counted ops kSize allocSizes.length (outsideReceiverCalls allocSizes.length calls) := by
  have h0 := (create_constructed hops hcreate).1
  induction hi with
  | init m =>
    refine ⟨0, ?_, by simp [List.map_replicate]⟩
    rw [SlabsCounted, heldCount, h0.currSlabAllocSize, h0.held_eq_nil]
    simp [List.map_replicate]
  | begin hi' hn ih =>
    simpa [List.countP_append] using next_counted hops
      (fun c hc => hno c (List.mem_append_right _ (List.mem_singleton.2 (Option.some.inj hc).symm)))
      (create_placed hops hsa hcreate hi') (ih fun c hc => hno c (List.mem_append_left _ hc)) hn
  | step hi' hn ih =>
    simpa using next_counted hops (fun _ h => by cases h) (create_placed hops hsa hcreate hi')
      (ih hno) hn

/-! ## What the count promises -/

/-- A pool with the frame of one built over `sa₀` whose slab allocator has no slab left owns every
slab `sa₀` had free. -/
lemma owns_of_freeSlabs_eq_nil {p₀ : MemoryPool C} (hsa : sa₀.WellFormed)
    (h0 : p₀.slabAllocator = sa₀) (hf : Frame p₀ p) (hempty : p.slabAllocator.freeSlabs = []) :
    Owns sa₀ p sa₀.freeSlabs := by
  refine ⟨hsa.nodup, fun u hu => ⟨⟨?_, by simp [hempty]⟩, fun hal => hal.2 hu⟩⟩
  have hv := hsa.valid u hu
  simp only [SlabAllocator.isValidSlab] at hv ⊢
  rw [hf.memoryStart, hf.numSlabs, h0]
  exact hv

/-- **`allocate`'s slow path returns `nullptr` only at the limit.**  From a constructed pool on a
slab allocator with room for `maxSize_`, under any interleaving of the steps of any number of
threads, none of which resizes from the free slabs: whenever `allocate`'s slow path, under
`lock_`, hands out nothing, the pool is at its limit.  `releaseSlab` takes a slab's unit off
`currSlabAllocSize_` only once the slab is on `freeSlabs_` or back with the allocator, so the
counter never makes room the pool cannot fill.  `maxSize_ + Slab::kSize` has to fit in a
`size_t`. -/
theorem allocateLocked_null_at_limit_interleaved (hops : ops.Lawful kSize) (hsa : sa₀.WellFormed)
    (hk : 0 < kSize) (hfit : poolSize + kSize ≤ 2 ^ 64)
    (hroom : poolSize ≤ kSize * sa₀.freeSlabs.length)
    (hcreate : create ops kSize kMinAllocSize id poolSize sa₀ allocSizes = .ok p₀)
    (hi : Interleaving ops kSize p₀ calls s) (hno : ∀ c ∈ calls, c.releasesFreeSlab = false)
    {i allocSize : Nat} {q : MemoryPool C}
    (hl : allocateLocked ops kSize i allocSize s.pool = .ok none q) :
    s.pool.allSlabsAllocated = true := by
  obtain ⟨c, c', -, -, hsl⟩ := allocateLocked_eq_none hl
  cases hsl with
  | full hfull => exact hfull
  | exhausted _ hfree hmake =>
    obtain ⟨hc, -, hmax, -⟩ := create_constructed hops hcreate
    obtain ⟨lost, m, -, h⟩ := Interleaving.bounded hops (hc.bounded hsa hk (hmax ▸ hfit)) hi hno
    have hlen := h.consistent.length_le_of_owns (owns_of_freeSlabs_eq_nil hsa hc.slabAllocator
      hi.frame (SlabAllocator.freeSlabs_of_makeNewSlab_eq_none hmake))
    have hcount := h.counted
    have ht := h.transit_le
    simp only [slabs, List.length_append, show s.pool.freeSlabs = [] from hfree, List.length_nil,
      heldCount] at hlen hcount ht
    simp only [allSlabsAllocated, decide_eq_true_eq, h.maxSize, hmax]
    calc poolSize ≤ kSize * sa₀.freeSlabs.length := hroom
      _ ≤ kSize * ((s.pool.ac.flatMap ops.held).length + (s.tokens + m)) :=
        Nat.mul_le_mul_left _ (by omega)
      _ ≤ s.pool.currSlabAllocSize := hcount

/-- Two threads find one slab's room left before either takes the lock; thread 0 takes the slab,
and thread 1's slow path finds the pool at its limit and hands out nothing. -/
theorem allocateLocked_null_after_race :
    let ops := ReferenceClass.ops 8 1
    let p₀ : MemoryPool ReferenceClass :=
      { id := 0, maxSize := 8, slabAllocator := SlabAllocator.init 1 2, acSizes := [8],
        ac := [{ constants := ⟨0, 0, 8⟩, held := [], live := [], releasing := [] }],
        freeSlabs := [], currAllocSize := 0, currSlabAllocSize := 0, nSlabResize := 0,
        nSlabRebalance := 0, nSlabReleaseAborted := 0 }
    ∃ calls s q, runSchedule ops 8 [] ⟨p₀, List.replicate 2 .idle⟩ [(0, some (.allocate 8)),
        (1, some (.allocate 8)), (0, none), (1, none), (0, none)] = some (calls, s) ∧
      s.threads[1]? = some (.allocLocked 0 8) ∧ allocateLocked ops 8 0 8 s.pool = .ok none q ∧
      s.pool.allSlabsAllocated = true := by
  intro ops p₀
  have hcreate : create ops 8 1 0 8 (SlabAllocator.init 1 2) [8] = .ok p₀ := rfl
  have hrun : ((runSchedule ops 8 [] ⟨p₀, List.replicate 2 .idle⟩ [(0, some (.allocate 8)),
      (1, some (.allocate 8)), (0, none), (1, none), (0, none)]).map fun x =>
        (x.1.all fun c => !c.releasesFreeSlab, x.2.threads[1]? == some (.allocLocked 0 8),
          allocateLocked ops 8 0 8 x.2.pool matches .ok none _)) = some (true, true, true) := by
    decide
  obtain ⟨⟨calls, s⟩, h, hv⟩ := Option.map_eq_some'.1 hrun
  simp only [Prod.mk.injEq, beq_iff_eq] at hv
  obtain ⟨hno, hk, hres⟩ := hv
  rcases hl : allocateLocked ops 8 0 8 s.pool with ⟨_ | a, q⟩ | ⟨e, q⟩ <;> rw [hl] at hres <;>
    simp at hres
  exact ⟨calls, s, q, h, hk, hl, allocateLocked_null_at_limit_interleaved
    (ReferenceClass.lawful Nat.one_pos) (SlabAllocator.WellFormed.init 1 2) (by decide) (by decide)
    (by decide) hcreate (.of_runSchedule (.init 2) h) (by simpa using hno) hl⟩

end Construction

end MemoryPool

end SlabPool
