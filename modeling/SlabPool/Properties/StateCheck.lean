import SlabPool.Properties.SlabCount

/-!
# `checkState()` at every state of a run

The constructor ends with `checkState()`, the pool's own account of a valid state: a
non-negative id, `currAllocSize_ ≤ currSlabAllocSize_`, a non-empty, ascending, duplicate-free
size table with one class of that size per entry, each size within
`[Slab::kMinAllocSize, Slab::kSize]`, and free slabs the slab allocator calls valid.  Only the
constructor calls it.  Every later state of a run passes it too, as long as the run has not
resized from the free slabs (which takes off a unit of `currSlabAllocSize_` that no class's slab
accounted for, `SlabCount.lean`) and has freed only chunks it was handed and had not freed yet
(any other `free` takes off a size that `currAllocSize_` never had).

The size table and the number of classes are the constructor's (`Frame`), each class keeps the
size it was built with (`Consistent.constants`), the free slabs are slabs the slab allocator
handed out (`Consistent.mem_iff`), and `currAllocSize_` is the sizes of the chunks out, which fit
in the classes' slabs that `currSlabAllocSize_` counts (`Accounted`, `SlabsCounted`).
-/

namespace SlabPool

namespace MemoryPool

variable {C : Type} {ops : AllocationClassOps C} {kSize kMinAllocSize : Nat}

/-! ## When `checkState` passes -/

/-- The loop over the classes passes when each class has its entry's size, within bounds. -/
lemma checkClassSizes_eq_ok : ∀ {sizes : List Nat} {cs : List C},
    (∀ (i : Nat) c, cs[i]? = some c → (ops.constants c).allocationSize = sizes.getD i 0 ∧
      kMinAllocSize ≤ sizes.getD i 0 ∧ sizes.getD i 0 ≤ kSize) →
    checkClassSizes ops kSize kMinAllocSize sizes cs = .ok ()
  | [], _, _ | _ :: _, [], _ => rfl
  | size :: sizes, c :: cs, h => by
    obtain ⟨h1, h2, h3⟩ := h 0 c List.getElem?_cons_zero
    simp only [List.getD_cons_zero] at h1 h2 h3
    simp only [checkClassSizes]
    rw [if_neg (by omega)]
    exact checkClassSizes_eq_ok fun i d hd => by simpa using h (i + 1) d (by simpa using hd)

/-- The loop over the free slabs passes when each is a slab of the allocator's region. -/
lemma checkFreeSlabs_eq_ok {sa : SlabAllocator} : ∀ {l : List Slab},
    (∀ s ∈ l, sa.isValidSlab s) → checkFreeSlabs sa l = .ok ()
  | [], _ => rfl
  | s :: rest, h => by
    simp only [checkFreeSlabs, h s (List.mem_cons_self _ _), if_true]
    exact checkFreeSlabs_eq_ok fun t ht => h t (List.mem_cons_of_mem _ ht)

variable (ops kSize kMinAllocSize) in
/-- What `checkState()` checks, clause by clause. -/
structure CheckedState (p : MemoryPool C) : Prop where
  id_nonneg : 0 ≤ p.id
  currAllocSize_le : p.currAllocSize ≤ p.currSlabAllocSize
  acSizes_ne_nil : p.acSizes ≠ []
  length_ac : p.ac.length = p.acSizes.length
  sorted : isSorted p.acSizes = true
  no_duplicate : adjacentFind p.acSizes = none
  classes : ∀ (i : Nat) c, p.ac[i]? = some c →
    (ops.constants c).allocationSize = p.acSizes.getD i 0 ∧
      kMinAllocSize ≤ p.acSizes.getD i 0 ∧ p.acSizes.getD i 0 ≤ kSize
  free_valid : ∀ s ∈ p.freeSlabs, p.slabAllocator.isValidSlab s

/-- `checkState()` passes on a state with every property it checks. -/
lemma CheckedState.checkState {p : MemoryPool C} (h : CheckedState ops kSize kMinAllocSize p) :
    checkState ops kSize kMinAllocSize p = .ok () := by
  have hac : p.ac ≠ [] := fun hnil => h.acSizes_ne_nil (List.length_eq_zero.1 (by
    rw [← h.length_ac, hnil, List.length_nil]))
  have hcls := checkClassSizes_eq_ok h.classes
  have hfree := checkFreeSlabs_eq_ok h.free_valid
  unfold MemoryPool.checkState
  simp [not_lt.2 h.id_nonneg, not_lt.2 h.currAllocSize_le, h.acSizes_ne_nil, hac, h.length_ac,
    h.sorted, h.no_duplicate, hcls, hfree]
  rfl

/-! ## Over every run -/

variable {sa₀ : SlabAllocator} {id : Int} {poolSize : Nat} {allocSizes : List Nat}
  {p₀ p : MemoryPool C} {tr : List (PoolCall × PoolReturn)}

/-- A constructed pool passed `checkState()`, so its size table is ascending with no repetition. -/
lemma create_sizes (hcreate : create ops kSize kMinAllocSize id poolSize sa₀ allocSizes = .ok p₀) :
    isSorted p₀.acSizes = true ∧ adjacentFind p₀.acSizes = none := by
  obtain ⟨_, -, -, hcheck⟩ := create_eq_ok hcreate
  obtain ⟨-, -, -, h1, h2⟩ := checkState_eq_ok hcheck
  exact ⟨h1, h2⟩

/-- A pool with the constructor's frame and its slabs in place passes every check of
`checkState()` but the one of the counters, which it passes when `currAllocSize_` is at most
`currSlabAllocSize_`. -/
lemma CheckedState.of_frame (hops : ops.Lawful kSize) {t : List Slab}
    (hcreate : create ops kSize kMinAllocSize id poolSize sa₀ allocSizes = .ok p₀)
    (hf : Frame p₀ p) (hp : Consistent ops sa₀ t p) (hle : p.currAllocSize ≤ p.currSlabAllocSize) :
    CheckedState ops kSize kMinAllocSize p := by
  have h0 := (create_constructed hops hcreate).1
  obtain ⟨hsorted, hdup⟩ := create_sizes hcreate
  refine
    { id_nonneg := hf.id ▸ h0.id_nonneg
      currAllocSize_le := hle
      acSizes_ne_nil := hf.acSizes ▸ h0.acSizes_ne_nil
      length_ac := by rw [hf.ac_length, hf.acSizes, h0.length_ac]
      sorted := hf.acSizes ▸ hsorted
      no_duplicate := hf.acSizes ▸ hdup
      classes := fun i c hc => ?_
      free_valid := fun s hs =>
        ((hp.mem_iff s).1 (List.mem_append_left _ (List.mem_append_left _ hs))).1.1 }
  have hi : i < p₀.ac.length := hf.ac_length ▸ (List.getElem?_eq_some_iff.1 hc).1
  obtain ⟨-, -, -, -, hmin, hmax⟩ := h0.classes i _ (List.getElem?_eq_getElem hi)
  rw [hp.constants i c hc, hf.acSizes]
  exact ⟨rfl, hmin, hmax⟩

/-- **`checkState()` passes at every state of a run.**  In every state of a run from
construction that never resized from the free slabs and freed only chunks `allocate` returned and
that were not freed since, `checkState()` would return: the checks the constructor made still
hold.  This needs the slab region to fit in a `size_t`. -/
theorem checkState_reachable (hops : ops.Lawful kSize) (hsa : sa₀.WellFormed)
    (hfit : kSize * sa₀.numSlabs < 2 ^ 64)
    (hcreate : create ops kSize kMinAllocSize id poolSize sa₀ allocSizes = .ok p₀)
    (hr : Reachable ops kSize p₀ tr p) (hno : ∀ e ∈ tr, e.1.releasesFreeSlab = false)
    (hfree : (ledger tr).freesOutstanding = true) :
    checkState ops kSize kMinAllocSize p = .ok () := by
  obtain ⟨hp, hl, ha, hf⟩ := reachable_accounted hops hsa hcreate hr
  obtain ⟨hcount, -⟩ := reachable_counted_exact hops hsa hfit hcreate hr hno
  refine (CheckedState.of_frame hops hcreate hf hp ?_).checkState
  rw [ha.currAllocSize hfree, hcount]
  exact (Nat.mod_le _ _).trans (ha.outstandingSize_le_held hops hp hl)

/-- After `allocate(3)`, a rebalance of class 0's slab to the free slabs and the `free` that
empties it, `checkState()` passes, with a slab on `freeSlabs_`. -/
theorem checkState_reachable_after_rebalance :
    let ops := ReferenceClass.ops 8 1
    let p₀ : MemoryPool ReferenceClass :=
      { id := 0, maxSize := 16, slabAllocator := SlabAllocator.init 1 2, acSizes := [4],
        ac := [{ constants := ⟨0, 0, 4⟩, held := [], live := [], releasing := [] }],
        freeSlabs := [], currAllocSize := 0, currSlabAllocSize := 0, nSlabResize := 0,
        nSlabRebalance := 0, nSlabReleaseAborted := 0 }
    let ctx : SlabReleaseContext :=
      { slab := ⟨1⟩, poolId := 0, classId := 0, activeAllocations := [8], mode := .kRebalance,
        isReleased := false }
    ∃ tr p, runCalls ops 8 [] p₀ [.allocate 3, .startSlabRelease 0 (-1) .kRebalance 0
        (fun _ => false), .free 8, .completeSlabRelease ctx] = some (tr, p) ∧
      p.freeSlabs = [⟨1⟩] ∧ checkState ops 8 1 p = .ok () := by
  intro ops p₀ ctx
  have hcreate : create ops 8 1 0 16 (SlabAllocator.init 1 2) [4] = .ok p₀ := rfl
  have hrun : ((runCalls ops 8 [] p₀ [.allocate 3, .startSlabRelease 0 (-1) .kRebalance 0
      (fun _ => false), .free 8, .completeSlabRelease ctx]).map fun x =>
        (x.1.all fun e => !e.1.releasesFreeSlab, (ledger x.1).freesOutstanding, x.2.freeSlabs)) =
        some (true, true, [⟨1⟩]) := by
    decide
  obtain ⟨⟨tr, p⟩, h, hv⟩ := Option.map_eq_some'.1 hrun
  simp only [Prod.mk.injEq] at hv
  obtain ⟨hno, hfree, hfs⟩ := hv
  exact ⟨tr, p, h, hfs, checkState_reachable (ReferenceClass.lawful Nat.one_pos)
    (SlabAllocator.WellFormed.init 1 2) (by decide) hcreate (.of_runCalls .init h)
    (by simpa using hno) hfree⟩

end MemoryPool

end SlabPool
