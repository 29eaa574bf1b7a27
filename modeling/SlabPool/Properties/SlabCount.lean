import SlabPool.Properties.Accounting

/-!
# The count of `currSlabAllocSize_`

`currSlabAllocSize_` goes up by `Slab::kSize` when `getSlabLocked` takes a slab for a class, and
down when `releaseSlab` hands a slab back to the allocator or puts it on `freeSlabs_`; a slab
passed from class to class leaves it as it is.  So it counts the slabs the classes hold, and
`getCurrentUsedSize()` adds those on `freeSlabs_`.  `SlabsCounted n` is that count, as a `size_t`,
with `n` slabs in transit between a class and their destination, in the manner of `Consistent`;
every call keeps it (`Step.counted`) except one.

`startSlabRelease(kInvalidClassId, kInvalidClassId, kResize, …)` takes a slab off `freeSlabs_`,
where it was not counted, and `releaseSlab(kResize)` then takes `Slab::kSize` off the counter as
if a class had held it.  From any state with a free slab this call breaks the count, and a slab
reaches `freeSlabs_` by a rebalance with no receiver; on a pool whose classes hold no slab the
counter wraps to `2^64 - Slab::kSize`.
-/

namespace SlabPool

namespace MemoryPool

open scoped List

variable {C : Type} {ops : AllocationClassOps C} {kSize : Nat} {sa₀ : SlabAllocator}

/-! ## The count -/

/-- Whether a call is `startSlabRelease` with no victim class, which takes a slab from the pool's
free slabs back to the slab allocator. -/
def PoolCall.releasesFreeSlab : PoolCall → Bool
  | .startSlabRelease victim _ _ _ _ => victim == Slab.kInvalidClassId
  | _ => false

variable (ops) in
/-- The number of slabs the classes hold. -/
def heldCount (p : MemoryPool C) : Nat := (p.ac.flatMap ops.held).length

variable (ops) in
lemma heldCount_setClass {p : MemoryPool C} {i : Nat} {c : C} (c' : C) (hi : p.ac[i]? = some c) :
    heldCount ops (setClass i c' p) + (ops.held c).length = heldCount ops p + (ops.held c').length := by
  simpa [heldCount] using (perm_flatMap_set ops.held p.ac i c' c hi).length_eq

variable (ops kSize) in
/-- `currSlabAllocSize_` counts, as a `size_t`, the slabs the classes hold and `n` slabs in
transit between a class and its destination. -/
def SlabsCounted (n : Nat) (p : MemoryPool C) : Prop :=
  p.currSlabAllocSize = kSize * (heldCount ops p + n) % 2 ^ 64

variable {t : List Slab} {p q : MemoryPool C}

namespace SlabsCounted

variable {n : Nat}

lemma of_ac (h : SlabsCounted ops kSize n p) (hac : q.ac = p.ac)
    (hcurr : q.currSlabAllocSize = p.currSlabAllocSize) : SlabsCounted ops kSize n q := by
  rw [SlabsCounted, heldCount, hac, hcurr]
  exact h

/-- A slab leaves transit and the counter goes down by `Slab::kSize`. -/
lemma decrement (h : SlabsCounted ops kSize (n + 1) p) (hac : q.ac = p.ac)
    (hcurr : q.currSlabAllocSize = sizeSub p.currSlabAllocSize kSize) :
    SlabsCounted ops kSize n q := by
  rw [SlabsCounted, heldCount, hac, hcurr, h, ← Nat.add_assoc, Nat.mul_succ, sizeSub_mod]
  rfl

/-- A slab enters transit and the counter goes up by `Slab::kSize`. -/
lemma increment (h : SlabsCounted ops kSize n p) (hac : q.ac = p.ac)
    (hcurr : q.currSlabAllocSize = sizeAdd p.currSlabAllocSize kSize) :
    SlabsCounted ops kSize (n + 1) q := by
  rw [SlabsCounted, heldCount, hac, hcurr, h, sizeAdd_mod, ← Nat.add_assoc, Nat.mul_succ]
  rfl

/-- A class call: the counter stays, and the slabs in transit make up for the slabs the class
gained or lost. -/
lemma classCall {m : Nat} {i : Nat} {c c' : C} (h : SlabsCounted ops kSize n p)
    (hi : p.ac[i]? = some c) (hlen : (ops.held c').length + m = (ops.held c).length + n) :
    SlabsCounted ops kSize m (setClass i c' p) := by
  have := heldCount_setClass ops c' hi
  rw [SlabsCounted, setClass_currSlabAllocSize, h]
  congr 2
  omega

/-- A class call that keeps the number of slabs the class holds. -/
lemma keepClass {i : Nat} {c c' : C} (h : SlabsCounted ops kSize n p) (hi : p.ac[i]? = some c)
    (hlen : (ops.held c').length = (ops.held c).length) :
    SlabsCounted ops kSize n (setClass i c' p) :=
  h.classCall hi (by omega)

/-- A class gives up a slab, which goes into transit. -/
lemma releaseClass {i : Nat} {c c' : C} (h : SlabsCounted ops kSize n p) (hi : p.ac[i]? = some c)
    (hlen : (ops.held c').length + 1 = (ops.held c).length) :
    SlabsCounted ops kSize (n + 1) (setClass i c' p) :=
  h.classCall hi (by omega)

/-- A class takes a slab out of transit. -/
lemma addClass {i : Nat} {c c' : C} (h : SlabsCounted ops kSize (n + 1) p) (hi : p.ac[i]? = some c)
    (hlen : (ops.held c').length = (ops.held c).length + 1) :
    SlabsCounted ops kSize n (setClass i c' p) :=
  h.classCall hi (by omega)

end SlabsCounted

/-! ## Each call's paths -/

variable {n : Nat}

/-- `releaseSlab` takes its slab out of transit and counts it as its destination does: a
receiver class holds it and the counter stays, the allocator or the free slabs take it and the
counter goes down. -/
lemma ReleasePath.counted (hops : ops.Lawful kSize) {s : Slab} {receiver : Int}
    {mode : SlabReleaseMode} (hp : Consistent ops sa₀ (s :: t) p)
    (hc : SlabsCounted ops kSize (n + 1) p) (h : ReleasePath ops kSize s receiver p mode q) :
    SlabsCounted ops kSize n q := by
  cases h with
  | resize | toFreeSlabs => exact hc.decrement rfl rfl
  | toClass _ hj ha =>
    obtain ⟨hj, -⟩ := getAllocationClassForId_eq_ok hj
    have hs := fun hs => hp.not_mem_transit (mem_slabs_of_held hj hs) (List.mem_cons_self _ _)
    obtain ⟨-, -, h3, -⟩ := hops.addSlab (hp.class_wf _ _ hj) hs ha
    exact (hc.addClass hj (by simpa using h3.length_eq)).of_ac rfl rfl

lemma SlabLockedPath.counted_none (hc : SlabsCounted ops kSize n p)
    (h : SlabLockedPath kSize p none q) : SlabsCounted ops kSize n q := by
  cases h with
  | full => exact hc
  | exhausted => exact (hc.increment (q := { incrementSlabAllocSize kSize p with slabAllocator := _ })
      rfl rfl).decrement rfl rfl

/-- The slab `getSlabLocked` returns is counted, in transit. -/
lemma SlabLockedPath.counted_some {s : Slab} (hc : SlabsCounted ops kSize n p)
    (h : SlabLockedPath kSize p (some s) q) : SlabsCounted ops kSize (n + 1) q := by
  cases h <;> exact hc.increment rfl rfl

/-- A class's `allocate()` keeps its number of slabs. -/
lemma length_held_allocate (hops : ops.Lawful kSize) {c c' : C} {r : Option Nat} (hwf : ops.wf c)
    (h : ops.allocate c = (r, c')) : (ops.held c').length = (ops.held c).length :=
  (hops.allocate hwf h).2.2.1.length_eq

/-- A class that gives up a slab it holds has one fewer. -/
lemma length_held_erase {c c' : C} {s : Slab} (hs : s ∈ ops.held c)
    (h : ops.held c' ~ (ops.held c).erase s) : (ops.held c').length + 1 = (ops.held c).length := by
  rw [h.length_eq, List.length_erase_of_mem hs]
  exact Nat.sub_add_cancel (List.length_pos_of_mem hs)

/-- **Every call but the free-slab resize counts the slabs.** -/
theorem Step.counted (hops : ops.Lawful kSize) {c : PoolCall} {r : PoolReturn}
    (hp : Consistent ops sa₀ [] p) (hc : SlabsCounted ops kSize 0 p) (h : Step ops kSize p c r q)
    (hcall : c.releasesFreeSlab = false) : SlabsCounted ops kSize 0 q := by
  cases h with
  | allocate h =>
    cases h with
    | fast hroute h1 =>
      have hi := (getAllocationClassFor_eq_ok hroute).1
      exact (hc.keepClass hi (length_held_allocate hops (hp.class_wf _ _ hi) h1)).of_ac rfl rfl
    | full hroute h1 _ =>
      have hi := (getAllocationClassFor_eq_ok hroute).1
      exact hc.keepClass hi (length_held_allocate hops (hp.class_wf _ _ hi) h1)
    | retry hroute h1 _ h2 =>
      have hi := (getAllocationClassFor_eq_ok hroute).1
      have hwf := (hops.allocate (hp.class_wf _ _ hi) h1).1
      exact ((hc.keepClass hi (length_held_allocate hops (hp.class_wf _ _ hi) h1)).keepClass
        (getElem?_setClass_self hi) (length_held_allocate hops hwf h2)).of_ac rfl rfl
    | noSlab hroute h1 _ h2 hs =>
      have hi := (getAllocationClassFor_eq_ok hroute).1
      have hwf := (hops.allocate (hp.class_wf _ _ hi) h1).1
      exact hs.counted_none ((hc.keepClass hi (length_held_allocate hops (hp.class_wf _ _ hi) h1)).keepClass
        (getElem?_setClass_self hi) (length_held_allocate hops hwf h2))
    | newSlab hroute h1 _ h2 hs ha =>
      have hi := (getAllocationClassFor_eq_ok hroute).1
      have hwf := (hops.allocate (hp.class_wf _ _ hi) h1).1
      have hq := hs.consistent_some
        ((hp.allocateClass hops hi h1).allocateClass hops (getElem?_setClass_self hi) h2)
      have hiq : _ = some _ := hs.ac ▸ getElem?_setClass_self (getElem?_setClass_self hi)
      have hnot := fun h => hq.not_mem_transit (mem_slabs_of_held hiq h) (List.mem_cons_self _ _)
      obtain ⟨-, -, h3, -⟩ := hops.addSlabAndAllocate (hq.class_wf _ _ hiq) hnot ha
      have hc' := hs.counted_some ((hc.keepClass hi (length_held_allocate hops (hp.class_wf _ _ hi)
        h1)).keepClass (getElem?_setClass_self hi) (length_held_allocate hops hwf h2))
      exact (hc'.addClass hiq (by simpa using h3.length_eq)).of_ac rfl rfl
  | free h =>
    cases h with
    | kept hroute hf =>
      have hi := (getAllocationClassForMemory_eq_ok hroute).1
      obtain ⟨-, -, -, h4, -⟩ := hops.free (hp.class_wf _ _ hi) hf
      exact (hc.keepClass hi (h4 rfl).length_eq).of_ac rfl rfl
    | released hroute hf hr =>
      have hi := (getAllocationClassForMemory_eq_ok hroute).1
      obtain ⟨h1, h2, -, -, h5⟩ := hops.free (hp.class_wf _ _ hi) hf
      exact (hr.counted hops (hp.releaseClass hi h1 h2 (h5 rfl).1 (h5 rfl).2)
        (hc.releaseClass hi (length_held_erase (h5 rfl).1 (h5 rfl).2))).of_ac rfl rfl
  | startSlabRelease h =>
    cases h with
    | fromFreeSlabs hv => simp [PoolCall.releasesFreeSlab, hv] at hcall
    | marked _ _ hroute hs hrel =>
      have hi := (getAllocationClassForId_eq_ok hroute).1
      obtain ⟨-, -, -, -, h5, -⟩ := hops.startSlabRelease (hp.class_wf _ _ hi) hs
      exact (hc.keepClass hi (h5 hrel).length_eq).of_ac rfl rfl
    | released _ _ hroute hs hrel hr =>
      have hi := (getAllocationClassForId_eq_ok hroute).1
      obtain ⟨h1, h2, -, h4, -, h6⟩ := hops.startSlabRelease (hp.class_wf _ _ hi) hs
      exact hr.counted hops (hp.release hi h1 h2 (h6 hrel).1 (h6 hrel).2.1 h4)
        ((hc.releaseClass hi (length_held_erase (h6 hrel).1 (h6 hrel).2.1)).of_ac rfl rfl)
  | completeSlabRelease h =>
    cases h with
    | already => exact hc
    | pending _ _ hroute hs =>
      have hi := (getAllocationClassForId_eq_ok hroute).1
      obtain ⟨-, -, -, -, h5, -⟩ := hops.completeSlabRelease (hp.class_wf _ _ hi) hs
      exact (hc.keepClass hi (h5 rfl).length_eq).of_ac rfl rfl
    | done _ _ hroute hs hr =>
      have hi := (getAllocationClassForId_eq_ok hroute).1
      obtain ⟨h1, h2, -, h4, -, h6⟩ := hops.completeSlabRelease (hp.class_wf _ _ hi) hs
      exact hr.counted hops (hp.release hi h1 h2 (h6 rfl).1 (h6 rfl).2.1 h4)
        ((hc.releaseClass hi (length_held_erase (h6 rfl).1 (h6 rfl).2.1)).of_ac rfl rfl)
  | abortSlabRelease h =>
    cases h with
    | abort hroute hs =>
      have hi := (getAllocationClassForId_eq_ok hroute).1
      obtain ⟨-, -, h3, -⟩ := hops.abortSlabRelease (hp.class_wf _ _ hi) hs
      exact (hc.keepClass hi h3.length_eq).of_ac rfl rfl

/-! ## Over every run -/

variable {kMinAllocSize : Nat} {id : Int} {poolSize : Nat} {allocSizes : List Nat}
  {p₀ : MemoryPool C} {tr : List (PoolCall × PoolReturn)}

/-- A run from construction with no free-slab resize counts the slabs. -/
lemma reachable_counted (hops : ops.Lawful kSize) (hsa : sa₀.WellFormed)
    (hcreate : create ops kSize kMinAllocSize id poolSize sa₀ allocSizes = .ok p₀)
    (hr : Reachable ops kSize p₀ tr p) (hno : ∀ e ∈ tr, e.1.releasesFreeSlab = false) :
    SlabsCounted ops kSize 0 p := by
  have h0 := (create_constructed hops hcreate).1
  refine Reachable.induction (I := fun tr p => (∀ e ∈ tr, e.1.releasesFreeSlab = false) →
      SlabsCounted ops kSize 0 p) (fun _ => ?_) (fun hr ih hs hno => ?_) hr hno
  · rw [SlabsCounted, heldCount, h0.currSlabAllocSize, h0.held_eq_nil]
    rfl
  · have hall := fun e he => hno e (List.mem_append_left _ he)
    exact hs.counted hops (reachable_accounted hops hsa hcreate hr).1 (ih hall)
      (hno _ (List.mem_append_right _ (List.mem_singleton_self _)))

/-- In a run as above the counter is exact: the pool's slabs fit in a `size_t`. -/
lemma reachable_counted_exact (hops : ops.Lawful kSize) (hsa : sa₀.WellFormed)
    (hfit : kSize * sa₀.numSlabs < 2 ^ 64)
    (hcreate : create ops kSize kMinAllocSize id poolSize sa₀ allocSizes = .ok p₀)
    (hr : Reachable ops kSize p₀ tr p) (hno : ∀ e ∈ tr, e.1.releasesFreeSlab = false) :
    p.currSlabAllocSize = kSize * (p.ac.flatMap ops.held).length ∧
      kSize * p.freeSlabs.length + kSize * (p.ac.flatMap ops.held).length < 2 ^ 64 := by
  obtain ⟨hp, -, -, hf⟩ := reachable_accounted hops hsa hcreate hr
  have hc := reachable_counted hops hsa hcreate hr hno
  have hslabs := Nat.mul_le_mul_left kSize hp.length_slabs_le
  rw [hf.numSlabs, (create_constructed hops hcreate).1.slabAllocator, slabs, List.length_append,
    Nat.mul_add] at hslabs
  unfold SlabsCounted heldCount at hc
  rw [hc, Nat.add_zero, Nat.mod_eq_of_lt (by omega)]
  exact ⟨rfl, by omega⟩

/-- **The slab count, without the free-slab resize.** In every state of a run from
construction that never calls `startSlabRelease` with no victim class, `currSlabAllocSize_` is
`Slab::kSize` times the number of slabs the classes hold, `getCurrentUsedSize()` is `Slab::kSize`
times the number of slabs the pool owns, and while every `free` was of an outstanding chunk,
`currAllocSize_` is at most `currSlabAllocSize_`. -/
theorem currSlabAllocSize_counts_held (hops : ops.Lawful kSize) (hsa : sa₀.WellFormed)
    (hfit : kSize * sa₀.numSlabs < 2 ^ 64)
    (hcreate : create ops kSize kMinAllocSize id poolSize sa₀ allocSizes = .ok p₀)
    (hr : Reachable ops kSize p₀ tr p) (hno : ∀ e ∈ tr, e.1.releasesFreeSlab = false) :
    p.currSlabAllocSize = kSize * (p.ac.flatMap ops.held).length ∧
      p.getCurrentUsedSize kSize = kSize * (p.freeSlabs ++ p.ac.flatMap ops.held).length ∧
      ((ledger tr).freesOutstanding = true → p.currAllocSize ≤ p.currSlabAllocSize) := by
  obtain ⟨hp, hl, ha, -⟩ := reachable_accounted hops hsa hcreate hr
  obtain ⟨hcount, hfits⟩ := reachable_counted_exact hops hsa hfit hcreate hr hno
  refine ⟨hcount, ?_, fun hfree => ?_⟩
  · rw [getCurrentUsedSize, hcount, List.length_append, sizeAdd, Nat.mul_comm p.freeSlabs.length,
      Nat.mod_eq_of_lt (by omega), Nat.mod_eq_of_lt (by omega), Nat.mul_add, Nat.add_comm]
  · rw [ha.currAllocSize hfree, hcount]
    exact (Nat.mod_le _ _).trans (ha.outstandingSize_le_held hops hp hl)

/-- On the pool with one class of 4-byte chunks, after two `allocate(3)` and a `free` of the
first chunk, the counter counts the one slab class 0 holds. -/
theorem currSlabAllocSize_counts_held_after_free :
    let ops := ReferenceClass.ops 8 1
    let p₀ : MemoryPool ReferenceClass :=
      { id := 0, maxSize := 16, slabAllocator := SlabAllocator.init 1 2, acSizes := [4],
        ac := [{ constants := ⟨0, 0, 4⟩, held := [], live := [], releasing := [] }],
        freeSlabs := [], currAllocSize := 0, currSlabAllocSize := 0, nSlabResize := 0,
        nSlabRebalance := 0, nSlabReleaseAborted := 0 }
    match runCalls ops 8 [] p₀ [.allocate 3, .allocate 3, .free 8] with
    | some (tr, p) =>
      p.currSlabAllocSize = 8 * (p.ac.flatMap ops.held).length ∧
        p.getCurrentUsedSize 8 = 8 * (p.freeSlabs ++ p.ac.flatMap ops.held).length ∧
        ((ledger tr).freesOutstanding = true → p.currAllocSize ≤ p.currSlabAllocSize)
    | none => False := by
  intro ops p₀
  have hcreate : create ops 8 1 0 16 (SlabAllocator.init 1 2) [4] = .ok p₀ := rfl
  have hrun : ((runCalls ops 8 [] p₀ [.allocate 3, .allocate 3, .free 8]).map fun x =>
      x.1.all fun e => !e.1.releasesFreeSlab) = some true := by
    decide
  split
  next tr p h =>
    rw [h] at hrun
    exact currSlabAllocSize_counts_held (ReferenceClass.lawful Nat.one_pos)
      (SlabAllocator.WellFormed.init 1 2) (by decide) hcreate (.of_runCalls .init h)
      (by simpa using Option.some.inj hrun)
  next h =>
    rw [h] at hrun
    cases hrun

/-- `startSlabRelease(kInvalidClassId, kInvalidClassId, kResize, …)` on a pool with a free
slab: the slab goes back to the allocator and the counter goes down. -/
lemma call_releaseFromFreeSlabs {s : Slab} {rest : List Slab} (hfs : p.freeSlabs = s :: rest)
    (hint : Nat) (fn : SlabReleaseAbortFn) :
    call ops kSize (.startSlabRelease Slab.kInvalidClassId Slab.kInvalidClassId .kResize hint fn) p =
      .ok (.context ((freeSlabContext p.id s).setReceiver Slab.kInvalidClassId))
        (countResize (decrementSlabAllocSize kSize (freeSlabToAllocator s { p with freeSlabs := rest }))) := by
  simp [call, startSlabRelease, obtainReleaseContext, releaseFromFreeSlabs, hfs, releaseSlab,
    freeSlabContext]

/-- **The free-slab resize miscounts.** From every state of a run as above in which the pool has
a free slab, `startSlabRelease(kInvalidClassId, kInvalidClassId, kResize, hint, fn)` returns,
leaves the classes as they were and takes `Slab::kSize` off `currSlabAllocSize_`, although the
slab it hands back to the allocator, taken from `freeSlabs_`, was not counted there: the counter
no longer counts the classes' slabs. -/
theorem releaseFromFreeSlabs_miscounts (hops : ops.Lawful kSize) (hsa : sa₀.WellFormed)
    (hfit : kSize * sa₀.numSlabs < 2 ^ 64) (hk : 0 < kSize)
    (hcreate : create ops kSize kMinAllocSize id poolSize sa₀ allocSizes = .ok p₀)
    (hr : Reachable ops kSize p₀ tr p) (hno : ∀ e ∈ tr, e.1.releasesFreeSlab = false)
    (hfree : p.freeSlabs ≠ []) (hint : Nat) (fn : SlabReleaseAbortFn) :
    ∃ ctx q, call ops kSize
        (.startSlabRelease Slab.kInvalidClassId Slab.kInvalidClassId .kResize hint fn) p =
        .ok (.context ctx) q ∧ q.ac = p.ac ∧
      p.currSlabAllocSize = kSize * (p.ac.flatMap ops.held).length ∧
      q.currSlabAllocSize = sizeSub p.currSlabAllocSize kSize ∧
      q.currSlabAllocSize ≠ kSize * (q.ac.flatMap ops.held).length := by
  obtain ⟨s, rest, hfs⟩ := List.exists_cons_of_ne_nil hfree
  obtain ⟨hcount, hfits⟩ := reachable_counted_exact hops hsa hfit hcreate hr hno
  have hone : kSize ≤ kSize * p.freeSlabs.length :=
    Nat.le_mul_of_pos_right _ (List.length_pos.2 hfree)
  refine ⟨_, _, call_releaseFromFreeSlabs hfs hint fn, rfl, hcount, rfl, ?_⟩
  show sizeSub p.currSlabAllocSize kSize ≠ kSize * (p.ac.flatMap ops.held).length
  rw [hcount, sizeSub]
  omega

/-- After `allocate(3)`, a rebalance of class 0's slab to the free slabs and the `free` that
empties it, the pool has a free slab, and the free-slab resize miscounts. -/
theorem releaseFromFreeSlabs_miscounts_after_rebalance :
    let ops := ReferenceClass.ops 8 1
    let p₀ : MemoryPool ReferenceClass :=
      { id := 0, maxSize := 16, slabAllocator := SlabAllocator.init 1 2, acSizes := [4],
        ac := [{ constants := ⟨0, 0, 4⟩, held := [], live := [], releasing := [] }],
        freeSlabs := [], currAllocSize := 0, currSlabAllocSize := 0, nSlabResize := 0,
        nSlabRebalance := 0, nSlabReleaseAborted := 0 }
    let ctx : SlabReleaseContext :=
      { slab := ⟨1⟩, poolId := 0, classId := 0, activeAllocations := [8], mode := .kRebalance,
        isReleased := false }
    match runCalls ops 8 [] p₀ [.allocate 3, .startSlabRelease 0 (-1) .kRebalance 0 (fun _ => false),
        .free 8, .completeSlabRelease ctx] with
    | some (_, p) =>
      ∃ ctx q, call ops 8 (.startSlabRelease Slab.kInvalidClassId Slab.kInvalidClassId .kResize 0
          (fun _ => false)) p = .ok (.context ctx) q ∧ q.ac = p.ac ∧
        p.currSlabAllocSize = 8 * (p.ac.flatMap ops.held).length ∧
        q.currSlabAllocSize = sizeSub p.currSlabAllocSize 8 ∧
        q.currSlabAllocSize ≠ 8 * (q.ac.flatMap ops.held).length
    | none => False := by
  intro ops p₀ ctx
  have hcreate : create ops 8 1 0 16 (SlabAllocator.init 1 2) [4] = .ok p₀ := rfl
  have hrun : ((runCalls ops 8 [] p₀ [.allocate 3, .startSlabRelease 0 (-1) .kRebalance 0
      (fun _ => false), .free 8, .completeSlabRelease ctx]).map fun x =>
        (x.1.all fun e => !e.1.releasesFreeSlab, x.2.freeSlabs.isEmpty)) = some (true, false) := by
    decide
  split
  next tr p h =>
    rw [h] at hrun
    obtain ⟨hno, hfree⟩ := Prod.mk.inj (Option.some.inj hrun)
    exact releaseFromFreeSlabs_miscounts (ReferenceClass.lawful Nat.one_pos)
      (SlabAllocator.WellFormed.init 1 2) (by decide) (by decide) hcreate (.of_runCalls .init h)
      (by simpa using hno) (by simpa using hfree) 0 (fun _ => false)
  next h =>
    rw [h] at hrun
    cases hrun

end MemoryPool

end SlabPool
