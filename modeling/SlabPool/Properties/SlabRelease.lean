import SlabPool.Properties.SlabCount

/-!
# When a slab-release call throws

`getAllocationClassFor(ClassId cid)` rejects the ids from `ac_.size()` up and no other, so a
negative id other than `kInvalidClassId` given to `startSlabRelease` as victim, or a context with
a negative class id (the one `releaseFromFreeSlabs` returns has `kInvalidClassId`) given to
`completeSlabRelease` or `abortSlabRelease`, reaches `ac_[cid]` with `cid < 0`; the model makes
that access the fault `indexOutOfBounds`.

Otherwise the three calls throw before they write anything, with one exception each for
`startSlabRelease` and `completeSlabRelease`: the class has already given a slab up when
`releaseSlab` fails to find the receiver.  The slab is then lost (`LostSlab`): in no class, not
on `freeSlabs_`, and not given back to the slab allocator.
-/

namespace SlabPool

namespace MemoryPool

open scoped List

variable {C : Type} {ops : AllocationClassOps C} {kSize : Nat} {sa₀ : SlabAllocator}
variable {p q : MemoryPool C}

/-! ## Out of range -/

/-- `getAllocationClassFor(cid)` lets every negative id through to `ac_[cid]`. -/
lemma getAllocationClassForId_neg {cid : Int} (h : cid < 0) :
    p.getAllocationClassForId cid = .error (.indexOutOfBounds cid) := by
  rw [getAllocationClassForId, if_pos (by omega), acAt, if_neg (by omega)]

lemma startSlabRelease_neg {victim receiver : Int} {mode : SlabReleaseMode} {hint : Nat}
    {fn : SlabReleaseAbortFn} (hv : victim < 0) (hvi : victim ≠ Slab.kInvalidClassId)
    (hrm : ¬(receiver ≠ Slab.kInvalidClassId ∧ mode ≠ .kRebalance)) :
    startSlabRelease ops kSize victim receiver mode hint fn p = .error (.indexOutOfBounds victim) p := by
  simp [startSlabRelease, obtainReleaseContext, hrm, hvi, getAllocationClassForId_neg hv]

lemma abortSlabRelease_neg {ctx : SlabReleaseContext} (h : ctx.classId < 0) :
    abortSlabRelease ops ctx p = .error (.indexOutOfBounds ctx.classId) p := by
  simp [abortSlabRelease, getAllocationClassForId_neg h]

lemma completeSlabRelease_neg {ctx : SlabReleaseContext} (h : ctx.classId < 0)
    (hrel : ctx.isReleased = false)
    (hrm : ¬(ctx.receiver ≠ Slab.kInvalidClassId ∧ ctx.mode ≠ .kRebalance)) :
    completeSlabRelease ops kSize ctx p = .error (.indexOutOfBounds ctx.classId) p := by
  simp [completeSlabRelease, completeInClass, hrel, hrm, getAllocationClassForId_neg h]

/-! ## A lost slab -/

variable (ops) in
/-- `q` is `p` with the slab `s` gone from the pool, though the allocator still has it out, and
with the free slabs and the counters as they were. -/
structure LostSlab (s : Slab) (p q : MemoryPool C) : Prop where
  mem_before : s ∈ p.freeSlabs ++ p.ac.flatMap ops.held
  not_mem_after : s ∉ q.freeSlabs ++ q.ac.flatMap ops.held
  allocated : q.slabAllocator.Allocated s
  freeSlabs : q.freeSlabs = p.freeSlabs
  currSlabAllocSize : q.currSlabAllocSize = p.currSlabAllocSize
  nSlabResize : q.nSlabResize = p.nSlabResize
  nSlabRebalance : q.nSlabRebalance = p.nSlabRebalance
  nSlabReleaseAborted : q.nSlabReleaseAborted = p.nSlabReleaseAborted

/-- A class call that gives a slab up, with nothing after it to place the slab, loses it. -/
lemma Consistent.lostSlab {i : Nat} {c c' : C} {s : Slab} {hd : SlabHeaders}
    (hq : Consistent ops sa₀ [s] (setHeaders hd (setClass i c' p))) (hi : p.ac[i]? = some c)
    (hs : s ∈ ops.held c) :
    LostSlab ops s p (setHeaders hd (setClass i c' p)) where
  mem_before := mem_slabs_of_held hi hs
  not_mem_after hm := hq.not_mem_transit hm (List.mem_cons_self _ _)
  allocated := ((hq.mem_iff _).1 (List.mem_append_right _ (List.mem_cons_self _ _))).1
  freeSlabs := rfl
  currSlabAllocSize := rfl
  nSlabResize := rfl
  nSlabRebalance := rfl
  nSlabReleaseAborted := rfl

/-- `completeSlabRelease` with a receiver past `ac_`: the class has given the slab up when
`releaseSlab` throws, and the slab is lost. -/
lemma completeSlabRelease_loses_slab (hops : ops.Lawful kSize) (hp : Consistent ops sa₀ [] p)
    {ctx : SlabReleaseContext} {i : Nat} {c c' : C} {h : SlabHeaders}
    (hroute : p.getAllocationClassForId ctx.classId = .ok (i, c)) (hrel : ctx.isReleased = false)
    (hmode : ctx.mode = .kRebalance) (hrecv : (p.ac.length : Int) ≤ ctx.receiver)
    (hs : ops.completeSlabRelease c p.slabAllocator.headers ctx = .ok (true, c', h)) :
    ∃ q, completeSlabRelease ops kSize ctx p =
        .error (.invalidArgument s!"Invalid classId {ctx.receiver}") q ∧ LostSlab ops ctx.slab p q := by
  have hi := (getAllocationClassForId_eq_ok hroute).1
  obtain ⟨h1, h2, -, h4, -, h6⟩ := hops.completeSlabRelease (hp.class_wf _ _ hi) hs
  refine ⟨_, ?_, (hp.release hi h1 h2 (h6 rfl).1 (h6 rfl).2.1 h4).lostSlab hi (h6 rfl).1⟩
  have hne : ctx.receiver ≠ Slab.kInvalidClassId := by
    simp only [Slab.kInvalidClassId]
    omega
  have hlook : (setHeaders h (setClass i c' p)).getAllocationClassForId ctx.receiver =
      .error (.invalidArgument s!"Invalid classId {ctx.receiver}") := by
    rw [getAllocationClassForId, if_neg (by simpa using hrecv)]
  simp [completeSlabRelease, completeInClass, hrel, hmode, hroute, hs, releaseSlab, hne, hlook]

/-! ## What a throw leaves -/

/-- `releaseSlab` throws only when it cannot find the receiver, and then has written nothing. -/
lemma releaseSlab_throw {mode : SlabReleaseMode} {slab : Slab} {receiver : Int} {e : Fault}
    (h : releaseSlab ops kSize mode slab receiver p = .error e q) :
    q = p ∧ mode = .kRebalance ∧ receiver ≠ Slab.kInvalidClassId ∧
      p.getAllocationClassForId receiver = .error e := by
  cases mode
  · simp [releaseSlab] at h
  · by_cases hr : receiver = Slab.kInvalidClassId
    · simp [releaseSlab, hr] at h
    rcases hj : p.getAllocationClassForId receiver with e' | ⟨j, rc⟩
    · simp [releaseSlab, hr, hj] at h
      obtain ⟨rfl, rfl⟩ := h
      exact ⟨rfl, rfl, hr, rfl⟩
    · simp [releaseSlab, hr, hj] at h

/-- A throw of `startSlabRelease` leaves the pool as it was, unless the victim class gave a slab up
at once and `releaseSlab` then could not find the receiver. -/
lemma startSlabRelease_throw {victim receiver : Int} {mode : SlabReleaseMode} {hint : Nat}
    {fn : SlabReleaseAbortFn} {e : Fault}
    (h : startSlabRelease ops kSize victim receiver mode hint fn p = .error e q) :
    q = p ∨ ∃ (i : Nat) (c : C) (ctx : SlabReleaseContext) (c' : C) (hd : SlabHeaders),
      p.getAllocationClassForId victim = .ok (i, c) ∧
      ops.startSlabRelease c p.slabAllocator.headers mode hint fn = .ok (ctx, c', hd) ∧
      ctx.isReleased = true ∧ q = setHeaders hd (setClass i c' p) := by
  by_cases h1 : receiver ≠ Slab.kInvalidClassId ∧ mode ≠ .kRebalance
  · simp [startSlabRelease, obtainReleaseContext, h1] at h
    exact .inl h.2.symm
  by_cases h2 : victim = Slab.kInvalidClassId
  · by_cases h3 : mode ≠ .kResize
    · simp [startSlabRelease, obtainReleaseContext, h1, h2, h3] at h
      exact .inl h.2.symm
    rcases hfs : p.freeSlabs with _ | ⟨s, rest⟩
    · simp [startSlabRelease, obtainReleaseContext, h1, h2, h3, releaseFromFreeSlabs, hfs] at h
      exact .inl h.2.symm
    · have hr : receiver = Slab.kInvalidClassId := by
        by_contra hr
        exact h1 ⟨hr, by simp only [not_not] at h3; rw [h3]; decide⟩
      simp only [not_not] at h3
      simp [startSlabRelease, obtainReleaseContext, h2, h3, hr, releaseFromFreeSlabs, hfs, releaseSlab, map_eq_error] at h
  rcases hroute : p.getAllocationClassForId victim with e' | ⟨i, c⟩
  · simp [startSlabRelease, obtainReleaseContext, h1, h2, hroute] at h
    exact .inl h.2.symm
  rcases hs : ops.startSlabRelease c p.slabAllocator.headers mode hint fn with e' | ⟨ctx, c', hd⟩
  · simp [startSlabRelease, obtainReleaseContext, h1, h2, hroute, hs] at h
    exact .inl h.2.symm
  by_cases hrel : ctx.isReleased = true
  · simp [startSlabRelease, obtainReleaseContext, h1, h2, hroute, hs, hrel, map_eq_error] at h
    exact .inr ⟨i, c, ctx, c', hd, rfl, hs, hrel, (releaseSlab_throw h).1⟩
  · simp [startSlabRelease, obtainReleaseContext, h1, h2, hroute, hs, hrel, map_eq_error] at h

/-- A throw of `completeSlabRelease` leaves the pool as it was, unless the class gave the slab up
and `releaseSlab` then could not find the receiver. -/
lemma completeSlabRelease_throw {ctx : SlabReleaseContext} {e : Fault}
    (h : completeSlabRelease ops kSize ctx p = .error e q) :
    q = p ∨ ∃ (i : Nat) (c c' : C) (hd : SlabHeaders),
      p.getAllocationClassForId ctx.classId = .ok (i, c) ∧
      ops.completeSlabRelease c p.slabAllocator.headers ctx = .ok (true, c', hd) ∧
      q = setHeaders hd (setClass i c' p) := by
  by_cases hrel : ctx.isReleased = true
  · simp [completeSlabRelease, completeInClass, hrel] at h
  by_cases h1 : ctx.receiver ≠ Slab.kInvalidClassId ∧ ctx.mode ≠ .kRebalance
  · simp [completeSlabRelease, completeInClass, hrel, h1] at h
    exact .inl h.2.symm
  rcases hroute : p.getAllocationClassForId ctx.classId with e' | ⟨i, c⟩
  · simp [completeSlabRelease, completeInClass, hrel, h1, hroute] at h
    exact .inl h.2.symm
  rcases hs : ops.completeSlabRelease c p.slabAllocator.headers ctx with e' | ⟨_ | _, c', hd⟩
  · simp [completeSlabRelease, completeInClass, hrel, h1, hroute, hs] at h
    exact .inl h.2.symm
  · simp [completeSlabRelease, completeInClass, hrel, h1, hroute, hs] at h
  · simp [completeSlabRelease, completeInClass, hrel, h1, hroute, hs] at h
    exact .inr ⟨i, c, c', hd, rfl, hs, (releaseSlab_throw h).1⟩

/-- A throw of `abortSlabRelease` leaves the pool as it was. -/
lemma abortSlabRelease_throw {ctx : SlabReleaseContext} {e : Fault}
    (h : abortSlabRelease ops ctx p = .error e q) : q = p := by
  rcases hroute : p.getAllocationClassForId ctx.classId with e' | ⟨i, c⟩
  · simp [abortSlabRelease, hroute] at h
    exact h.2.symm
  rcases hs : ops.abortSlabRelease c p.slabAllocator.headers ctx with e' | ⟨c', hd⟩
  · simp [abortSlabRelease, hroute, hs] at h
    exact h.2.symm
  · simp [abortSlabRelease, hroute, hs] at h

/-! ## Over every run -/

variable {kMinAllocSize : Nat} {id : Int} {poolSize : Nat} {allocSizes : List Nat}
  {p₀ : MemoryPool C} {tr : List (PoolCall × PoolReturn)}

/-- **The slab-release calls index out of range and lose slabs.** In every state of a run from
construction: `startSlabRelease`, `completeSlabRelease` and `abortSlabRelease` given a negative
class id other than `kInvalidClassId` as victim, or a context whose class id is negative (such as
the one `releaseFromFreeSlabs` returns, with `kInvalidClassId`), go to `ac_[cid]` with `cid < 0`;
and a `completeSlabRelease` whose receiver is past `ac_` throws after the class has given its
slab up, which is then lost. -/
theorem slabRelease_faults (hops : ops.Lawful kSize) (hsa : sa₀.WellFormed)
    (hcreate : create ops kSize kMinAllocSize id poolSize sa₀ allocSizes = .ok p₀)
    (hr : Reachable ops kSize p₀ tr p) :
    (∀ (victim receiver : Int) mode hint fn, victim < 0 → victim ≠ Slab.kInvalidClassId →
        ¬(receiver ≠ Slab.kInvalidClassId ∧ mode ≠ .kRebalance) →
        startSlabRelease ops kSize victim receiver mode hint fn p =
          .error (.indexOutOfBounds victim) p) ∧
    (∀ ctx : SlabReleaseContext, ctx.classId < 0 →
        abortSlabRelease ops ctx p = .error (.indexOutOfBounds ctx.classId) p) ∧
    (∀ ctx : SlabReleaseContext, ctx.classId < 0 → ctx.isReleased = false →
        ¬(ctx.receiver ≠ Slab.kInvalidClassId ∧ ctx.mode ≠ .kRebalance) →
        completeSlabRelease ops kSize ctx p = .error (.indexOutOfBounds ctx.classId) p) ∧
    (∀ (ctx : SlabReleaseContext) (i : Nat) (c c' : C) (h : SlabHeaders),
        p.getAllocationClassForId ctx.classId = .ok (i, c) → ctx.isReleased = false →
        ctx.mode = .kRebalance → (p.ac.length : Int) ≤ ctx.receiver →
        ops.completeSlabRelease c p.slabAllocator.headers ctx = .ok (true, c', h) →
        ∃ q, completeSlabRelease ops kSize ctx p =
            .error (.invalidArgument s!"Invalid classId {ctx.receiver}") q ∧
          LostSlab ops ctx.slab p q) :=
  ⟨fun _ _ _ _ _ hv hvi hrm => startSlabRelease_neg hv hvi hrm,
    fun _ h => abortSlabRelease_neg h,
    fun _ h hrel hrm => completeSlabRelease_neg h hrel hrm,
    fun _ _ _ _ _ hroute hrel hmode hrecv hs =>
      completeSlabRelease_loses_slab hops (reachable_accounted hops hsa hcreate hr).1 hroute hrel
        hmode hrecv hs⟩

/-- On a fresh pool, `startSlabRelease(-2, kInvalidClassId, kResize, …)`, and
`abortSlabRelease` of the context `releaseFromFreeSlabs` would return, go to `ac_[-2]` and
`ac_[-1]`. -/
theorem slabRelease_faults_fresh :
    let ops := ReferenceClass.ops 8 1
    let p₀ : MemoryPool ReferenceClass :=
      { id := 0, maxSize := 16, slabAllocator := SlabAllocator.init 1 2, acSizes := [4],
        ac := [{ constants := ⟨0, 0, 4⟩, held := [], live := [], releasing := [] }],
        freeSlabs := [], currAllocSize := 0, currSlabAllocSize := 0, nSlabResize := 0,
        nSlabRebalance := 0, nSlabReleaseAborted := 0 }
    startSlabRelease ops 8 (-2) Slab.kInvalidClassId .kResize 0 (fun _ => false) p₀ =
        .error (.indexOutOfBounds (-2)) p₀ ∧
      abortSlabRelease ops (freeSlabContext 0 ⟨1⟩) p₀ =
        .error (.indexOutOfBounds Slab.kInvalidClassId) p₀ := by
  intro ops p₀
  have hcreate : create ops 8 1 0 16 (SlabAllocator.init 1 2) [4] = .ok p₀ := rfl
  have hf := slabRelease_faults (ReferenceClass.lawful Nat.one_pos)
    (SlabAllocator.WellFormed.init 1 2) hcreate .init
  exact ⟨hf.1 _ _ _ _ _ (by decide) (by decide) (by decide), hf.2.1 _ (by decide)⟩

/-- The run the fourth part is about: a release of class 0's slab toward class 5, marked while
its chunk is out; once the chunk is freed, `completeSlabRelease` throws with slab 1 on neither
`freeSlabs_`, a class, nor the allocator's free slabs. -/
example :
    let ops := ReferenceClass.ops 8 1
    let p₀ : MemoryPool ReferenceClass :=
      { id := 0, maxSize := 16, slabAllocator := SlabAllocator.init 1 2, acSizes := [4],
        ac := [{ constants := ⟨0, 0, 4⟩, held := [], live := [], releasing := [] }],
        freeSlabs := [], currAllocSize := 0, currSlabAllocSize := 0, nSlabResize := 0,
        nSlabRebalance := 0, nSlabReleaseAborted := 0 }
    let ctx : SlabReleaseContext :=
      { slab := ⟨1⟩, poolId := 0, classId := 0, activeAllocations := [8], mode := .kRebalance,
        isReleased := false, receiver := 5 }
    ((runCalls ops 8 [] p₀ [.allocate 3, .startSlabRelease 0 5 .kRebalance 0 (fun _ => false),
        .free 8]).bind fun x => match completeSlabRelease ops 8 ctx x.2 with
      | .error _ q => some (q.freeSlabs, q.ac.flatMap ops.held, q.slabAllocator.freeSlabs)
      | .ok _ _ => none) = some ([], [], [⟨2⟩]) := by
  decide

end MemoryPool

end SlabPool
