import SlabPool.Construction.Pool.Operations

/-!
# What each call does

A call of `PoolM` that returns normally has taken one of a few paths through its body, and each
path is a composition of the named writes of `Operations.lean`.  This module says so once per
call, as an inductive relation with one constructor per path (`AllocatePath`, `FreePath`,
`StartPath`, `CompletePath`, `AbortPath`, and `ReleasePath` and `SlabLockedPath` for the two
pieces they share), and proves that every normal return is one of them (`allocate_path`, …,
`call_step`).  Every invariant of the pool is then proved by cases on the paths, with no
unfolding of the calls' bodies; `Reachable.induction` is the induction over runs they share.

`Frame` collects what no call writes: the pool's id, its limit, its size table, the number of
its classes and the slab allocator's region.
-/

namespace SlabPool

namespace MemoryPool

variable {C : Type}

/-! ## Running a call

The laws of `PoolM` the paths are read off with: a call that returns normally went through each
of its steps normally. -/

section Monad
variable {α β : Type} {f : α → PoolM C β} {p : MemoryPool C}

lemma bind_eq_ok {x : PoolM C α} {b : β} {p' : MemoryPool C} :
    (x >>= f) p = .ok b p' ↔ ∃ a q, x p = .ok a q ∧ f a q = .ok b p' := by
  change EStateM.bind x f p = _ ↔ _
  unfold EStateM.bind
  cases hx : x p with
  | ok a q => exact ⟨fun h => ⟨a, q, rfl, h⟩, fun ⟨_, _, h, hf⟩ => by cases h; exact hf⟩
  | error e q => exact ⟨nofun, fun ⟨_, _, h, _⟩ => by cases h⟩

lemma map_eq_ok {g : α → β} {x : PoolM C α} {b : β} {p' : MemoryPool C} :
    (g <$> x) p = .ok b p' ↔ ∃ a, x p = .ok a p' ∧ g a = b := by
  change EStateM.map g x p = _ ↔ _
  unfold EStateM.map
  cases hx : x p with
  | ok a q => exact ⟨fun h => by cases h; exact ⟨a, rfl, rfl⟩, fun ⟨_, h, hg⟩ => by cases h; subst hg; rfl⟩
  | error e q => exact ⟨nofun, fun ⟨_, h, _⟩ => by cases h⟩

lemma map_eq_error {g : α → β} {x : PoolM C α} {e : Fault} {p' : MemoryPool C} :
    (g <$> x) p = .error e p' ↔ x p = .error e p' := by
  change EStateM.map g x p = _ ↔ _
  unfold EStateM.map
  cases x p <;> simp

lemma bind_eq_error {x : PoolM C α} {e : Fault} {p' : MemoryPool C} :
    (x >>= f) p = .error e p' ↔ x p = .error e p' ∨ ∃ a q, x p = .ok a q ∧ f a q = .error e p' := by
  change EStateM.bind x f p = _ ↔ _
  unfold EStateM.bind
  cases x p with
  | ok a q =>
    show f a q = _ ↔ _
    exact ⟨fun h => .inr ⟨a, q, rfl, h⟩, fun h => h.elim nofun fun ⟨_, _, h, hf⟩ => by
      cases h; exact hf⟩
  | error e q => simp

lemma bind_of_ok {x : PoolM C α} {a : α} {q : MemoryPool C} (h : x p = .ok a q) :
    (x >>= f) p = f a q := by
  change EStateM.bind x f p = _
  unfold EStateM.bind
  rw [h]

lemma bind_of_error {x : PoolM C α} {e : Fault} {q : MemoryPool C} (h : x p = .error e q) :
    (x >>= f) p = .error e q := by
  change EStateM.bind x f p = _
  unfold EStateM.bind
  rw [h]

lemma map_of_ok {g : α → β} {x : PoolM C α} {a : α} {q : MemoryPool C} (h : x p = .ok a q) :
    (g <$> x) p = .ok (g a) q := by
  change EStateM.map g x p = _
  unfold EStateM.map
  rw [h]

lemma map_of_error {g : α → β} {x : PoolM C α} {e : Fault} {q : MemoryPool C}
    (h : x p = .error e q) : (g <$> x) p = .error e q := by
  change EStateM.map g x p = _
  unfold EStateM.map
  rw [h]

@[simp] lemma get_bind {f : MemoryPool C → PoolM C β} : (get >>= f) p = f p p := rfl
@[simp] lemma set_bind (q : MemoryPool C) {f : PUnit → PoolM C β} : (set q >>= f) p = f ⟨⟩ q := rfl
@[simp] lemma modify_bind (g : MemoryPool C → MemoryPool C) {f : PUnit → PoolM C β} :
    (modify g >>= f) p = f ⟨⟩ (g p) := rfl
@[simp] lemma pure_bind_apply (a : α) : (pure a >>= f) p = f a p := rfl
@[simp] lemma pure_apply (a : α) : (pure a : PoolM C α) p = .ok a p := rfl
@[simp] lemma modify_apply (g : MemoryPool C → MemoryPool C) :
    (modify g : PoolM C PUnit) p = .ok ⟨⟩ (g p) := rfl
@[simp] lemma map_modify_apply (g : PUnit → β) (h : MemoryPool C → MemoryPool C) :
    (g <$> (modify h : PoolM C PUnit)) p = .ok (g ⟨⟩) (h p) := rfl
@[simp] lemma throw_apply (e : Fault) : (throw e : PoolM C α) p = .error e p := rfl
@[simp] lemma throw_bind (e : Fault) : (throw e >>= f) p = .error e p := rfl
@[simp] lemma liftExcept_ok_bind (a : α) : (liftExcept (.ok a) >>= f) p = f a p := rfl
@[simp] lemma liftExcept_error_bind (e : Fault) : (liftExcept (.error e) >>= f) p = .error e p := rfl
end Monad

/-! ## The paths -/

variable (ops : AllocationClassOps C) (kSize : Nat)

/-- The paths of `releaseSlab(mode, slab, receiver)`. -/
inductive ReleasePath (slab : Slab) (receiver : Int) (p : MemoryPool C) :
    SlabReleaseMode → MemoryPool C → Prop
  /-- `kResize`: the slab goes back to the slab allocator. -/
  | resize : ReleasePath slab receiver p .kResize
      (countResize (decrementSlabAllocSize kSize (freeSlabToAllocator slab p)))
  /-- `kRebalance` to a receiver: the receiver class takes the slab. -/
  | toClass {j rc rc' h} : receiver ≠ Slab.kInvalidClassId →
      p.getAllocationClassForId receiver = .ok (j, rc) →
      ops.addSlab rc p.slabAllocator.headers slab = (rc', h) →
      ReleasePath slab receiver p .kRebalance (countRebalance (setHeaders h (setClass j rc' p)))
  /-- `kRebalance` with no receiver: the slab goes onto the pool's free slabs. -/
  | toFreeSlabs : receiver = Slab.kInvalidClassId →
      ReleasePath slab receiver p .kRebalance
        (countRebalance (decrementSlabAllocSize kSize (pushFreeSlab slab p)))

/-- The paths of `getSlabLocked()`. -/
inductive SlabLockedPath (p : MemoryPool C) : Option Slab → MemoryPool C → Prop
  /-- The pool is at its limit. -/
  | full : p.allSlabsAllocated → SlabLockedPath p none p
  /-- A slab off the pool's free slabs. -/
  | pop {s rest} : p.allSlabsAllocated = false → p.freeSlabs = s :: rest →
      SlabLockedPath p (some s) { incrementSlabAllocSize kSize p with freeSlabs := rest }
  /-- A new slab from the slab allocator. -/
  | make {s sa} : p.allSlabsAllocated = false → p.freeSlabs = [] →
      p.slabAllocator.makeNewSlab p.id = (some s, sa) →
      SlabLockedPath p (some s) { incrementSlabAllocSize kSize p with slabAllocator := sa }
  /-- The slab allocator has none left: the size is bumped back down. -/
  | exhausted {sa} : p.allSlabsAllocated = false → p.freeSlabs = [] →
      p.slabAllocator.makeNewSlab p.id = (none, sa) →
      SlabLockedPath p none
        (decrementSlabAllocSize kSize { incrementSlabAllocSize kSize p with slabAllocator := sa })

/-- The paths by which `allocate(size)` returns. -/
inductive AllocatePath (size : Nat) (p : MemoryPool C) : Option Nat → MemoryPool C → Prop
  /-- The class had a chunk. -/
  | fast {i c a c'} : p.getAllocationClassFor size = .ok (i, c) → ops.allocate c = (some a, c') →
      AllocatePath size p (some a) (addAllocSize (ops.constants c').allocationSize (setClass i c' p))
  /-- The class had none, and the pool is at its limit. -/
  | full {i c c'} : p.getAllocationClassFor size = .ok (i, c) → ops.allocate c = (none, c') →
      (setClass i c' p).allSlabsAllocated → AllocatePath size p none (setClass i c' p)
  /-- The class had a chunk on the second try, under the lock. -/
  | retry {i c c' a c''} : p.getAllocationClassFor size = .ok (i, c) →
      ops.allocate c = (none, c') → (setClass i c' p).allSlabsAllocated = false →
      ops.allocate c' = (some a, c'') →
      AllocatePath size p (some a)
        (addAllocSize (ops.constants c').allocationSize (setClass i c'' (setClass i c' p)))
  /-- No slab could be had. -/
  | noSlab {i c c' c'' q} : p.getAllocationClassFor size = .ok (i, c) →
      ops.allocate c = (none, c') → (setClass i c' p).allSlabsAllocated = false →
      ops.allocate c' = (none, c'') →
      SlabLockedPath kSize (setClass i c'' (setClass i c' p)) none q → AllocatePath size p none q
  /-- A slab was had, and the class carved a chunk of it. -/
  | newSlab {i c c' c'' s q a c₃ h} : p.getAllocationClassFor size = .ok (i, c) →
      ops.allocate c = (none, c') → (setClass i c' p).allSlabsAllocated = false →
      ops.allocate c' = (none, c'') →
      SlabLockedPath kSize (setClass i c'' (setClass i c' p)) (some s) q →
      ops.addSlabAndAllocate c'' q.slabAllocator.headers s = (a, c₃, h) →
      AllocatePath size p (some a)
        (addAllocSize (ops.constants c').allocationSize (setHeaders h (setClass i c₃ q)))

/-- The paths by which `free(alloc)` returns. -/
inductive FreePath (alloc : Nat) (p : MemoryPool C) : MemoryPool C → Prop
  /-- The class keeps the chunk's slab. -/
  | kept {i c c'} : p.getAllocationClassForMemory kSize alloc = .ok (i, c) →
      ops.free c alloc = .ok (false, c') →
      FreePath alloc p (subAllocSize (ops.constants c').allocationSize (setClass i c' p))
  /-- The class gave the chunk's slab up, and it goes back to the slab allocator. -/
  | released {i c c' q} : p.getAllocationClassForMemory kSize alloc = .ok (i, c) →
      ops.free c alloc = .ok (true, c') →
      ReleasePath ops kSize (slabOf kSize alloc) Slab.kInvalidClassId (setClass i c' p) .kResize q →
      FreePath alloc p (subAllocSize (ops.constants c').allocationSize q)

/-- The context `releaseFromFreeSlabs()` returns. -/
def freeSlabContext (id : Int) (slab : Slab) : SlabReleaseContext :=
  { slab, poolId := id, classId := Slab.kInvalidClassId, activeAllocations := [], mode := .kResize,
    isReleased := true }

/-- The paths by which `startSlabRelease(victim, receiver, mode, hint, shouldAbortFn)`
returns. -/
inductive StartPath (victim receiver : Int) (mode : SlabReleaseMode) (hint : Nat)
    (shouldAbortFn : SlabReleaseAbortFn) (p : MemoryPool C) :
    SlabReleaseContext → MemoryPool C → Prop
  /-- `victim` is `kInvalidClassId`: a slab off the pool's free slabs, released at once. -/
  | fromFreeSlabs {s rest q} : victim = Slab.kInvalidClassId → mode = .kResize →
      receiver = Slab.kInvalidClassId → p.freeSlabs = s :: rest →
      ReleasePath ops kSize s receiver { p with freeSlabs := rest } .kResize q →
      StartPath victim receiver mode hint shouldAbortFn p
        ((freeSlabContext p.id s).setReceiver receiver) q
  /-- The victim class marked a slab, to be completed later. -/
  | marked {i c ctx c' h} : ¬(receiver ≠ Slab.kInvalidClassId ∧ mode ≠ .kRebalance) →
      victim ≠ Slab.kInvalidClassId → p.getAllocationClassForId victim = .ok (i, c) →
      ops.startSlabRelease c p.slabAllocator.headers mode hint shouldAbortFn = .ok (ctx, c', h) →
      ctx.isReleased = false →
      StartPath victim receiver mode hint shouldAbortFn p (ctx.setReceiver receiver)
        (setHeaders h (setClass i c' p))
  /-- The victim class gave a slab up at once, and `releaseSlab` placed it. -/
  | released {i c ctx c' h q} : ¬(receiver ≠ Slab.kInvalidClassId ∧ mode ≠ .kRebalance) →
      victim ≠ Slab.kInvalidClassId → p.getAllocationClassForId victim = .ok (i, c) →
      ops.startSlabRelease c p.slabAllocator.headers mode hint shouldAbortFn = .ok (ctx, c', h) →
      ctx.isReleased = true →
      ReleasePath ops kSize ctx.slab receiver (setHeaders h (setClass i c' p)) ctx.mode q →
      StartPath victim receiver mode hint shouldAbortFn p (ctx.setReceiver receiver) q

/-- The paths by which `completeSlabRelease(context)` returns. -/
inductive CompletePath (ctx : SlabReleaseContext) (p : MemoryPool C) : MemoryPool C → Prop
  /-- The context was released already: nothing to do. -/
  | already : ctx.isReleased = true → CompletePath ctx p p
  /-- The class is not done draining the slab. -/
  | pending {i c c' h} : ctx.isReleased = false →
      ¬(ctx.receiver ≠ Slab.kInvalidClassId ∧ ctx.mode ≠ .kRebalance) →
      p.getAllocationClassForId ctx.classId = .ok (i, c) →
      ops.completeSlabRelease c p.slabAllocator.headers ctx = .ok (false, c', h) →
      CompletePath ctx p (setHeaders h (setClass i c' p))
  /-- The class gave the slab up, and `releaseSlab` placed it. -/
  | done {i c c' h q} : ctx.isReleased = false →
      ¬(ctx.receiver ≠ Slab.kInvalidClassId ∧ ctx.mode ≠ .kRebalance) →
      p.getAllocationClassForId ctx.classId = .ok (i, c) →
      ops.completeSlabRelease c p.slabAllocator.headers ctx = .ok (true, c', h) →
      ReleasePath ops kSize ctx.slab ctx.receiver (setHeaders h (setClass i c' p)) ctx.mode q →
      CompletePath ctx p q

/-- The path by which `abortSlabRelease(context)` returns. -/
inductive AbortPath (ctx : SlabReleaseContext) (p : MemoryPool C) : MemoryPool C → Prop
  | abort {i c c' h} : p.getAllocationClassForId ctx.classId = .ok (i, c) →
      ops.abortSlabRelease c p.slabAllocator.headers ctx = .ok (c', h) →
      AbortPath ctx p (countAborted (setHeaders h (setClass i c' p)))

/-- What one call of a run did: the path it returned by. -/
inductive Step (p : MemoryPool C) : PoolCall → PoolReturn → MemoryPool C → Prop
  | allocate {size r q} : AllocatePath ops kSize size p r q → Step p (.allocate size) (.pointer r) q
  | free {alloc q} : FreePath ops kSize alloc p q → Step p (.free alloc) .unit q
  | startSlabRelease {victim receiver mode hint fn ctx q} :
      StartPath ops kSize victim receiver mode hint fn p ctx q →
      Step p (.startSlabRelease victim receiver mode hint fn) (.context ctx) q
  | completeSlabRelease {ctx q} : CompletePath ops kSize ctx p q →
      Step p (.completeSlabRelease ctx) .unit q
  | abortSlabRelease {ctx q} : AbortPath ops ctx p q → Step p (.abortSlabRelease ctx) .unit q

/-- The fields no call writes, and the number of classes. -/
structure Frame (p q : MemoryPool C) : Prop where
  id : q.id = p.id
  maxSize : q.maxSize = p.maxSize
  acSizes : q.acSizes = p.acSizes
  ac_length : q.ac.length = p.ac.length
  memoryStart : q.slabAllocator.memoryStart = p.slabAllocator.memoryStart
  numSlabs : q.slabAllocator.numSlabs = p.slabAllocator.numSlabs

variable {ops kSize}
variable {p p' : MemoryPool C}

/-! ## Every normal return takes a path -/

theorem releaseSlab_path {mode : SlabReleaseMode} {slab : Slab} {receiver : Int} {u : PUnit}
    (h : releaseSlab ops kSize mode slab receiver p = .ok u p') :
    ReleasePath ops kSize slab receiver p mode p' := by
  cases mode
  · simp [releaseSlab] at h
    obtain ⟨-, rfl⟩ := h
    exact .resize
  · by_cases hr : receiver = Slab.kInvalidClassId
    · simp [releaseSlab, hr] at h
      obtain ⟨-, rfl⟩ := h
      exact .toFreeSlabs hr
    rcases hj : p.getAllocationClassForId receiver with e | ⟨j, rc⟩
    · simp [releaseSlab, hr, hj] at h
    rcases ha : ops.addSlab rc p.slabAllocator.headers slab with ⟨rc', hd⟩
    simp [releaseSlab, hr, hj, ha] at h
    obtain ⟨-, rfl⟩ := h
    exact .toClass hr hj ha

theorem slabLockedPath_of_eq {s : Option Slab} (h : getSlabLocked kSize p = (s, p')) :
    SlabLockedPath kSize p s p' := by
  unfold getSlabLocked at h
  split_ifs at h with hfull
  · cases h
    exact .full hfull
  simp only [Bool.not_eq_true] at hfull
  dsimp only at h
  split at h
  · cases h
    exact .pop hfull ‹_›
  · split at h <;> cases h
    · exact .make hfull ‹_› ‹_›
    · exact .exhausted hfull ‹_› ‹_›

/-- The class a call has just written is the one `ac_[i]` reads. -/
lemma acAt_setClass (c' : C) {i : Nat} {c : C} (hi : p.ac[i]? = some c) :
    (setClass i c' p).acAt i = .ok (i, c') := by
  have : i < p.ac.length := (List.getElem?_eq_some_iff.1 hi).1
  rw [acAt, if_pos (by omega)]
  simp [List.getElem?_set, this]

theorem allocate_path {size : Nat} {r : Option Nat} (h : allocate ops kSize size p = .ok r p') :
    AllocatePath ops kSize size p r p' := by
  rcases hroute : p.getAllocationClassFor size with e | ⟨i, c⟩
  · simp [allocate, allocateFast, hroute] at h
  have hi := (getAllocationClassFor_eq_ok hroute).1
  rcases h1 : ops.allocate c with ⟨_ | a, c'⟩
  · by_cases hfull : (setClass i c' p).allSlabsAllocated
    · simp [allocate, allocateFast, hroute, h1, hfull] at h
      obtain ⟨rfl, rfl⟩ := h
      exact .full hroute h1 hfull
    simp only [Bool.not_eq_true] at hfull
    have hat := acAt_setClass c' hi
    rcases h2 : ops.allocate c' with ⟨_ | a, c''⟩
    · rcases h3 : getSlabLocked kSize (setClass i c'' (setClass i c' p)) with ⟨_ | s, q⟩
      · simp [allocate, allocateFast, allocateLocked, hroute, h1, hfull, hat, h2, h3] at h
        obtain ⟨rfl, rfl⟩ := h
        exact .noSlab hroute h1 hfull h2 (slabLockedPath_of_eq h3)
      · rcases h4 : ops.addSlabAndAllocate c'' q.slabAllocator.headers s with ⟨a, c₃, hd⟩
        simp [allocate, allocateFast, allocateLocked, hroute, h1, hfull, hat, h2, h3, h4] at h
        obtain ⟨rfl, rfl⟩ := h
        exact .newSlab hroute h1 hfull h2 (slabLockedPath_of_eq h3) h4
    · simp [allocate, allocateFast, allocateLocked, hroute, h1, hfull, hat, h2] at h
      obtain ⟨rfl, rfl⟩ := h
      exact .retry hroute h1 hfull h2
  · simp [allocate, allocateFast, hroute, h1] at h
    obtain ⟨rfl, rfl⟩ := h
    exact .fast hroute h1

theorem free_path {alloc : Nat} {u : PUnit} (h : free ops kSize alloc p = .ok u p') :
    FreePath ops kSize alloc p p' := by
  rcases hroute : p.getAllocationClassForMemory kSize alloc with e | ⟨i, c⟩
  · simp [free, freeToClass, hroute] at h
  rcases hf : ops.free c alloc with e | ⟨_ | _, c'⟩
  · simp [free, freeToClass, hroute, hf] at h
  · simp [free, freeToClass, hroute, hf] at h
    obtain ⟨-, rfl⟩ := h
    exact .kept hroute hf
  · simp [free, freeToClass, hroute, hf, bind_eq_ok] at h
    obtain ⟨_, q, hq, -, rfl⟩ := h
    exact .released hroute hf (releaseSlab_path hq)

theorem startSlabRelease_path {victim receiver : Int} {mode : SlabReleaseMode} {hint : Nat}
    {fn : SlabReleaseAbortFn} {ctx : SlabReleaseContext}
    (h : startSlabRelease ops kSize victim receiver mode hint fn p = .ok ctx p') :
    StartPath ops kSize victim receiver mode hint fn p ctx p' := by
  by_cases g1 : receiver ≠ Slab.kInvalidClassId ∧ mode ≠ .kRebalance
  · simp [startSlabRelease, obtainReleaseContext, g1] at h
  by_cases g2 : victim = Slab.kInvalidClassId ∧ mode ≠ .kResize
  · simp [startSlabRelease, obtainReleaseContext, g1, g2] at h
  by_cases hv : victim = Slab.kInvalidClassId
  · have hm : mode = .kResize := by cases mode <;> simp_all
    have hr : receiver = Slab.kInvalidClassId := by simp_all
    subst hv hm hr
    rcases hf : p.freeSlabs with _ | ⟨s, rest⟩
    · simp [startSlabRelease, obtainReleaseContext, releaseFromFreeSlabs, hf] at h
    · simp [startSlabRelease, obtainReleaseContext, releaseFromFreeSlabs, hf, map_eq_ok] at h
      obtain ⟨⟨_, hq⟩, rfl⟩ := h
      exact .fromFreeSlabs rfl rfl rfl hf (releaseSlab_path hq)
  rcases hroute : p.getAllocationClassForId victim with e | ⟨i, c⟩
  · simp [startSlabRelease, obtainReleaseContext, g1, g2, hv, hroute] at h
  rcases hs : ops.startSlabRelease c p.slabAllocator.headers mode hint fn with e | ⟨ctx', c', hd⟩
  · simp [startSlabRelease, obtainReleaseContext, g1, g2, hv, hroute, hs] at h
  cases hrel : ctx'.isReleased
  · simp [startSlabRelease, obtainReleaseContext, g1, g2, hv, hroute, hs, hrel] at h
    obtain ⟨rfl, rfl⟩ := h
    exact .marked g1 hv hroute hs hrel
  · simp [startSlabRelease, obtainReleaseContext, g1, g2, hv, hroute, hs, hrel, map_eq_ok] at h
    obtain ⟨⟨_, hq⟩, rfl⟩ := h
    exact .released g1 hv hroute hs hrel (releaseSlab_path hq)

theorem completeSlabRelease_path {ctx : SlabReleaseContext} {u : PUnit}
    (h : completeSlabRelease ops kSize ctx p = .ok u p') : CompletePath ops kSize ctx p p' := by
  cases hrel : ctx.isReleased
  swap
  · simp [completeSlabRelease, completeInClass, hrel] at h
    obtain ⟨-, rfl⟩ := h
    exact .already hrel
  by_cases g : ctx.receiver ≠ Slab.kInvalidClassId ∧ ctx.mode ≠ .kRebalance
  · simp [completeSlabRelease, completeInClass, hrel, g] at h
  rcases hroute : p.getAllocationClassForId ctx.classId with e | ⟨i, c⟩
  · simp [completeSlabRelease, completeInClass, hrel, g, hroute] at h
  rcases hs : ops.completeSlabRelease c p.slabAllocator.headers ctx with e | ⟨_ | _, c', hd⟩
  · simp [completeSlabRelease, completeInClass, hrel, g, hroute, hs] at h
  · simp [completeSlabRelease, completeInClass, hrel, g, hroute, hs] at h
    obtain ⟨-, rfl⟩ := h
    exact .pending hrel g hroute hs
  · simp [completeSlabRelease, completeInClass, hrel, g, hroute, hs, bind_eq_ok] at h
    exact .done hrel g hroute hs (releaseSlab_path h)

theorem abortSlabRelease_path {ctx : SlabReleaseContext} {u : PUnit}
    (h : abortSlabRelease ops ctx p = .ok u p') : AbortPath ops ctx p p' := by
  rcases hroute : p.getAllocationClassForId ctx.classId with e | ⟨i, c⟩
  · simp [abortSlabRelease, hroute] at h
  rcases hs : ops.abortSlabRelease c p.slabAllocator.headers ctx with e | ⟨c', hd⟩
  · simp [abortSlabRelease, hroute, hs] at h
  simp [abortSlabRelease, hroute, hs] at h
  obtain ⟨-, rfl⟩ := h
  exact .abort hroute hs

theorem call_step {c : PoolCall} {r : PoolReturn} (h : call ops kSize c p = .ok r p') :
    Step ops kSize p c r p' := by
  cases c <;> simp only [call, map_eq_ok] at h <;> obtain ⟨_, h, rfl⟩ := h
  · exact .allocate (allocate_path h)
  · exact .free (free_path h)
  · exact .startSlabRelease (startSlabRelease_path h)
  · exact .completeSlabRelease (completeSlabRelease_path h)
  · exact .abortSlabRelease (abortSlabRelease_path h)

/-! ## Runs -/

/-- **Induction over runs.**  A property of the trace and the state that holds at the start and
that every call's path keeps holds of every reachable state. -/
theorem Reachable.induction {p₀ : MemoryPool C} {I : List (PoolCall × PoolReturn) → MemoryPool C → Prop}
    (h0 : I [] p₀)
    (hstep : ∀ {tr p c r p'}, Reachable ops kSize p₀ tr p → I tr p → Step ops kSize p c r p' →
      I (tr ++ [(c, r)]) p')
    {tr : List (PoolCall × PoolReturn)} (h : Reachable ops kSize p₀ tr p) : I tr p := by
  induction h with
  | init => exact h0
  | step hr hc ih => exact hstep hr ih (call_step hc)

/-- A run of calls that all return extends a run. -/
theorem Reachable.of_runCalls {p₀ : MemoryPool C} {tr tr' : List (PoolCall × PoolReturn)}
    {cs : List PoolCall} (h : Reachable ops kSize p₀ tr p)
    (hrun : runCalls ops kSize tr p cs = some (tr', p')) : Reachable ops kSize p₀ tr' p' := by
  induction cs generalizing tr p with
  | nil =>
    obtain ⟨rfl, rfl⟩ := Prod.mk.inj (Option.some.inj hrun)
    exact h
  | cons c cs ih =>
    simp only [runCalls] at hrun
    split at hrun
    · exact ih (.step h ‹_›) hrun
    · cases hrun

/-! ## What no call writes -/

namespace Frame

lemma refl (p : MemoryPool C) : Frame p p := ⟨rfl, rfl, rfl, rfl, rfl, rfl⟩

lemma trans {q r : MemoryPool C} (h₁ : Frame p q) (h₂ : Frame q r) : Frame p r :=
  ⟨h₂.id.trans h₁.id, h₂.maxSize.trans h₁.maxSize, h₂.acSizes.trans h₁.acSizes,
    h₂.ac_length.trans h₁.ac_length, h₂.memoryStart.trans h₁.memoryStart,
    h₂.numSlabs.trans h₁.numSlabs⟩

end Frame

lemma ReleasePath.frame {s : Slab} {receiver : Int} {mode : SlabReleaseMode}
    (h : ReleasePath ops kSize s receiver p mode p') : Frame p p' := by
  cases h <;> exact ⟨rfl, rfl, rfl, by simp, rfl, rfl⟩

lemma SlabLockedPath.frame {s : Option Slab} (h : SlabLockedPath kSize p s p') : Frame p p' := by
  cases h with
  | full | pop => exact ⟨rfl, rfl, rfl, rfl, rfl, rfl⟩
  | make _ _ hm | exhausted _ _ hm =>
    exact ⟨rfl, rfl, rfl, rfl, (SlabAllocator.makeNewSlab_region hm).1,
      (SlabAllocator.makeNewSlab_region hm).2⟩

lemma Step.frame {c : PoolCall} {r : PoolReturn} (h : Step ops kSize p c r p') : Frame p p' := by
  cases h with
  | allocate h =>
    cases h with
    | noSlab _ _ _ _ hs => refine Frame.trans ?_ hs.frame; exact ⟨rfl, rfl, rfl, by simp, rfl, rfl⟩
    | newSlab _ _ _ _ hs _ =>
      refine (Frame.trans ?_ hs.frame).trans ?_ <;> exact ⟨rfl, rfl, rfl, by simp, rfl, rfl⟩
    | _ => exact ⟨rfl, rfl, rfl, by simp, rfl, rfl⟩
  | free h =>
    cases h with
    | kept => exact ⟨rfl, rfl, rfl, by simp, rfl, rfl⟩
    | released _ _ hr => refine (Frame.trans ?_ hr.frame).trans ?_ <;> exact ⟨rfl, rfl, rfl, by simp, rfl, rfl⟩
  | startSlabRelease h =>
    cases h with
    | fromFreeSlabs _ _ _ _ hr => refine Frame.trans ?_ hr.frame; exact ⟨rfl, rfl, rfl, rfl, rfl, rfl⟩
    | marked => exact ⟨rfl, rfl, rfl, by simp, rfl, rfl⟩
    | released _ _ _ _ _ hr => refine Frame.trans ?_ hr.frame; exact ⟨rfl, rfl, rfl, by simp, rfl, rfl⟩
  | completeSlabRelease h =>
    cases h with
    | already => exact .refl p
    | pending => exact ⟨rfl, rfl, rfl, by simp, rfl, rfl⟩
    | done _ _ _ _ hr => refine Frame.trans ?_ hr.frame; exact ⟨rfl, rfl, rfl, by simp, rfl, rfl⟩
  | abortSlabRelease h =>
    cases h
    exact ⟨rfl, rfl, rfl, by simp, rfl, rfl⟩

end MemoryPool

end SlabPool
