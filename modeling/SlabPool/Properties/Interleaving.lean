import SlabPool.Properties.Limit
import SlabPool.Properties.SlabRelease
import SlabPool.Construction.Pool.Threads

/-!
# The slab limit under any interleaving

The threads of `Construction/Pool/Threads.lean` take the steps of their calls in any order.  A
thread in the middle of a `releaseSlab` has a slab on its way to its destination, or a unit of
`currSlabAllocSize_` still to take off, or both.  `System.Bounded` is `Bounded` of the pool with
the slabs and units of all the threads, and with the slabs a `releaseSlab` that threw lost on
their way.  One step of one thread keeps it (`next_bounded`), and so every interleaving from a
constructed pool does (`Interleaving.bounded`).

So `currSlabAllocSize_` stays below `maxSize_ + Slab::kSize`, and so does `Slab::kSize` times the
number of slabs the pool owns; both are at most `maxSize_` when `Slab::kSize` divides it.  When it
does not, two `allocate`s of one thread already go past `maxSize_`: `allSlabsAllocated()` compares
the counter before the bump with `maxSize_`, not the counter after it.  From below, the counter
is never behind: it counts every slab the classes hold and a unit for every thread in the middle
of a `releaseSlab`, which takes its unit off only after the slab reached its destination
(`currSlabAllocSize_covers_interleaved`).  The free-slab resize is left out: it takes off a unit
that no class's slab accounted for (`SlabCount.lean`).
-/

namespace SlabPool

namespace MemoryPool

open scoped List

variable {C : Type} {ops : AllocationClassOps C} {kSize : Nat} {sa₀ : SlabAllocator}
variable {limit : Nat} {T : List Slab} {N : Nat} {p q : MemoryPool C} {e : Fault}

/-! ## What each step does

The pieces `Threads.lean` splits the calls into, read back as `Calls.lean` reads the calls: a
normal return names the class calls it made, and a throw leaves the pool as it was. -/

section Pieces

lemma allocateFast_eq_ok {size i allocSize : Nat} {alloc : Option Nat}
    (h : allocateFast ops size p = .ok (i, allocSize, alloc) q) :
    ∃ c c', p.getAllocationClassFor size = .ok (i, c) ∧ ops.allocate c = (alloc, c') ∧
      q = if alloc.isSome then addAllocSize allocSize (setClass i c' p) else setClass i c' p := by
  rcases hroute : p.getAllocationClassFor size with e | ⟨j, c⟩
  · simp [allocateFast, hroute] at h
  rcases h1 : ops.allocate c with ⟨_ | a, c'⟩ <;> simp [allocateFast, hroute, h1] at h <;>
    obtain ⟨⟨rfl, rfl, rfl⟩, rfl⟩ := h <;> exact ⟨c, c', rfl, h1, by simp⟩

lemma allocateFast_eq_error {size : Nat} (h : allocateFast ops size p = .error e q) : q = p := by
  rcases hroute : p.getAllocationClassFor size with e | ⟨j, c⟩
  · simp [allocateFast, hroute] at h
    exact h.2.symm
  · rcases h1 : ops.allocate c with ⟨_ | a, c'⟩ <;> simp [allocateFast, hroute, h1, map_eq_error] at h

lemma freeToClass_eq_ok {m allocSize : Nat} {b : Bool}
    (h : freeToClass ops kSize m p = .ok (b, allocSize) q) :
    ∃ i c c', p.getAllocationClassForMemory kSize m = .ok (i, c) ∧ ops.free c m = .ok (b, c') ∧
      q = setClass i c' p := by
  rcases hroute : p.getAllocationClassForMemory kSize m with e | ⟨i, c⟩
  · simp [freeToClass, hroute] at h
  rcases hf : ops.free c m with e | ⟨b', c'⟩ <;> simp [freeToClass, hroute, hf] at h
  obtain ⟨⟨rfl, -⟩, rfl⟩ := h
  exact ⟨i, c, c', rfl, hf, rfl⟩

lemma freeToClass_eq_error {m : Nat} (h : freeToClass ops kSize m p = .error e q) : q = p := by
  rcases hroute : p.getAllocationClassForMemory kSize m with e | ⟨i, c⟩
  · simp [freeToClass, hroute] at h
    exact h.2.symm
  rcases hf : ops.free c m with e | ⟨b', c'⟩
  · simp [freeToClass, hroute, hf] at h
    exact h.2.symm
  · simp [freeToClass, hroute, hf, map_eq_error] at h

lemma obtainReleaseContext_eq_ok {victim receiver : Int} {mode : SlabReleaseMode} {hint : Nat}
    {fn : SlabReleaseAbortFn} {ctx : SlabReleaseContext} (hv : victim ≠ Slab.kInvalidClassId)
    (h : obtainReleaseContext ops victim receiver mode hint fn p = .ok ctx q) :
    ∃ (i : Nat) (c : C) (ctx' : SlabReleaseContext) (c' : C) (hd : SlabHeaders),
      p.getAllocationClassForId victim = .ok (i, c) ∧
      ops.startSlabRelease c p.slabAllocator.headers mode hint fn = .ok (ctx', c', hd) ∧
      ctx = ctx'.setReceiver receiver ∧ q = setHeaders hd (setClass i c' p) := by
  by_cases g : receiver ≠ Slab.kInvalidClassId ∧ mode ≠ .kRebalance
  · simp [obtainReleaseContext, g] at h
  rcases hroute : p.getAllocationClassForId victim with e | ⟨i, c⟩
  · simp [obtainReleaseContext, g, hv, hroute] at h
  rcases hs : ops.startSlabRelease c p.slabAllocator.headers mode hint fn with e | ⟨ctx', c', hd⟩ <;>
    simp [obtainReleaseContext, g, hv, hroute, hs] at h
  obtain ⟨rfl, rfl⟩ := h
  exact ⟨i, c, ctx', c', hd, rfl, hs, rfl, rfl⟩

lemma obtainReleaseContext_eq_error {victim receiver : Int} {mode : SlabReleaseMode} {hint : Nat}
    {fn : SlabReleaseAbortFn} (h : obtainReleaseContext ops victim receiver mode hint fn p = .error e q) :
    q = p := by
  by_cases g1 : receiver ≠ Slab.kInvalidClassId ∧ mode ≠ .kRebalance
  · simp [obtainReleaseContext, g1] at h
    exact h.2.symm
  by_cases g2 : victim = Slab.kInvalidClassId ∧ mode ≠ .kResize
  · simp [obtainReleaseContext, g1, g2] at h
    exact h.2.symm
  by_cases hv : victim = Slab.kInvalidClassId
  · have hm : mode = .kResize := by simpa [hv] using g2
    have hr : receiver = Slab.kInvalidClassId := by simpa [hm] using g1
    rcases hf : p.freeSlabs with _ | ⟨s, rest⟩
    · simp [obtainReleaseContext, hr, hm, hv, releaseFromFreeSlabs, hf, map_eq_error] at h
      exact h.2.symm
    · simp [obtainReleaseContext, hr, hm, hv, releaseFromFreeSlabs, hf, map_eq_error] at h
      cases h
  rcases hroute : p.getAllocationClassForId victim with e | ⟨i, c⟩
  · simp [obtainReleaseContext, g1, hv, hroute] at h
    exact h.2.symm
  rcases hs : ops.startSlabRelease c p.slabAllocator.headers mode hint fn with e | ⟨ctx', c', hd⟩
  · simp [obtainReleaseContext, g1, hv, hroute, hs] at h
    exact h.2.symm
  · simp [obtainReleaseContext, g1, hv, hroute, hs, map_eq_error] at h

lemma completeInClass_eq_ok {ctx : SlabReleaseContext} {done : Bool}
    (h : completeInClass ops ctx p = .ok done q) :
    (done = false ∧ q = p) ∨ ∃ (i : Nat) (c c' : C) (hd : SlabHeaders),
      p.getAllocationClassForId ctx.classId = .ok (i, c) ∧
      ops.completeSlabRelease c p.slabAllocator.headers ctx = .ok (done, c', hd) ∧
      q = setHeaders hd (setClass i c' p) := by
  by_cases hrel : ctx.isReleased = true
  · simp [completeInClass, hrel] at h
    exact .inl ⟨h.1, h.2.symm⟩
  by_cases g : ctx.receiver ≠ Slab.kInvalidClassId ∧ ctx.mode ≠ .kRebalance
  · simp [completeInClass, hrel, g] at h
  rcases hroute : p.getAllocationClassForId ctx.classId with e | ⟨i, c⟩
  · simp [completeInClass, hrel, g, hroute] at h
  rcases hs : ops.completeSlabRelease c p.slabAllocator.headers ctx with e | ⟨done', c', hd⟩ <;>
    simp [completeInClass, hrel, g, hroute, hs] at h
  obtain ⟨rfl, rfl⟩ := h
  exact .inr ⟨i, c, c', hd, rfl, hs, rfl⟩

lemma completeInClass_eq_error {ctx : SlabReleaseContext} (h : completeInClass ops ctx p = .error e q) :
    q = p := by
  by_cases hrel : ctx.isReleased = true
  · simp [completeInClass, hrel] at h
  by_cases g : ctx.receiver ≠ Slab.kInvalidClassId ∧ ctx.mode ≠ .kRebalance
  · simp [completeInClass, hrel, g] at h
    exact h.2.symm
  rcases hroute : p.getAllocationClassForId ctx.classId with e | ⟨i, c⟩
  · simp [completeInClass, hrel, g, hroute] at h
    exact h.2.symm
  rcases hs : ops.completeSlabRelease c p.slabAllocator.headers ctx with e | ⟨done', c', hd⟩
  · simp [completeInClass, hrel, g, hroute, hs] at h
    exact h.2.symm
  · simp [completeInClass, hrel, g, hroute, hs, map_eq_error] at h

variable (ops kSize) in
/-- The paths by which `allocate`'s slow path returns, on the class `ac_[i]`. -/
inductive LockedPath (i allocSize : Nat) (p : MemoryPool C) : MemoryPool C → Prop
  /-- The class had a chunk on the second try. -/
  | retry {c a c'} : p.ac[i]? = some c → ops.allocate c = (some a, c') →
      LockedPath i allocSize p (addAllocSize allocSize (setClass i c' p))
  /-- No slab could be had. -/
  | noSlab {c c' q} : p.ac[i]? = some c → ops.allocate c = (none, c') →
      SlabLockedPath kSize (setClass i c' p) none q → LockedPath i allocSize p q
  /-- A slab was had, and the class carved a chunk of it. -/
  | newSlab {c c' s q a c'' hd} : p.ac[i]? = some c → ops.allocate c = (none, c') →
      SlabLockedPath kSize (setClass i c' p) (some s) q →
      ops.addSlabAndAllocate c' q.slabAllocator.headers s = (a, c'', hd) →
      LockedPath i allocSize p (addAllocSize allocSize (setHeaders hd (setClass i c'' q)))

/-- What `allocate`'s slow path returns, by the path it takes. -/
lemma allocateLocked_eq_ok {i allocSize : Nat} {r : Option Nat}
    (h : allocateLocked ops kSize i allocSize p = .ok r q) :
    ∃ c c', p.ac[i]? = some c ∧
      ((∃ a, ops.allocate c = (some a, c') ∧ r = some a ∧
          q = addAllocSize allocSize (setClass i c' p)) ∨
        (ops.allocate c = (none, c') ∧ r = none ∧ SlabLockedPath kSize (setClass i c' p) none q) ∨
        ∃ s q' a c'' hd, ops.allocate c = (none, c') ∧
          SlabLockedPath kSize (setClass i c' p) (some s) q' ∧
          ops.addSlabAndAllocate c' q'.slabAllocator.headers s = (a, c'', hd) ∧ r = some a ∧
          q = addAllocSize allocSize (setHeaders hd (setClass i c'' q'))) := by
  rcases hat : p.acAt i with e | ⟨j, c⟩
  · simp only [allocateLocked, get_bind, hat, liftExcept_error_bind] at h
    cases h
  obtain ⟨hi, hj⟩ := acAt_eq_ok hat
  obtain rfl : j = i := by exact_mod_cast hj
  simp only [allocateLocked, get_bind, hat, liftExcept_ok_bind, modify_bind] at h
  rcases h1 : ops.allocate c with ⟨_ | a, c'⟩ <;> simp only [h1] at h
  · rcases h2 : getSlabLocked kSize (setClass j c' p) with ⟨_ | s, q'⟩ <;>
      simp only [pure_bind_apply, get_bind, h2, set_bind] at h
    · cases h
      exact ⟨c, c', hi, .inr (.inl ⟨h1, rfl, slabLockedPath_of_eq h2⟩)⟩
    · rcases h3 : ops.addSlabAndAllocate c' q'.slabAllocator.headers s with ⟨a, c'', hd⟩
      simp only [h3, modify_bind, pure_apply] at h
      cases h
      exact ⟨c, c', hi, .inr (.inr ⟨s, q', a, c'', hd, h1, slabLockedPath_of_eq h2, h3, rfl, rfl⟩)⟩
  · simp only [modify_bind, pure_apply] at h
    cases h
    exact ⟨c, c', hi, .inl ⟨a, h1, rfl, rfl⟩⟩

lemma allocateLocked_path {i allocSize : Nat} {r : Option Nat}
    (h : allocateLocked ops kSize i allocSize p = .ok r q) : LockedPath ops kSize i allocSize p q := by
  obtain ⟨c, c', hi, ⟨a, h1, -, rfl⟩ | ⟨h1, -, hs⟩ | ⟨s, q', a, c'', hd, h1, hs, h3, -, rfl⟩⟩ :=
    allocateLocked_eq_ok h
  · exact .retry hi h1
  · exact .noSlab hi h1 hs
  · exact .newSlab hi h1 hs h3

lemma allocateLocked_eq_error {i allocSize : Nat}
    (h : allocateLocked ops kSize i allocSize p = .error e q) : q = p := by
  rcases hat : p.acAt i with e | ⟨j, c⟩
  · simp only [allocateLocked, get_bind, hat, liftExcept_error_bind] at h
    cases h
    rfl
  simp only [allocateLocked, get_bind, hat, liftExcept_ok_bind, modify_bind] at h
  rcases h1 : ops.allocate c with ⟨_ | a, c'⟩ <;> simp only [h1] at h
  · rcases h2 : getSlabLocked kSize (setClass j c' p) with ⟨_ | s, q'⟩ <;>
      simp only [pure_bind_apply, get_bind, h2, set_bind] at h
    · cases h
    · rcases h3 : ops.addSlabAndAllocate c' q'.slabAllocator.headers s with ⟨a, c'', hd⟩
      simp only [h3, modify_bind, pure_apply] at h
      cases h
  · simp only [modify_bind, pure_apply] at h
    cases h

variable (ops kSize) in
/-- The steps a busy thread takes from the pool `p`, by where it is. -/
inductive StepPath (p : MemoryPool C) : Pc → Pc → MemoryPool C → Prop
  | idle : StepPath p .idle .idle p
  /-- `allocate`'s unlocked `allSlabsAllocated()`. -/
  | check {i allocSize} : StepPath p (.allocCheck i allocSize)
      (if p.allSlabsAllocated then .idle else .allocLocked i allocSize) p
  /-- `allocate`'s slow path. -/
  | locked {i allocSize q} : LockedPath ops kSize i allocSize p q →
      StepPath p (.allocLocked i allocSize) .idle q
  | freeSlab {slab after} : StepPath p (.release (.freeSlab slab) after)
      (.release .decrementResize after) (freeSlabToAllocator slab p)
  | decrementResize {after} : StepPath p (.release .decrementResize after) (afterRelease after)
      (countResize (decrementSlabAllocSize kSize p))
  | push {slab after} : StepPath p (.release (.push slab) after)
      (.release .decrementRebalance after) (pushFreeSlab slab p)
  | decrementRebalance {after} : StepPath p (.release .decrementRebalance after)
      (afterRelease after) (countRebalance (decrementSlabAllocSize kSize p))
  /-- The receiver's `addSlab`, once its lookup has passed. -/
  | addTo {slab receiver after j rc rc' hd} : p.getAllocationClassForId receiver = .ok (j, rc) →
      ops.addSlab rc p.slabAllocator.headers slab = (rc', hd) →
      StepPath p (.release (.addTo slab receiver) after) (afterRelease after)
        (countRebalance (setHeaders hd (setClass j rc' p)))
  | subAlloc {allocSize} : StepPath p (.subAlloc allocSize) .idle (subAllocSize allocSize p)

lemma stepPc_path {pc pc' : Pc} (hs : stepPc ops kSize pc p = .ok pc' q) :
    StepPath ops kSize p pc pc' q := by
  cases pc with
  | idle => cases hs; exact .idle
  | allocCheck i allocSize => cases hs; exact .check
  | allocLocked i allocSize =>
    obtain ⟨r, q', hx, hret⟩ := bind_eq_ok.1 hs
    cases hret
    exact .locked (allocateLocked_path hx)
  | release stage after =>
    obtain ⟨nxt, q', hx, hret⟩ := bind_eq_ok.1 hs
    cases stage with
    | addTo slab receiver =>
      rcases hj : p.getAllocationClassForId receiver with e | ⟨j, rc⟩
      · simp only [releaseStep, get_bind, hj, liftExcept_error_bind] at hx
        cases hx
      rcases hadd : ops.addSlab rc p.slabAllocator.headers slab with ⟨rc', hd⟩
      simp only [releaseStep, get_bind, hj, liftExcept_ok_bind, hadd, modify_bind, pure_apply] at hx
      cases hx
      cases hret
      exact .addTo hj hadd
    | _ => cases hx; cases hret; constructor
  | subAlloc allocSize => cases hs; exact .subAlloc

/-- A busy thread's step throws only at `allocate`'s slow path or at the lookup of a
`releaseSlab`'s receiver, and leaves the pool as it was. -/
lemma stepPc_eq_error_cases {pc : Pc} (hs : stepPc ops kSize pc p = .error e q) :
    q = p ∧ ((∃ i allocSize, pc = .allocLocked i allocSize) ∨
      ∃ slab receiver after e', pc = .release (.addTo slab receiver) after ∧
        p.getAllocationClassForId receiver = .error e') := by
  cases pc with
  | allocLocked i allocSize =>
    rcases bind_eq_error.1 hs with hx | ⟨_, _, -, hret⟩
    · exact ⟨allocateLocked_eq_error hx, .inl ⟨i, allocSize, rfl⟩⟩
    · cases hret
  | release stage after =>
    rcases bind_eq_error.1 hs with hx | ⟨nxt, _, -, hret⟩
    · cases stage with
      | addTo slab receiver =>
        rcases hj : p.getAllocationClassForId receiver with e' | ⟨j, rc⟩
        · simp only [releaseStep, get_bind, hj, liftExcept_error_bind] at hx
          cases hx
          exact ⟨rfl, .inr ⟨slab, receiver, after, _, rfl, hj⟩⟩
        rcases hadd : ops.addSlab rc p.slabAllocator.headers slab with ⟨rc', hd⟩
        simp only [releaseStep, get_bind, hj, liftExcept_ok_bind, hadd, modify_bind,
          pure_apply] at hx
        cases hx
      | _ => cases hx
    · cases nxt <;> cases hret
  | _ => cases hs

end Pieces

/-! ## What a thread has on its way -/

/-- The slab a `releaseSlab` has on its way, until its destination takes it. -/
def ReleaseStage.transit : ReleaseStage → List Slab
  | .freeSlab slab => [slab]
  | .decrementResize => []
  | .push slab => [slab]
  | .decrementRebalance => []
  | .addTo slab _ => [slab]

/-- The slab a thread has on its way. -/
@[simp] def Pc.transit : Pc → List Slab
  | .idle | .allocCheck _ _ | .allocLocked _ _ | .subAlloc _ => []
  | .release stage _ => stage.transit

/-- The units of `currSlabAllocSize_` a thread has yet to take off or hand to a receiver. -/
@[simp] def Pc.tokens : Pc → Nat
  | .idle | .allocCheck _ _ | .allocLocked _ _ | .subAlloc _ => 0
  | .release _ _ => 1

@[simp] lemma Pc.transit_idle : Pc.idle.transit = [] := rfl

@[simp] lemma Pc.tokens_idle : Pc.idle.tokens = 0 := rfl

@[simp] lemma transit_releaseStart (mode : SlabReleaseMode) (slab : Slab) (receiver : Int) :
    (releaseStart mode slab receiver).transit = [slab] := by
  unfold releaseStart
  split
  · rfl
  · split <;> rfl

@[simp] lemma transit_afterRelease (after : Option Nat) : (afterRelease after).transit = [] := by
  cases after <;> rfl

@[simp] lemma tokens_afterRelease (after : Option Nat) : (afterRelease after).tokens = 0 := by
  cases after <;> rfl

/-- A thread's slab on its way has its unit. -/
lemma Pc.length_transit_le (pc : Pc) : pc.transit.length ≤ pc.tokens := by
  cases pc with
  | release stage _ => cases stage <;> simp [ReleaseStage.transit]
  | _ => simp

/-! ## One step of one thread

With the slabs `T` and units `N` of the other threads, the step of a thread keeps the bounds and
moves its own slab and unit. -/

section Step

variable (hops : ops.Lawful kSize)
include hops

/-- A call's first step: a class call, after which a `free`, `startSlabRelease` or
`completeSlabRelease` whose class gave up a slab has it on its way. -/
lemma beginCall_bounded {call : PoolCall} {pc : Pc} (hc : call.releasesFreeSlab = false)
    (h : Bounded ops kSize sa₀ limit T N p) (hb : beginCall ops kSize call p = .ok pc q) :
    Bounded ops kSize sa₀ limit (pc.transit ++ T) (N + pc.tokens) q := by
  cases call with
  | allocate size =>
    obtain ⟨⟨i, allocSize, alloc⟩, q', hx, hret⟩ := bind_eq_ok.1 hb
    obtain ⟨c, c', hroute, halloc, rfl⟩ := allocateFast_eq_ok hx
    have hi := (getAllocationClassFor_eq_ok hroute).1
    obtain ⟨h1, h2, h3, -⟩ := hops.allocate (h.consistent.class_wf _ _ hi) halloc
    have hq := h.keepClass hi h1 h2 h3
    cases alloc <;> simp at hret <;> obtain ⟨rfl, rfl⟩ := hret
    · simpa using hq
    · simp only [Option.isSome_some, if_true, Pc.transit, Pc.tokens, List.nil_append, Nat.add_zero]
      exact hq.keepSlabs rfl rfl rfl rfl rfl rfl rfl
  | free m =>
    obtain ⟨⟨b, allocSize⟩, q', hx, hret⟩ := bind_eq_ok.1 hb
    obtain ⟨i, c, c', hroute, hfree, rfl⟩ := freeToClass_eq_ok hx
    have hi := (getAllocationClassForMemory_eq_ok hroute).1
    obtain ⟨h1, h2, -, h4, h5⟩ := hops.free (h.consistent.class_wf _ _ hi) hfree
    cases b <;> simp at hret <;> obtain ⟨rfl, rfl⟩ := hret
    · simpa using h.keepClass hi h1 h2 (h4 rfl)
    · obtain ⟨hs, hheld⟩ := h5 rfl
      simpa using h.releaseClass hi h1 h2 hs hheld
  | startSlabRelease victim receiver mode hint fn =>
    have hv : victim ≠ Slab.kInvalidClassId := by simpa [PoolCall.releasesFreeSlab] using hc
    obtain ⟨_, q', hx, hret⟩ := bind_eq_ok.1 hb
    obtain ⟨i, c, ctx', c', hd, hroute, hs, rfl, rfl⟩ := obtainReleaseContext_eq_ok hv hx
    have hi := (getAllocationClassForId_eq_ok hroute).1
    obtain ⟨h1, h2, -, h4, h5, h6⟩ := hops.startSlabRelease (h.consistent.class_wf _ _ hi) hs
    simp at hret
    obtain ⟨rfl, rfl⟩ := hret
    cases hrel : ctx'.isReleased
    · simpa [hrel] using h.keep hi h1 h2 (h5 hrel) h4
    · obtain ⟨hs, hheld, -⟩ := h6 hrel
      simpa [hrel] using h.release hi h1 h2 hs hheld h4
  | completeSlabRelease ctx =>
    obtain ⟨done, q', hx, hret⟩ := bind_eq_ok.1 hb
    simp at hret
    obtain ⟨rfl, rfl⟩ := hret
    rcases completeInClass_eq_ok hx with ⟨rfl, rfl⟩ | ⟨i, c, c', hd, hroute, hs, rfl⟩
    · simpa using h
    have hi := (getAllocationClassForId_eq_ok hroute).1
    obtain ⟨h1, h2, -, h4, h5, h6⟩ := hops.completeSlabRelease (h.consistent.class_wf _ _ hi) hs
    cases done
    · simpa using h.keep hi h1 h2 (h5 rfl) h4
    · obtain ⟨hs, hheld, -⟩ := h6 rfl
      simpa using h.release hi h1 h2 hs hheld h4
  | abortSlabRelease ctx =>
    obtain ⟨_, q', hx, hret⟩ := bind_eq_ok.1 hb
    simp at hret
    obtain ⟨rfl, rfl⟩ := hret
    cases abortSlabRelease_path hx with
    | abort hroute hs =>
      have hi := (getAllocationClassForId_eq_ok hroute).1
      obtain ⟨h1, h2, h3, -, h5⟩ := hops.abortSlabRelease (h.consistent.class_wf _ _ hi) hs
      simp only [Pc.transit, Pc.tokens, List.nil_append, Nat.add_zero]
      exact (h.keep hi h1 h2 h3 h5).keepSlabs rfl rfl rfl rfl rfl rfl rfl

/-- `allocate`'s slow path: the slab `getSlabLocked` hands out goes to the class at once. -/
lemma LockedPath.bounded {i allocSize : Nat} (h : Bounded ops kSize sa₀ limit T N p)
    (hl : LockedPath ops kSize i allocSize p q) : Bounded ops kSize sa₀ limit T N q := by
  cases hl with
  | retry hi ha =>
    obtain ⟨h1, h2, h3, -⟩ := hops.allocate (h.consistent.class_wf _ _ hi) ha
    exact (h.keepClass hi h1 h2 h3).keepSlabs rfl rfl rfl rfl rfl rfl rfl
  | noSlab hi ha hsl =>
    obtain ⟨h1, h2, h3, -⟩ := hops.allocate (h.consistent.class_wf _ _ hi) ha
    exact hsl.bounded_none (h.keepClass hi h1 h2 h3)
  | newSlab hi ha hsl haa =>
    obtain ⟨h1, h2, h3, -⟩ := hops.allocate (h.consistent.class_wf _ _ hi) ha
    have hq := hsl.bounded_some (h.keepClass hi h1 h2 h3)
    have hi' : _ = some _ := (congrArg (·[i]?) hsl.ac).trans (getElem?_setClass_self hi)
    have hs := fun hs => hq.consistent.not_mem_transit (mem_slabs_of_held hi' hs)
      (List.mem_cons_self _ _)
    obtain ⟨g1, g2, g3, -, -, g6⟩ := hops.addSlabAndAllocate (hq.consistent.class_wf _ _ hi') hs haa
    exact (hq.add hi' g1 g2 g3 g6).keepSlabs rfl rfl rfl rfl rfl rfl rfl

/-- A busy thread's step: `allocate`'s check and slow path, a step of `releaseSlab`, or `free`'s
last write. -/
lemma stepPc_bounded {pc pc' : Pc} (h : Bounded ops kSize sa₀ limit (pc.transit ++ T) (N + pc.tokens) p)
    (hT : T.length ≤ N) (hs : stepPc ops kSize pc p = .ok pc' q) :
    Bounded ops kSize sa₀ limit (pc'.transit ++ T) (N + pc'.tokens) q := by
  cases stepPc_path hs with
  | idle => exact h
  | check => split <;> simpa using h
  | locked hl => simpa using hl.bounded hops (by simpa using h)
  | freeSlab =>
    simp only [Pc.transit, Pc.tokens, ReleaseStage.transit, List.singleton_append] at h
    simpa only [Pc.transit, Pc.tokens, ReleaseStage.transit, List.nil_append] using h.freeSlab
  | decrementResize | decrementRebalance =>
    simp only [Pc.transit, Pc.tokens, ReleaseStage.transit, List.nil_append] at h
    rw [transit_afterRelease, tokens_afterRelease, List.nil_append, Nat.add_zero]
    exact (h.decrement hT).keepSlabs rfl rfl rfl rfl rfl rfl rfl
  | push =>
    simp only [Pc.transit, Pc.tokens, ReleaseStage.transit, List.singleton_append] at h
    simpa only [Pc.transit, Pc.tokens, ReleaseStage.transit, List.nil_append] using h.pushFreeSlab
  | addTo hj hadd =>
    have hi := (getAllocationClassForId_eq_ok hj).1
    simp only [Pc.transit, Pc.tokens, ReleaseStage.transit, List.singleton_append] at h
    have hs := fun hs => h.consistent.not_mem_transit (mem_slabs_of_held hi hs)
      (List.mem_cons_self _ _)
    obtain ⟨h1, h2, h3, -, h5⟩ := hops.addSlab (h.consistent.class_wf _ _ hi) hs hadd
    rw [transit_afterRelease, tokens_afterRelease, List.nil_append, Nat.add_zero]
    exact (h.add hi h1 h2 h3 h5).keepSlabs rfl rfl rfl rfl rfl rfl rfl
  | subAlloc => exact h.keepSlabs rfl rfl rfl rfl rfl rfl rfl

omit hops in
/-- A step that throws leaves the pool as it was. -/
lemma beginCall_eq_error {call : PoolCall} (hb : beginCall ops kSize call p = .error e q) : q = p := by
  cases call <;> rcases bind_eq_error.1 hb with hx | ⟨_, _, -, hret⟩ <;> try simp at hret
  · exact allocateFast_eq_error hx
  · exact freeToClass_eq_error hx
  · exact obtainReleaseContext_eq_error hx
  · exact completeInClass_eq_error hx
  · exact abortSlabRelease_throw hx

omit hops in
lemma stepPc_eq_error {pc : Pc} (hs : stepPc ops kSize pc p = .error e q) : q = p :=
  (stepPc_eq_error_cases hs).1

end Step

/-! ## Every interleaving -/

section Lists

variable {α : Type}

lemma sum_map_set (f : α → Nat) :
    ∀ (l : List α) (i : Nat) (x a : α), l[i]? = some a →
      ((l.set i x).map f).sum + f a = (l.map f).sum + f x
  | [], _, _, _, h => by simp at h
  | b :: l, 0, x, a, h => by
    simp only [List.getElem?_cons_zero, Option.some.injEq] at h
    subst h
    simp only [List.set_cons_zero, List.map_cons, List.sum_cons]
    omega
  | b :: l, i + 1, x, a, h => by
    have := sum_map_set f l i x a (by simpa using h)
    simp only [List.set_cons_succ, List.map_cons, List.sum_cons]
    omega

end Lists

/-- Every thread's slab on its way has its unit. -/
lemma length_flatMap_transit_le : ∀ l : List Pc, (l.flatMap Pc.transit).length ≤ (l.map Pc.tokens).sum
  | [] => le_rfl
  | pc :: l => by
    have := pc.length_transit_le
    have := length_flatMap_transit_le l
    simp only [List.flatMap_cons, List.length_append, List.map_cons, List.sum_cons]
    omega

/-- The slabs the threads have on their way. -/
def System.transit (s : System C) : List Slab := s.threads.flatMap Pc.transit

/-- The units of `currSlabAllocSize_` the threads have yet to take off or hand on. -/
def System.tokens (s : System C) : Nat := (s.threads.map Pc.tokens).sum

variable (ops kSize sa₀ limit) in
/-- The bounds of a system: the pool's, with the slabs and units of its threads, and with some
slabs that a `releaseSlab` which threw lost on their way, each with its unit. -/
def System.Bounded (s : System C) : Prop :=
  ∃ lost m, lost.length ≤ m ∧
    MemoryPool.Bounded ops kSize sa₀ limit (s.transit ++ lost) (s.tokens + m) s.pool

/-- The bounds of a system seen from its thread `k`: those of the pool with the slabs `T` and
units `N` of everyone else, and back again once the thread has stepped, lost slabs and all. -/
lemma System.Bounded.focus {s : System C} {k : Nat} {pc : Pc}
    (hs : s.Bounded ops kSize sa₀ limit) (hk : s.threads[k]? = some pc) :
    ∃ T N, T.length ≤ N ∧ MemoryPool.Bounded ops kSize sa₀ limit (pc.transit ++ T) (N + pc.tokens) s.pool ∧
      ∀ (pc' : Pc) (q : MemoryPool C) (L : List Slab) (M : Nat), L.length ≤ M →
        MemoryPool.Bounded ops kSize sa₀ limit (pc'.transit ++ (L ++ T)) (N + M + pc'.tokens) q →
        (⟨q, s.threads.set k pc'⟩ : System C).Bounded ops kSize sa₀ limit := by
  obtain ⟨lost, m, hm, h⟩ := hs
  have hk' : (s.threads.set k .idle)[k]? = some .idle :=
    List.getElem?_set_self (List.getElem?_eq_some_iff.1 hk).1
  have hperm := perm_flatMap_set Pc.transit s.threads k .idle pc hk
  have hsum := sum_map_set Pc.tokens s.threads k .idle pc hk
  have hT := length_flatMap_transit_le (s.threads.set k .idle)
  simp only [Pc.transit_idle, List.append_nil, Pc.tokens_idle, Nat.add_zero] at hperm hsum
  refine ⟨(s.threads.set k .idle).flatMap Pc.transit ++ lost,
    ((s.threads.set k .idle).map Pc.tokens).sum + m, by rw [List.length_append]; omega, ?_, ?_⟩
  · rw [show _ + m + pc.tokens = s.tokens + m by simp only [System.tokens]; omega]
    refine h.perm ((hperm.symm.append_right lost).trans ?_)
    exact List.perm_iff_count.2 fun u => by simp only [List.count_append]; omega
  · intro pc' q L M hL hq
    have hperm' := perm_flatMap_set Pc.transit (s.threads.set k .idle) k pc' .idle hk'
    have hsum' := sum_map_set Pc.tokens (s.threads.set k .idle) k pc' .idle hk'
    simp only [List.set_set, Pc.transit_idle, List.append_nil, Pc.tokens_idle, Nat.add_zero]
      at hperm' hsum'
    refine ⟨L ++ lost, M + m, by rw [List.length_append]; omega, ?_⟩
    rw [show System.tokens ⟨q, s.threads.set k pc'⟩ + (M + m) =
        ((s.threads.set k .idle).map Pc.tokens).sum + m + M + pc'.tokens by
      simp only [System.tokens]; omega]
    refine hq.perm (List.Perm.trans ?_ (hperm'.symm.append_right (L ++ lost)))
    exact List.perm_iff_count.2 fun u => by simp only [List.count_append]; omega

/-- **One step of one thread keeps the bounds**, unless it begins a free-slab resize. -/
lemma next_bounded (hops : ops.Lawful kSize) {s s' : System C} {k : Nat} {call : Option PoolCall}
    (hs : s.Bounded ops kSize sa₀ limit) (hn : next ops kSize s k call = some s')
    (hc : ∀ c ∈ call, c.releasesFreeSlab = false) : s'.Bounded ops kSize sa₀ limit := by
  cases call with
  | some c =>
    simp only [next] at hn
    split at hn
    next hk =>
      obtain ⟨T, N, hT, h, back⟩ := hs.focus hk
      rcases hb : beginCall ops kSize c s.pool with ⟨pc, q⟩ | ⟨e, q⟩ <;>
        simp only [hb, settle, Option.some.injEq] at hn <;> subst hn
      · exact back pc q [] 0 le_rfl
          (by simpa using beginCall_bounded hops (hc c rfl) (by simpa using h) hb)
      · obtain rfl := beginCall_eq_error hb
        exact back .idle s.pool [] 0 le_rfl (by simpa using h)
    next => cases hn
  | none =>
    simp only [next] at hn
    split at hn
    · cases hn
    · cases hn
    next _ pc _ hk =>
      obtain ⟨T, N, hT, h, back⟩ := hs.focus hk
      rcases hb : stepPc ops kSize pc s.pool with ⟨pc', q⟩ | ⟨e, q⟩ <;>
        simp only [hb, settle, Option.some.injEq] at hn <;> subst hn
      · exact back pc' q [] 0 le_rfl (by simpa using stepPc_bounded hops h hT hb)
      · obtain rfl := stepPc_eq_error hb
        exact back .idle s.pool pc.transit pc.tokens pc.length_transit_le (by simpa using h)

/-- **Every interleaving keeps the bounds**, from a pool within them with nothing on its way. -/
theorem Interleaving.bounded (hops : ops.Lawful kSize) {p₀ : MemoryPool C} {calls : List PoolCall}
    {s : System C} (h₀ : Bounded ops kSize sa₀ limit [] 0 p₀) (hi : Interleaving ops kSize p₀ calls s)
    (hno : ∀ c ∈ calls, c.releasesFreeSlab = false) : s.Bounded ops kSize sa₀ limit := by
  induction hi with
  | init n =>
    have ht : (List.replicate n Pc.idle).flatMap Pc.transit = [] :=
      List.flatMap_eq_nil_iff.2 fun pc hpc => by rw [List.eq_of_mem_replicate hpc]; rfl
    exact ⟨[], 0, le_rfl, by simpa [System.transit, System.tokens, ht, List.map_replicate] using h₀⟩
  | begin _ hn ih =>
    exact next_bounded hops (ih fun c hc => hno c (List.mem_append_left _ hc)) hn fun c hc =>
      hno c (List.mem_append_right _ (List.mem_singleton.2 (Option.some.inj hc).symm))
  | step _ hn ih => exact next_bounded hops (ih hno) hn nofun

/-- A schedule that runs to its end is an interleaving. -/
lemma Interleaving.of_runSchedule {p₀ : MemoryPool C} {calls calls' : List PoolCall}
    {s s' : System C} {sched : List (Nat × Option PoolCall)} (hi : Interleaving ops kSize p₀ calls s)
    (hrun : runSchedule ops kSize calls s sched = some (calls', s')) :
    Interleaving ops kSize p₀ calls' s' := by
  induction sched generalizing calls s with
  | nil =>
    simp only [runSchedule, Option.some.injEq, Prod.mk.injEq] at hrun
    obtain ⟨rfl, rfl⟩ := hrun
    exact hi
  | cons st rest ih =>
    obtain ⟨k, call⟩ := st
    simp only [runSchedule] at hrun
    split at hrun
    next s₁ hn =>
      cases call with
      | some c => exact ih (.begin hi hn) hrun
      | none => exact ih (.step hi hn) (by simpa using hrun)
    next => cases hrun

/-! ## From construction -/

section Construction

variable {kMinAllocSize : Nat} {id : Int} {poolSize : Nat} {allocSizes : List Nat}
  {p₀ : MemoryPool C} {calls : List PoolCall} {s : System C}

/-- A constructed pool is within its bounds, with nothing on its way. -/
lemma Constructed.bounded (hc : Constructed ops kSize kMinAllocSize sa₀ p) (hsa : sa₀.WellFormed)
    (hk : 0 < kSize) (hfit : p.maxSize + kSize ≤ 2 ^ 64) : Bounded ops kSize sa₀ p.maxSize [] 0 p where
  consistent := hc.consistent hsa
  transit_le := le_rfl
  counted := by simp [heldCount, hc.held_eq_nil, hc.currSlabAllocSize]
  dvd := hc.currSlabAllocSize ▸ Nat.dvd_zero _
  maxSize := rfl
  below := by rw [hc.currSlabAllocSize]; omega
  fit := hfit
  owned := by simp [slabs, hc.freeSlabs, hc.held_eq_nil]; omega

/-- **The slab limit under any interleaving.**  From a constructed pool, under any interleaving of
the steps of any number of threads, none of which resizes from the free slabs: `maxSize_` stays
the pool's size, `currSlabAllocSize_` stays below `maxSize_ + Slab::kSize`, and so does
`Slab::kSize` times the number of slabs the pool owns; both are at most `maxSize_` when
`Slab::kSize` divides it.  `maxSize_ + Slab::kSize` has to fit in a `size_t`. -/
theorem slabLimit_interleaved (hops : ops.Lawful kSize) (hsa : sa₀.WellFormed) (hk : 0 < kSize)
    (hfit : poolSize + kSize ≤ 2 ^ 64)
    (hcreate : create ops kSize kMinAllocSize id poolSize sa₀ allocSizes = .ok p₀)
    (hi : Interleaving ops kSize p₀ calls s) (hno : ∀ c ∈ calls, c.releasesFreeSlab = false) :
    s.pool.maxSize = poolSize ∧ s.pool.currSlabAllocSize < poolSize + kSize ∧
      (∀ l, Owns sa₀ s.pool l → kSize * l.length < poolSize + kSize) ∧
      (kSize ∣ poolSize → s.pool.currSlabAllocSize ≤ poolSize ∧
        ∀ l, Owns sa₀ s.pool l → kSize * l.length ≤ poolSize) := by
  obtain ⟨hc, -, hmax, -⟩ := create_constructed hops hcreate
  have h₀ := hc.bounded hsa hk (hmax ▸ hfit)
  rw [hmax] at h₀
  obtain ⟨lost, m, -, h⟩ := Interleaving.bounded hops h₀ hi hno
  exact ⟨h.maxSize, h.below, fun l hl => h.owns_lt hl, fun hdvd =>
    ⟨Nat.le_of_lt_add_of_dvd h.below h.dvd hdvd,
      fun l hl => Nat.le_of_lt_add_of_dvd (h.owns_lt hl) (Nat.dvd_mul_right _ _) hdvd⟩⟩

/-- Two threads that both find the pool below its limit before either takes a slab: each takes
one, and the pool stays within `maxSize_ = 16`. -/
theorem slabLimit_interleaved_two_threads :
    let ops := ReferenceClass.ops 8 1
    let p₀ : MemoryPool ReferenceClass :=
      { id := 0, maxSize := 16, slabAllocator := SlabAllocator.init 1 2, acSizes := [8],
        ac := [{ constants := ⟨0, 0, 8⟩, held := [], live := [], releasing := [] }],
        freeSlabs := [], currAllocSize := 0, currSlabAllocSize := 0, nSlabResize := 0,
        nSlabRebalance := 0, nSlabReleaseAborted := 0 }
    ∃ calls s, runSchedule ops 8 [] ⟨p₀, List.replicate 2 .idle⟩ [(0, some (.allocate 8)),
        (1, some (.allocate 8)), (0, none), (1, none), (0, none), (1, none)] = some (calls, s) ∧
      s.pool.maxSize = 16 ∧ s.pool.currSlabAllocSize < 16 + 8 ∧
      (∀ l, Owns (SlabAllocator.init 1 2) s.pool l → 8 * l.length < 16 + 8) ∧
      (8 ∣ 16 → s.pool.currSlabAllocSize ≤ 16 ∧
        ∀ l, Owns (SlabAllocator.init 1 2) s.pool l → 8 * l.length ≤ 16) := by
  intro ops p₀
  have hcreate : create ops 8 1 0 16 (SlabAllocator.init 1 2) [8] = .ok p₀ := rfl
  have hrun : ((runSchedule ops 8 [] ⟨p₀, List.replicate 2 .idle⟩ [(0, some (.allocate 8)),
      (1, some (.allocate 8)), (0, none), (1, none), (0, none), (1, none)]).map fun x =>
        x.1.all fun c => !c.releasesFreeSlab) = some true := by
    decide
  obtain ⟨⟨calls, s⟩, h, hno⟩ := Option.map_eq_some'.1 hrun
  exact ⟨calls, s, h, slabLimit_interleaved (ReferenceClass.lawful Nat.one_pos)
    (SlabAllocator.WellFormed.init 1 2) (by decide) (by decide) hcreate (.of_runSchedule (.init 2) h)
    (by simpa using hno)⟩

/-- With `maxSize_ = 9` and `Slab::kSize = 8`, the two `allocate(8)`s of one thread both find the
pool below its limit, and each takes a slab: `currSlabAllocSize_` is 16, and the pool owns two
slabs. -/
theorem slabLimit_exceeded :
    let ops := ReferenceClass.ops 8 1
    let p₀ : MemoryPool ReferenceClass :=
      { id := 0, maxSize := 9, slabAllocator := SlabAllocator.init 1 2, acSizes := [8],
        ac := [{ constants := ⟨0, 0, 8⟩, held := [], live := [], releasing := [] }],
        freeSlabs := [], currAllocSize := 0, currSlabAllocSize := 0, nSlabResize := 0,
        nSlabRebalance := 0, nSlabReleaseAborted := 0 }
    create ops 8 1 0 9 (SlabAllocator.init 1 2) [8] = .ok p₀ ∧
    ∃ calls s, Interleaving ops 8 p₀ calls s ∧ (∀ c ∈ calls, c.releasesFreeSlab = false) ∧
      s.pool.maxSize = 9 ∧ 9 < s.pool.currSlabAllocSize ∧
      Owns (SlabAllocator.init 1 2) s.pool [⟨1⟩, ⟨2⟩] ∧ 9 < 8 * [(⟨1⟩ : Slab), ⟨2⟩].length := by
  intro ops p₀
  have hrun : ((runSchedule ops 8 [] ⟨p₀, List.replicate 1 .idle⟩ [(0, some (.allocate 8)),
      (0, none), (0, none), (0, some (.allocate 8)), (0, none), (0, none)]).map fun x =>
        (x.1.all fun c => !c.releasesFreeSlab, x.2.pool.maxSize, x.2.pool.currSlabAllocSize,
          decide (Owns (SlabAllocator.init 1 2) x.2.pool [⟨1⟩, ⟨2⟩]))) = some (true, 9, 16, true) := by
    decide
  obtain ⟨⟨calls, s⟩, h, hv⟩ := Option.map_eq_some'.1 hrun
  simp only [Prod.mk.injEq] at hv
  obtain ⟨hno, hmax, hcurr, howns⟩ := hv
  exact ⟨rfl, calls, s, .of_runSchedule (.init 1) h, by simpa using hno, hmax, by omega,
    of_decide_eq_true howns, by decide⟩

/-- **The counter is never behind.**  From a constructed pool, under any interleaving of the steps
of any number of threads, none of which resizes from the free slabs: `currSlabAllocSize_` is at
least `Slab::kSize` times the slabs the classes hold and the threads in the middle of a
`releaseSlab`, so the decrement each of those threads has still to make does not wrap; and
`currSlabAllocSize_` plus `Slab::kSize` for each slab of `freeSlabs_`, the sum
`getCurrentUsedSize()` takes, is at least `Slab::kSize` times the number of slabs the pool owns.
`maxSize_ + Slab::kSize` has to fit in a `size_t`. -/
theorem currSlabAllocSize_covers_interleaved (hops : ops.Lawful kSize) (hsa : sa₀.WellFormed)
    (hk : 0 < kSize) (hfit : poolSize + kSize ≤ 2 ^ 64)
    (hcreate : create ops kSize kMinAllocSize id poolSize sa₀ allocSizes = .ok p₀)
    (hi : Interleaving ops kSize p₀ calls s) (hno : ∀ c ∈ calls, c.releasesFreeSlab = false) :
    kSize * ((s.pool.ac.flatMap ops.held).length + (s.threads.map Pc.tokens).sum) ≤
        s.pool.currSlabAllocSize ∧
      ∀ l, Owns sa₀ s.pool l →
        kSize * l.length ≤ s.pool.currSlabAllocSize + kSize * s.pool.freeSlabs.length := by
  obtain ⟨hc, -, hmax, -⟩ := create_constructed hops hcreate
  have h₀ := hc.bounded hsa hk (hmax ▸ hfit)
  obtain ⟨lost, m, -, h⟩ := Interleaving.bounded hops h₀ hi hno
  have hcount := h.counted
  have ht := h.transit_le
  simp only [heldCount, System.tokens, System.transit, Nat.mul_add] at hcount ht
  refine ⟨by rw [Nat.mul_add]; omega, fun l hl => ?_⟩
  have hlen := h.consistent.length_le_of_owns hl
  simp only [slabs, System.transit, List.length_append] at hlen ht
  calc kSize * l.length
      ≤ kSize * (s.pool.freeSlabs.length + (s.pool.ac.flatMap ops.held).length +
          ((s.threads.map Pc.tokens).sum + m)) := Nat.mul_le_mul_left _ (by omega)
    _ ≤ s.pool.currSlabAllocSize + kSize * s.pool.freeSlabs.length := by
        rw [Nat.mul_add, Nat.mul_add, Nat.mul_add]
        omega

/-- Thread 0 has freed the chunk of slab 1 and has it on its way back to the slab allocator, with
its unit not yet taken off, when thread 1 takes slab 2: the counter is at `16`, one unit for
each. -/
theorem currSlabAllocSize_covers_mid_free :
    let ops := ReferenceClass.ops 8 1
    let p₀ : MemoryPool ReferenceClass :=
      { id := 0, maxSize := 16, slabAllocator := SlabAllocator.init 1 2, acSizes := [8],
        ac := [{ constants := ⟨0, 0, 8⟩, held := [], live := [], releasing := [] }],
        freeSlabs := [], currAllocSize := 0, currSlabAllocSize := 0, nSlabResize := 0,
        nSlabRebalance := 0, nSlabReleaseAborted := 0 }
    ∃ calls s, runSchedule ops 8 [] ⟨p₀, List.replicate 2 .idle⟩ [(0, some (.allocate 8)),
        (0, none), (0, none), (0, some (.free 8)), (1, some (.allocate 8)), (1, none),
        (1, none)] = some (calls, s) ∧
      8 * ((s.pool.ac.flatMap ops.held).length + (s.threads.map Pc.tokens).sum) ≤
          s.pool.currSlabAllocSize ∧
        ∀ l, Owns (SlabAllocator.init 1 2) s.pool l →
          8 * l.length ≤ s.pool.currSlabAllocSize + 8 * s.pool.freeSlabs.length := by
  intro ops p₀
  have hcreate : create ops 8 1 0 16 (SlabAllocator.init 1 2) [8] = .ok p₀ := rfl
  have hrun : ((runSchedule ops 8 [] ⟨p₀, List.replicate 2 .idle⟩ [(0, some (.allocate 8)),
      (0, none), (0, none), (0, some (.free 8)), (1, some (.allocate 8)), (1, none),
      (1, none)]).map fun x => x.1.all fun c => !c.releasesFreeSlab) = some true := by
    decide
  obtain ⟨⟨calls, s⟩, h, hno⟩ := Option.map_eq_some'.1 hrun
  exact ⟨calls, s, h, currSlabAllocSize_covers_interleaved (ReferenceClass.lawful Nat.one_pos)
    (SlabAllocator.WellFormed.init 1 2) (by decide) (by decide) hcreate (.of_runSchedule (.init 2) h)
    (by simpa using hno)⟩

end Construction

end MemoryPool

end SlabPool
