import SlabPool.Framework.SlabAllocator
import Mathlib.Data.List.Range

/-!
# `AllocationClass::forEachAllocation`

The one member of `AllocationClass` whose body is in `AllocationClass.h`.  It try-locks
`startSlabReleaseLock_`, checks the slab's header under `lock_`, and then hands the callback
the chunks `slab, slab + allocationSize_, …`, `getAllocsPerSlab()` of them, stopping at the
first call that returns `false`.

The try-lock's outcome is an argument, `tryLock`.  The callback is a function of a state of its
own, `σ`, so that it can count, collect or decide to stop as the caller's lambda does.  Next to
the status, the model returns the calls the loop made, each chunk with the callback's answer,
and the callback's final state.  The prefetches have no effect the model can observe and are
left out.

`walkChunks_eq` says in one place what the loop can do: call on the first `k` chunks and stop
at the `k`-th with `false`, or call on all of them.  Everything `forEachAllocation_spec` states
follows from it.
-/

namespace SlabPool

/-- `SlabIterationStatus`. -/
inductive SlabIterationStatus
  | kFinishedCurrentSlabAndContinue
  | kSkippedCurrentSlabAndContinue
  | kAbortIteration
deriving DecidableEq, Repr

/-- `AllocInfo`, what the callback is told about the slab. -/
structure AllocInfo where
  poolId : Int
  classId : Int
  allocSize : Nat
deriving DecidableEq, Repr

/-- The fields of an `AllocationClass` fixed at construction: `classId_`, `poolId_` and
`allocationSize_`. -/
structure ClassConstants where
  classId : Int
  poolId : Int
  allocationSize : Nat
deriving DecidableEq, Repr

/-- `getAllocsPerSlab()`: how many chunks a slab is cut into; the remainder is unused. -/
def getAllocsPerSlab (kSize allocationSize : Nat) : Nat := kSize / allocationSize

namespace ClassConstants

/-- The lambda `forEachAllocation` runs under `lock_`: the slab's `AllocInfo` when its header
names this class and pool and is neither advised nor marked for release. -/
def headerAllocInfo (k : ClassConstants) : Option SlabHeader → Option AllocInfo
  | none => none
  | some h =>
    if h.classId ≠ k.classId ∨ h.poolId ≠ k.poolId ∨ h.advised ∨ h.markedForRelease then none
    else some ⟨h.poolId, h.classId, h.allocSize⟩

/-- The chunk loop with `n` iterations left and `ptr` the next chunk: whether it ran to the end,
the calls it made with the callback's answers, and the callback's state. -/
def walkChunks {σ : Type} (allocationSize : Nat) (info : AllocInfo)
    (callback : σ → Nat → AllocInfo → Bool × σ) : Nat → Nat → σ → Bool × List (Nat × Bool) × σ
  | 0, _, st => (true, [], st)
  | n + 1, ptr, st =>
    match callback st ptr info with
    | (false, st') => (false, [(ptr, false)], st')
    | (true, st') =>
      let r := walkChunks allocationSize info callback n (ptr + allocationSize) st'
      (r.1, (ptr, true) :: r.2.1, r.2.2)

/-- `forEachAllocation(slab, callback)` for a class with constants `k`. -/
def forEachAllocation {σ : Type} (kSize : Nat) (k : ClassConstants) (sa : SlabAllocator)
    (tryLock : Bool) (slab : Nat) (callback : σ → Nat → AllocInfo → Bool × σ) (st : σ) :
    SlabIterationStatus × List (Nat × Bool) × σ :=
  if !tryLock then (.kSkippedCurrentSlabAndContinue, [], st)
  else
    match k.headerAllocInfo (sa.getSlabHeader kSize slab) with
    | none => (.kSkippedCurrentSlabAndContinue, [], st)
    | some info =>
      let r := walkChunks k.allocationSize info callback
        (getAllocsPerSlab kSize k.allocationSize) slab st
      (if r.1 then .kFinishedCurrentSlabAndContinue else .kAbortIteration, r.2)

/-- The calls on the first `k` chunks, each answered `true`. -/
def trueCalls (a ptr k : Nat) : List (Nat × Bool) := (List.range k).map fun i => (ptr + i * a, true)

lemma trueCalls_succ (a ptr k : Nat) :
    trueCalls a ptr (k + 1) = (ptr, true) :: trueCalls a (ptr + a) k := by
  simp only [trueCalls, List.range_succ_eq_map, List.map_cons, List.map_map]
  refine congrArg₂ _ (by simp) (List.map_congr_left fun i _ => ?_)
  simp only [Function.comp, Nat.succ_mul]
  congr 1
  omega

/-- **The loop.** Either every chunk is handed to the callback and all answers are `true`, or
the callback answers `true` on the first `k` chunks and `false` on the next, and the loop stops
there. -/
lemma walkChunks_eq {σ : Type} (a : Nat) (info : AllocInfo)
    (callback : σ → Nat → AllocInfo → Bool × σ) :
    ∀ (n ptr : Nat) (st : σ),
      (∃ st', walkChunks a info callback n ptr st = (true, trueCalls a ptr n, st')) ∨
      ∃ k < n, ∃ st', walkChunks a info callback n ptr st =
        (false, trueCalls a ptr k ++ [(ptr + k * a, false)], st')
  | 0, _, st => .inl ⟨st, rfl⟩
  | n + 1, ptr, st => by
    unfold walkChunks
    rcases hcb : callback st ptr info with ⟨_ | _, st'⟩
    · exact .inr ⟨0, Nat.succ_pos _, st', by simp [trueCalls]⟩
    · rcases walkChunks_eq a info callback n (ptr + a) st' with ⟨st'', h⟩ | ⟨k, hk, st'', h⟩
      · exact .inl ⟨st'', by simp [h, trueCalls_succ]⟩
      · have hptr : ptr + (k + 1) * a = ptr + a + k * a := by rw [Nat.succ_mul]; omega
        exact .inr ⟨k + 1, by omega, st'', by simp [h, trueCalls_succ, hptr]⟩

@[simp] lemma length_trueCalls (a ptr k : Nat) : (trueCalls a ptr k).length = k := by
  simp [trueCalls]

lemma map_fst_trueCalls (a ptr k : Nat) :
    (trueCalls a ptr k).map Prod.fst = (List.range k).map fun i => ptr + i * a := by
  simp [trueCalls, Function.comp_def]

lemma mem_trueCalls {a ptr k : Nat} {c : Nat × Bool} (h : c ∈ trueCalls a ptr k) :
    c.2 = true ∧ ∃ i < k, c.1 = ptr + i * a := by
  obtain ⟨i, hi, rfl⟩ := List.mem_map.1 h
  exact ⟨rfl, i, List.mem_range.1 hi, rfl⟩

/-- The header test of `forEachAllocation`, read as a statement about the header. -/
def OwnsHeader (k : ClassConstants) (hdr : Option SlabHeader) : Prop :=
  ∃ h, hdr = some h ∧ h.classId = k.classId ∧ h.poolId = k.poolId ∧ h.advised = false ∧
    h.markedForRelease = false

lemma headerAllocInfo_ne_none_iff (k : ClassConstants) (hdr : Option SlabHeader) :
    k.headerAllocInfo hdr ≠ none ↔ k.OwnsHeader hdr := by
  rcases hdr with _ | h
  · simp [headerAllocInfo, OwnsHeader]
  · by_cases hc : h.classId ≠ k.classId ∨ h.poolId ≠ k.poolId ∨ h.advised ∨ h.markedForRelease
    · simp only [headerAllocInfo, hc, if_true, ne_eq, not_true_eq_false, false_iff]
      rintro ⟨_, ⟨⟩, h1, h2, h3, h4⟩
      simp_all
    · simp only [headerAllocInfo, hc, if_false, ne_eq, reduceCtorEq, not_false_eq_true, true_iff]
      simp only [not_or, Bool.not_eq_true] at hc
      exact ⟨h, rfl, not_not.1 hc.1, not_not.1 hc.2.1, hc.2.2.1, hc.2.2.2⟩

/-- The `i`-th chunk of a slab lies inside it. -/
lemma chunk_add_le {kSize a i : Nat} (hi : i < getAllocsPerSlab kSize a) (s : Nat) :
    s ≤ s + i * a ∧ s + i * a + a ≤ s + kSize := by
  have h := Nat.mul_le_mul_right a (Nat.succ_le_of_lt hi)
  have := Nat.div_mul_le_self kSize a
  simp only [getAllocsPerSlab, Nat.succ_mul] at h
  omega

lemma forEachAllocation_of_headerAllocInfo {σ : Type} {kSize : Nat} {k : ClassConstants}
    {sa : SlabAllocator} {s : Nat} {info : AllocInfo}
    (h : k.headerAllocInfo (sa.getSlabHeader kSize s) = some info)
    (callback : σ → Nat → AllocInfo → Bool × σ) (st : σ) :
    k.forEachAllocation kSize sa true s callback st =
      ((if (walkChunks k.allocationSize info callback (getAllocsPerSlab kSize k.allocationSize) s
          st).1 then .kFinishedCurrentSlabAndContinue else .kAbortIteration),
        (walkChunks k.allocationSize info callback (getAllocsPerSlab kSize k.allocationSize) s
          st).2) := by
  simp [forEachAllocation, h]

end ClassConstants

end SlabPool
