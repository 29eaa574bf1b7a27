import SlabPool.Properties.Calls

/-!
# What construction establishes

The constructor builds the classes with `createAllocationClasses` and then runs `checkState`; a
pool whose construction returned is described by `Constructed`: no slab yet, both sizes zero,
one class per size with ids `0, 1, …` in a strictly ascending size table, each class as its
contract constructs it.  Every invariant of the pool starts from it.
-/

namespace SlabPool

namespace MemoryPool

variable {C : Type} {ops : AllocationClassOps C} {kSize kMinAllocSize : Nat}

lemma except_bind_eq_ok {ε α β : Type} {x : Except ε α} {f : α → Except ε β} {b : β} :
    x >>= f = .ok b ↔ ∃ a, x = .ok a ∧ f a = .ok b := by
  cases x <;> simp [bind, Except.bind]

/-- **createAllocationClasses.** The classes come one per size, in order, with ids from `cid`,
each constructed by its contract. -/
lemma createAllocationClasses_spec (hops : ops.Lawful kSize) {id : Int} :
    ∀ {cid : Int} {sizes : List Nat} {cs : List C},
    createAllocationClasses ops kSize kMinAllocSize id cid sizes = .ok cs →
    cs.length = sizes.length ∧ ∀ (i : Nat) c, cs[i]? = some c →
      ops.wf c ∧ ops.constants c = ⟨cid + (i : Int), id, sizes.getD i 0⟩ ∧ ops.held c = [] ∧
      ops.live c = [] ∧ kMinAllocSize ≤ sizes.getD i 0 ∧ sizes.getD i 0 ≤ kSize
  | cid, [], cs, h => by
    simp only [createAllocationClasses, Except.ok.injEq] at h
    subst h
    simp
  | cid, size :: sizes, cs, h => by
    simp only [createAllocationClasses] at h
    split_ifs at h with hsize
    obtain ⟨c, hc, h⟩ := except_bind_eq_ok.1 h
    obtain ⟨cs', hcs, h⟩ := except_bind_eq_ok.1 h
    cases h
    obtain ⟨hlen, hcls⟩ := createAllocationClasses_spec hops hcs
    obtain ⟨hwf, hk, hheld, hlive⟩ := hops.create hc
    refine ⟨by simp [hlen], ?_⟩
    rintro (_ | i) d hd
    · simp only [List.getElem?_cons_zero, Option.some.injEq] at hd
      subst hd
      simp only [not_or, not_lt] at hsize
      exact ⟨hwf, by simpa using hk, hheld, hlive, hsize.1, by simpa using hsize.2⟩
    · obtain ⟨h1, h2, h3⟩ := hcls i d (by simpa using hd)
      refine ⟨h1, ?_, h3⟩
      rw [h2]
      simp only [List.getD_cons_succ, ClassConstants.mk.injEq, and_true]
      omega
lemma create_eq_ok {id : Int} {poolSize : Nat} {sa : SlabAllocator} {sizes : List Nat}
    {p : MemoryPool C} (h : create ops kSize kMinAllocSize id poolSize sa sizes = .ok p) :
    ∃ ac, createAllocationClasses ops kSize kMinAllocSize id 0 sizes = .ok ac ∧
      p = { id, maxSize := poolSize, slabAllocator := sa, acSizes := sizes, ac, freeSlabs := [],
            currAllocSize := 0, currSlabAllocSize := 0, nSlabResize := 0, nSlabRebalance := 0,
            nSlabReleaseAborted := 0 } ∧
      checkState ops kSize kMinAllocSize p = .ok () := by
  obtain ⟨ac, hac, h⟩ := except_bind_eq_ok.1 h
  obtain ⟨u, hu, h⟩ := except_bind_eq_ok.1 h
  cases h
  exact ⟨ac, hac, rfl, hu⟩

@[simp] lemma except_throw_bind {ε α β : Type} (e : ε) (f : α → Except ε β) :
    (throw e : Except ε α) >>= f = .error e := rfl

@[simp] lemma except_throw_eq_ok {ε α : Type} (e : ε) (a : α) :
    (throw e : Except ε α) = .ok a ↔ False := ⟨nofun, False.elim⟩

lemma checkState_eq_ok {p : MemoryPool C} (h : checkState ops kSize kMinAllocSize p = .ok ()) :
    0 ≤ p.id ∧ p.acSizes ≠ [] ∧ p.acSizes.length = p.ac.length ∧ isSorted p.acSizes ∧
      adjacentFind p.acSizes = none := by
  by_cases h1 : p.id < 0
  · simp [checkState, h1] at h
  by_cases h2 : p.currAllocSize > p.currSlabAllocSize
  · simp [checkState, h1, h2] at h
  by_cases h3 : p.acSizes = [] ∨ p.ac = []
  · simp_all [checkState]
  by_cases h4 : p.acSizes.length = p.ac.length
  swap
  · simp_all [checkState]
  cases h5 : isSorted p.acSizes
  · simp_all [checkState]
  cases h6 : adjacentFind p.acSizes
  · exact ⟨by omega, (not_or.1 h3).1, h4, rfl, rfl⟩
  · simp_all [checkState]
lemma chain'_lt_of_isSorted : ∀ {l : List Nat}, isSorted l = true → adjacentFind l = none →
    l.Chain' (· < ·)
  | [], _, _ => List.chain'_nil
  | [a], _, _ => List.chain'_singleton a
  | a :: b :: rest, h1, h2 => by
    simp only [isSorted, Bool.and_eq_true, Bool.not_eq_true', decide_eq_false_iff_not,
      not_lt] at h1
    simp only [adjacentFind] at h2
    split_ifs at h2 with hab
    exact List.Chain'.cons (by omega) (chain'_lt_of_isSorted h1.2 h2)

variable (ops kSize kMinAllocSize)

/-- What a successful construction establishes: `createAllocationClasses` made one class per
size, with ids `0, 1, …`, and `checkState` checked the rest. -/
structure Constructed (sa : SlabAllocator) (p : MemoryPool C) : Prop where
  slabAllocator : p.slabAllocator = sa
  freeSlabs : p.freeSlabs = []
  currAllocSize : p.currAllocSize = 0
  currSlabAllocSize : p.currSlabAllocSize = 0
  id_nonneg : 0 ≤ p.id
  acSizes_ne_nil : p.acSizes ≠ []
  length_ac : p.ac.length = p.acSizes.length
  sorted : p.acSizes.Chain' (· < ·)
  classes : ∀ (i : Nat) c, p.ac[i]? = some c →
    ops.wf c ∧ ops.constants c = ⟨i, p.id, p.acSizes.getD i 0⟩ ∧ ops.held c = [] ∧
      ops.live c = [] ∧ kMinAllocSize ≤ p.acSizes.getD i 0 ∧ p.acSizes.getD i 0 ≤ kSize

variable {ops kSize kMinAllocSize}

/-- **Construction.** A pool whose constructor returned is `Constructed`, with the id, limit
and size table it was given. -/
theorem create_constructed (hops : ops.Lawful kSize) {id : Int} {poolSize : Nat}
    {sa : SlabAllocator} {sizes : List Nat} {p : MemoryPool C}
    (h : create ops kSize kMinAllocSize id poolSize sa sizes = .ok p) :
    Constructed ops kSize kMinAllocSize sa p ∧ p.id = id ∧ p.maxSize = poolSize ∧
      p.acSizes = sizes := by
  obtain ⟨ac, hac, rfl, hcheck⟩ := create_eq_ok h
  obtain ⟨hid, hne, hlen, hsorted, hadj⟩ := checkState_eq_ok hcheck
  obtain ⟨-, hcls⟩ := createAllocationClasses_spec hops hac
  refine ⟨⟨rfl, rfl, rfl, rfl, hid, hne, hlen.symm, chain'_lt_of_isSorted hsorted hadj,
    fun i c hc => ?_⟩, rfl, rfl, rfl⟩
  simpa using hcls i c hc

end MemoryPool

end SlabPool
