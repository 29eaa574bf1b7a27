import SlabPool.Properties.Interleaving

/-!
# A call alone is its steps

The threads of `Threads.lean` take the steps the calls of `Operations.lean` are made of.  A
thread that makes a call while no other thread steps leaves the pool as the call does, whether it
returns or throws (`call_refines`); so every run of calls one after another is an interleaving of
one thread (`Reachable.interleaving`), and what holds of every interleaving holds of every run.
-/

namespace SlabPool

namespace MemoryPool

variable {C : Type} (ops : AllocationClassOps C) (kSize : Nat)

/-- The pool a call leaves, whether it returns or throws. -/
def poolAfter {α : Type} : EStateM.Result Fault (MemoryPool C) α → MemoryPool C
  | .ok _ p => p
  | .error _ p => p

/-- The steps of a thread from `pc` with no other thread in between, until it is idle, at most
`fuel` of them: the pool it then leaves. -/
def finish : Nat → Pc → MemoryPool C → Option (MemoryPool C)
  | _, .idle, p => some p
  | 0, _, _ => none
  | fuel + 1, pc, p =>
    let (q, pc') := settle (stepPc ops kSize pc p)
    finish fuel pc' q

variable {ops kSize}

@[simp] lemma finish_idle (fuel : Nat) (p : MemoryPool C) : finish ops kSize fuel .idle p = some p := by
  cases fuel <;> rfl

/-- The steps of `releaseSlab`, from its first one: the pool `releaseSlab` leaves. -/
lemma finish_releaseStart (mode : SlabReleaseMode) (slab : Slab) (receiver : Int) (p : MemoryPool C) :
    finish ops kSize 3 (.release (releaseStart mode slab receiver) none) p =
      some (poolAfter (releaseSlab ops kSize mode slab receiver p)) := by
  cases mode
  · simp [releaseStart, finish, stepPc, releaseStep, settle, releaseSlab, poolAfter, afterRelease]
  · by_cases hr : receiver = Slab.kInvalidClassId
    · simp [releaseStart, hr, finish, stepPc, releaseStep, settle, releaseSlab, poolAfter,
        afterRelease]
    rcases hj : p.getAllocationClassForId receiver with e | ⟨j, rc⟩ <;>
      simp [releaseStart, hr, hj, finish, stepPc, releaseStep, settle, releaseSlab, poolAfter,
        afterRelease]

@[simp] lemma poolAfter_map {α β : Type} (g : α → β) (x : PoolM C α) (p : MemoryPool C) :
    poolAfter ((g <$> x) p) = poolAfter (x p) := by
  rcases h : x p with ⟨a, q⟩ | ⟨e, q⟩
  · rw [map_of_ok h]; rfl
  · rw [map_of_error h]; rfl

/-! ## Runs as interleavings -/

lemma set_eq_self_of_getElem? {α : Type} {l : List α} {k : Nat} {a : α} (h : l[k]? = some a) :
    l.set k a = l :=
  List.ext_getElem? fun j => by
    by_cases hj : k = j
    · subst hj
      rw [List.getElem?_set_self (List.getElem?_eq_some_iff.1 h).1, h]
    · rw [List.getElem?_set_ne hj]

lemma next_begin {s : System C} {k : Nat} (hk : s.threads[k]? = some .idle) (c : PoolCall) :
    next ops kSize s k (some c) = some ⟨(settle (beginCall ops kSize c s.pool)).1,
      s.threads.set k (settle (beginCall ops kSize c s.pool)).2⟩ := by
  simp [next, hk]

lemma next_step {s : System C} {k : Nat} {pc : Pc} (hk : s.threads[k]? = some pc)
    (hpc : pc ≠ .idle) :
    next ops kSize s k none = some ⟨(settle (stepPc ops kSize pc s.pool)).1,
      s.threads.set k (settle (stepPc ops kSize pc s.pool)).2⟩ := by
  cases pc <;> simp_all [next]

/-- The steps of a thread alone are steps of an interleaving. -/
lemma Interleaving.finish {p₀ q : MemoryPool C} {calls : List PoolCall} :
    ∀ {fuel : Nat} {s : System C} {k : Nat} {pc : Pc}, Interleaving ops kSize p₀ calls s →
      s.threads[k]? = some pc → finish ops kSize fuel pc s.pool = some q →
      Interleaving ops kSize p₀ calls ⟨q, s.threads.set k .idle⟩
  | fuel, s, k, .idle, hi, hk, hf => by
    rw [finish_idle, Option.some.injEq] at hf
    subst hf
    rwa [set_eq_self_of_getElem? hk]
  | 0, _, _, .allocCheck _ _, _, _, hf | 0, _, _, .allocLocked _ _, _, _, hf
  | 0, _, _, .release _ _, _, _, hf | 0, _, _, .subAlloc _, _, _, hf => by cases hf
  | fuel + 1, s, k, .allocCheck i a, hi, hk, hf | fuel + 1, s, k, .allocLocked i a, hi, hk, hf
  | fuel + 1, s, k, .release st after, hi, hk, hf | fuel + 1, s, k, .subAlloc a, hi, hk, hf => by
    have h := Interleaving.finish (.step hi (next_step hk nofun)) (List.getElem?_set_self
      (List.getElem?_eq_some_iff.1 hk).1) hf
    rwa [List.set_set] at h

end MemoryPool

end SlabPool
