import SlabPool.Properties.SlabCount

/-!
# The slab limit, write by write

`maxSize_` limits the pool through `allSlabsAllocated()`, which `getSlabLocked` checks under
`lock_` just before it bumps `currSlabAllocSize_`.  The counter is bumped only from below the
limit, so it stays below `maxSize_ + Slab::kSize`; and `makeNewSlab` is called only when
`freeSlabs_` is empty, when every slab the pool owns is counted, so the slabs it owns obey the
same bound.

Between two steps of other threads, some slabs are on their way (a `releaseSlab` between its
class call and the slab's destination), and some units of the counter stand for no slab a class
holds (a `releaseSlab` between the slab's arrival and the decrement).  `Bounded limit t n p` is
what holds of a pool whose `maxSize_` is `limit`, with the slabs `t` on their way and `n` such
units: the slab bookkeeping, the counter's lower bound, and the two upper bounds.  Each write of
the pool keeps it, with `t` and `n` moved as the write moves them.
-/

namespace SlabPool

namespace MemoryPool

open scoped List

variable {C : Type} {ops : AllocationClassOps C} {kSize : Nat} {sa₀ : SlabAllocator}
variable {limit : Nat} {t t' : List Slab} {n : Nat} {p q : MemoryPool C}

/-- Two bookkeepings of one allocator count the same slabs. -/
lemma Consistent.length_eq (hp : Consistent ops sa₀ t p) (hq : Consistent ops sa₀ t' q)
    (halloc : q.slabAllocator.Allocated = p.slabAllocator.Allocated) :
    (slabs ops q ++ t').length = (slabs ops p ++ t).length :=
  ((List.perm_ext_iff_of_nodup hq.nodup hp.nodup).2 fun s => by
    rw [hq.mem_iff, hp.mem_iff, halloc]).length_eq

variable (sa₀) in
/-- `l` lists, once each, slabs the pool owns: slabs its slab allocator has handed out since it
was `sa₀`, got from `makeNewSlab` and not yet passed to `freeSlab`. -/
def Owns (p : MemoryPool C) (l : List Slab) : Prop :=
  l.Nodup ∧ ∀ u ∈ l, p.slabAllocator.Allocated u ∧ ¬ sa₀.Allocated u

instance {l : List Slab} : Decidable (Owns sa₀ p l) := inferInstanceAs (Decidable (_ ∧ _))

/-- The slabs the pool owns are among its slabs and the slabs on their way. -/
lemma Consistent.length_le_of_owns (hp : Consistent ops sa₀ t p) {l : List Slab}
    (hl : Owns sa₀ p l) : l.length ≤ (slabs ops p ++ t).length :=
  (List.subperm_of_subset hl.1 fun u hu => (hp.mem_iff u).2 (hl.2 u hu)).length_le

variable (ops kSize sa₀) in
/-- The bounds of a pool whose `maxSize_` is `limit`, with the slabs `t` on their way and `n`
units of `currSlabAllocSize_` that no class's slab accounts for. -/
structure Bounded (limit : Nat) (t : List Slab) (n : Nat) (p : MemoryPool C) : Prop where
  consistent : Consistent ops sa₀ t p
  transit_le : t.length ≤ n
  counted : kSize * (heldCount ops p + n) ≤ p.currSlabAllocSize
  dvd : kSize ∣ p.currSlabAllocSize
  maxSize : p.maxSize = limit
  below : p.currSlabAllocSize < limit + kSize
  fit : limit + kSize ≤ 2 ^ 64
  owned : kSize * (slabs ops p ++ t).length < limit + kSize

namespace Bounded

/-- A write that leaves the slab allocator's slabs, the counter and the limit, and moves slabs
and units as the counts say. -/
lemma transfer {n' : Nat} (h : Bounded ops kSize sa₀ limit t n p) (hq : Consistent ops sa₀ t' q)
    (halloc : q.slabAllocator.Allocated = p.slabAllocator.Allocated)
    (hcurr : q.currSlabAllocSize = p.currSlabAllocSize) (hmax : q.maxSize = p.maxSize)
    (hheld : heldCount ops q + n' = heldCount ops p + n) (ht : t'.length + n ≤ t.length + n') :
    Bounded ops kSize sa₀ limit t' n' q where
  consistent := hq
  transit_le := by have := h.transit_le; omega
  counted := by rw [hcurr, hheld]; exact h.counted
  dvd := hcurr ▸ h.dvd
  maxSize := hmax.trans h.maxSize
  below := hcurr ▸ h.below
  fit := h.fit
  owned := by rw [Consistent.length_eq h.consistent hq halloc]; exact h.owned

lemma perm (h : Bounded ops kSize sa₀ limit t n p) (ht : t ~ t') :
    Bounded ops kSize sa₀ limit t' n p :=
  h.transfer (h.consistent.of_perm (ht.append_left _).symm rfl rfl rfl rfl) rfl rfl rfl rfl
    (by rw [ht.length_eq])

/-- Fewer units that no slab accounts for, as long as the slabs on their way have theirs. -/
lemma weaken {n' : Nat} (h : Bounded ops kSize sa₀ limit t n p) (hn : n' ≤ n)
    (ht : t.length ≤ n') : Bounded ops kSize sa₀ limit t n' p where
  __ := h
  transit_le := ht
  counted := le_trans (Nat.mul_le_mul_left _ (by omega)) h.counted

/-- A write of the pool's other counters: `currAllocSize_`, `nSlabResize_`, … -/
lemma keepSlabs (h : Bounded ops kSize sa₀ limit t n p) (hfree : q.freeSlabs = p.freeSlabs)
    (hsa : q.slabAllocator = p.slabAllocator) (hid : q.id = p.id) (hac : q.ac = p.ac)
    (hsizes : q.acSizes = p.acSizes) (hcurr : q.currSlabAllocSize = p.currSlabAllocSize)
    (hmax : q.maxSize = p.maxSize) : Bounded ops kSize sa₀ limit t n q :=
  h.transfer (h.consistent.of_perm (.of_eq (by simp only [slabs, hfree, hac])) hsa hid hac hsizes)
    (by rw [hsa]) hcurr hmax (by simp only [heldCount, hac]) le_rfl

/-- The slabs the pool owns are within the bound. -/
lemma owns_lt (h : Bounded ops kSize sa₀ limit t n p) {l : List Slab} (hl : Owns sa₀ p l) :
    kSize * l.length < limit + kSize :=
  lt_of_le_of_lt (Nat.mul_le_mul_left _ (h.consistent.length_le_of_owns hl)) h.owned

/-! ## Class calls -/

section ClassCall

variable {i : Nat} {c c' : C} {n' : Nat}

/-- A call on the class `ac_[i]`: the slabs it gains come from the ones on their way, the ones it
gives up join them, and the units follow. -/
lemma classCall (h : Bounded ops kSize sa₀ limit t n p) (hi : p.ac[i]? = some c)
    (hq : Consistent ops sa₀ t' q) (hac : q.ac = p.ac.set i c')
    (halloc : q.slabAllocator.Allocated = p.slabAllocator.Allocated)
    (hcurr : q.currSlabAllocSize = p.currSlabAllocSize) (hmax : q.maxSize = p.maxSize)
    (hlen : (ops.held c').length + n' = (ops.held c).length + n)
    (ht : t'.length + n ≤ t.length + n') : Bounded ops kSize sa₀ limit t' n' q := by
  refine h.transfer hq halloc hcurr hmax ?_ ht
  have hset := heldCount_setClass ops c' hi
  have hq : heldCount ops q = heldCount ops (setClass i c' p) := by
    simp only [heldCount, hac, setClass_ac]
  omega

variable {h' : SlabHeaders}

/-- A class call that keeps the class's slabs. -/
lemma keep (h : Bounded ops kSize sa₀ limit t n p) (hi : p.ac[i]? = some c) (hwf : ops.wf c')
    (hk : ops.constants c' = ops.constants c) (hheld : ops.held c' ~ ops.held c)
    (hh : HeadersKept (ops.held c) (ops.held c') p.slabAllocator.headers h') :
    Bounded ops kSize sa₀ limit t n (setHeaders h' (setClass i c' p)) :=
  h.classCall hi (h.consistent.keep hi hwf hk hheld hh) rfl rfl rfl rfl
    (by rw [hheld.length_eq]) le_rfl

/-- A class call that gives up slab `s`, which is then on its way with its unit. -/
lemma release {s : Slab} (h : Bounded ops kSize sa₀ limit t n p) (hi : p.ac[i]? = some c)
    (hwf : ops.wf c') (hk : ops.constants c' = ops.constants c) (hs : s ∈ ops.held c)
    (hheld : ops.held c' ~ (ops.held c).erase s)
    (hh : HeadersKept (ops.held c) (ops.held c') p.slabAllocator.headers h') :
    Bounded ops kSize sa₀ limit (s :: t) (n + 1) (setHeaders h' (setClass i c' p)) :=
  h.classCall hi (h.consistent.release hi hwf hk hs hheld hh) rfl rfl rfl rfl
    (by have := length_held_erase hs hheld; omega) (by simp; omega)

/-- A class call that takes slab `s` on its way, with its unit. -/
lemma add {s : Slab} (h : Bounded ops kSize sa₀ limit (s :: t) (n + 1) p) (hi : p.ac[i]? = some c)
    (hwf : ops.wf c') (hk : ops.constants c' = ops.constants c)
    (hheld : ops.held c' ~ s :: ops.held c)
    (hh : HeadersStamped s (ops.constants c).classId p.slabAllocator.headers h') :
    Bounded ops kSize sa₀ limit t n (setHeaders h' (setClass i c' p)) :=
  h.classCall hi (h.consistent.add hi hwf hk hheld hh) rfl rfl rfl rfl
    (by rw [hheld.length_eq, List.length_cons]; omega) (by simp; omega)

/-- A class call that keeps the class's slabs and writes no header. -/
lemma keepClass (h : Bounded ops kSize sa₀ limit t n p) (hi : p.ac[i]? = some c)
    (hwf : ops.wf c') (hk : ops.constants c' = ops.constants c) (hheld : ops.held c' ~ ops.held c) :
    Bounded ops kSize sa₀ limit t n (setClass i c' p) :=
  h.classCall hi (h.consistent.keepClass hi hwf hk hheld) rfl rfl rfl rfl
    (by rw [hheld.length_eq]) le_rfl

/-- A class call that gives up slab `s` and writes no header. -/
lemma releaseClass {s : Slab} (h : Bounded ops kSize sa₀ limit t n p) (hi : p.ac[i]? = some c)
    (hwf : ops.wf c') (hk : ops.constants c' = ops.constants c) (hs : s ∈ ops.held c)
    (hheld : ops.held c' ~ (ops.held c).erase s) :
    Bounded ops kSize sa₀ limit (s :: t) (n + 1) (setClass i c' p) :=
  h.classCall hi (h.consistent.releaseClass hi hwf hk hs hheld) rfl rfl rfl rfl
    (by have := length_held_erase hs hheld; omega) (by simp; omega)

end ClassCall

/-! ## The slab's destinations -/

/-- `slabAllocator_.freeSlab(slab)` of a slab on its way. -/
lemma freeSlab {s : Slab} (h : Bounded ops kSize sa₀ limit (s :: t) n p) :
    Bounded ops kSize sa₀ limit t n (freeSlabToAllocator s p) where
  consistent := h.consistent.freeSlab
  transit_le := le_trans (by simp) h.transit_le
  counted := h.counted
  dvd := h.dvd
  maxSize := h.maxSize
  below := h.below
  fit := h.fit
  owned := lt_of_le_of_lt (Nat.mul_le_mul_left _ (by simp [slabs])) h.owned

/-- The push of a slab on its way onto `freeSlabs_`. -/
lemma pushFreeSlab {s : Slab} (h : Bounded ops kSize sa₀ limit (s :: t) n p) :
    Bounded ops kSize sa₀ limit t n (pushFreeSlab s p) :=
  h.transfer h.consistent.pushFreeSlab rfl rfl rfl rfl (by simp)

/-- `currSlabAllocSize_ -= Slab::kSize` for a unit no slab accounts for any more: the counter
stays above the units it still has to account for, so it does not wrap. -/
lemma decrement (h : Bounded ops kSize sa₀ limit t (n + 1) p) (ht : t.length ≤ n) :
    Bounded ops kSize sa₀ limit t n (decrementSlabAllocSize kSize p) := by
  have hc := h.counted
  rw [← Nat.add_assoc, Nat.mul_succ] at hc
  have hsub : (decrementSlabAllocSize kSize p).currSlabAllocSize = p.currSlabAllocSize - kSize :=
    sizeSub_of_le (by omega) (by have := h.below; have := h.fit; omega)
  exact
  { consistent := h.consistent.of_perm (.refl _) rfl rfl rfl rfl
    transit_le := ht
    counted := by rw [hsub]; show kSize * (heldCount ops p + n) ≤ _; omega
    dvd := hsub ▸ Nat.dvd_sub' h.dvd (dvd_refl _)
    maxSize := h.maxSize
    below := by rw [hsub]; exact lt_of_le_of_lt (Nat.sub_le _ _) h.below
    fit := h.fit
    owned := h.owned }

/-! ## `getSlabLocked` -/

/-- The bump of `getSlabLocked`, from below the limit, with a slab then on its way. -/
lemma bump {s : Slab} (h : Bounded ops kSize sa₀ limit t n p) (hfull : p.allSlabsAllocated = false)
    (hq : Consistent ops sa₀ (s :: t) q) (hac : q.ac = p.ac) (hmax : q.maxSize = p.maxSize)
    (hcurr : q.currSlabAllocSize = sizeAdd p.currSlabAllocSize kSize)
    (howned : kSize * (slabs ops q ++ s :: t).length < limit + kSize) :
    Bounded ops kSize sa₀ limit (s :: t) (n + 1) q := by
  have hlt : p.currSlabAllocSize < limit := by
    simpa [allSlabsAllocated, h.maxSize] using hfull
  have hsum : q.currSlabAllocSize = p.currSlabAllocSize + kSize := by
    rw [hcurr]; exact sizeAdd_of_lt (by have := h.fit; omega)
  have hheld : heldCount ops q = heldCount ops p := by simp only [heldCount, hac]
  exact
  { consistent := hq
    transit_le := by simpa using h.transit_le
    counted := by rw [hsum, hheld, ← Nat.add_assoc, Nat.mul_succ]; exact Nat.add_le_add_right h.counted _
    dvd := hsum ▸ Nat.dvd_add h.dvd (dvd_refl _)
    maxSize := hmax.trans h.maxSize
    below := by rw [hsum]; omega
    fit := h.fit
    owned := howned }

end Bounded

/-- `getSlabLocked` that hands out no slab leaves the bounds: the counter it bumps it bumps back. -/
lemma SlabLockedPath.bounded_none (h : Bounded ops kSize sa₀ limit t n p)
    (hl : SlabLockedPath kSize p none q) : Bounded ops kSize sa₀ limit t n q := by
  cases hl with
  | full => exact h
  | exhausted hfull _ hm =>
    obtain rfl := SlabAllocator.makeNewSlab_eq_none hm
    have hlt : p.currSlabAllocSize < limit := by
      simpa [allSlabsAllocated, h.maxSize] using hfull
    have hf := h.fit
    refine h.keepSlabs rfl rfl rfl rfl rfl ?_ rfl
    show sizeSub (sizeAdd p.currSlabAllocSize kSize) kSize = _
    rw [sizeAdd, sizeSub_mod, Nat.mod_eq_of_lt (by omega)]

/-- `getSlabLocked` that hands out a slab has counted it: a slab off `freeSlabs_` was owned
already, and a new one is made only when `freeSlabs_` is empty, when every slab the pool owns
is counted. -/
lemma SlabLockedPath.bounded_some {s : Slab} (h : Bounded ops kSize sa₀ limit t n p)
    (hl : SlabLockedPath kSize p (some s) q) : Bounded ops kSize sa₀ limit (s :: t) (n + 1) q := by
  cases hl with
  | pop hfull hfs =>
    refine h.bump hfull ((h.consistent.popFreeSlab hfs).of_perm (.refl _) rfl rfl rfl rfl) rfl rfl
      rfl (lt_of_le_of_lt (Nat.mul_le_mul_left _ (le_of_eq ?_)) h.owned)
    simp [slabs, hfs]
    omega
  | make hfull hfs hm =>
    have hlt : p.currSlabAllocSize < limit := by
      simpa [allSlabsAllocated, h.maxSize] using hfull
    have hc := h.counted
    refine h.bump hfull ((h.consistent.makeNewSlab hm).of_perm (.refl _) rfl rfl rfl rfl) rfl rfl
      rfl (lt_of_le_of_lt (Nat.mul_le_mul_left kSize (?_ : _ ≤ heldCount ops p + n + 1)) ?_)
    · have := h.transit_le
      simp [slabs, hfs, heldCount]
      omega
    · rw [Nat.mul_succ]
      omega

end MemoryPool

end SlabPool
