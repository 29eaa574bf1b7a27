import SlabPool.Properties.Routing
import Mathlib.Algebra.Order.BigOperators.Group.List
import Mathlib.Algebra.Order.Ring.Nat

/-!
# The account of `currAllocSize_`

`allocate` adds to `currAllocSize_` the size of the class the requested size routes to, and
`free` subtracts the size of the class the chunk's slab header names.  Over a run whose every
`free` is of a chunk `allocate` returned and not yet freed, the counter is therefore the sum of
the routed sizes of the chunks still out, provided the two routes agree on each of them, as
`Routing.lean` shows they do.

`Accounted` is that statement modulo `2^64`, as the `size_t` counter keeps it, together with
the distinctness of the chunks still out; every call keeps it (`Step.accounted`).  The sum is
then exact because the chunks out lie in the classes' slabs (`Lawful.live_bytes`), which are
distinct slabs of the allocator's region (`Consistent.length_slabs_le`): it is at most the
region's size, which fits in a `size_t`.
-/

namespace SlabPool

namespace MemoryPool

open scoped List

variable {C : Type} {ops : AllocationClassOps C} {kSize : Nat} {sa₀ : SlabAllocator}

/-! ## The outstanding chunks' sizes -/

/-- The size-table entry of the class `size` routes to. -/
def routedAllocSize (p : MemoryPool C) (size : Nat) : Nat :=
  match p.getAllocationClassId size with
  | .ok i => p.acSizes.getD i.toNat 0
  | .error _ => 0

/-- What the outstanding chunks of a run take, by the sizes of the classes they were routed to. -/
def outstandingSize (p : MemoryPool C) (l : List (Nat × Nat)) : Nat :=
  (l.map fun e => routedAllocSize p e.2).sum

@[simp] lemma outstandingSize_nil (p : MemoryPool C) : outstandingSize p [] = 0 := rfl

@[simp] lemma outstandingSize_cons (p : MemoryPool C) (e : Nat × Nat) (l : List (Nat × Nat)) :
    outstandingSize p (e :: l) = routedAllocSize p e.2 + outstandingSize p l := rfl

lemma routedAllocSize_of_eq {p : MemoryPool C} {size i : Nat}
    (h : p.getAllocationClassId size = .ok i) : p.routedAllocSize size = p.acSizes.getD i 0 := by
  simp [routedAllocSize, h]

lemma routedAllocSize_congr {p q : MemoryPool C} (h : q.acSizes = p.acSizes) (size : Nat) :
    q.routedAllocSize size = p.routedAllocSize size := by
  simp only [routedAllocSize, getAllocationClassId_congr h, h]

lemma outstandingSize_congr {p q : MemoryPool C} (h : q.acSizes = p.acSizes) (l : List (Nat × Nat)) :
    outstandingSize q l = outstandingSize p l := by
  simp only [outstandingSize, routedAllocSize, getAllocationClassId_congr h, h]

lemma outstandingSize_filter {p : MemoryPool C} :
    ∀ {l : List (Nat × Nat)}, (l.map Prod.fst).Nodup → ∀ {m s : Nat}, (m, s) ∈ l →
      outstandingSize p (l.filter (·.1 ≠ m)) + p.routedAllocSize s = outstandingSize p l
  | [], _, _, _, h => by simp at h
  | e :: l, hn, m, s, hm => by
    rw [List.map_cons, List.nodup_cons] at hn
    rcases List.mem_cons.1 hm with rfl | hm
    · have hl : ∀ x ∈ l, x.1 ≠ m := fun x hx h => hn.1 (List.mem_map.2 ⟨x, hx, h⟩)
      simp only [List.filter_cons, ne_eq, not_true_eq_false, decide_False,
        List.filter_eq_self.2 fun x hx => decide_eq_true (hl x hx)]
      simp [Nat.add_comm]
    · have hne : e.1 ≠ m := fun h => hn.1 (List.mem_map.2 ⟨(m, s), hm, h.symm⟩)
      have ih := outstandingSize_filter (p := p) hn.2 hm
      simp only [List.filter_cons, hne, ne_eq, not_false_eq_true, decide_True, if_true,
        outstandingSize_cons] at ih ⊢
      omega

variable {t : List Slab} {p q : MemoryPool C}

/-- A chunk is handed out by one class at most. -/
lemma Consistent.live_unique (hops : ops.Lawful kSize) (hp : Consistent ops sa₀ t p) {i j : Nat}
    {c d : C} (hi : p.ac[i]? = some c) (hj : p.ac[j]? = some d) {a : Nat} (hc : a ∈ ops.live c)
    (hd : a ∈ ops.live d) : i = j :=
  by_contra fun hij => hp.not_mem_held_of_ne hi hj hij (hops.live_held (hp.class_wf _ _ hi) hc)
    (hops.live_held (hp.class_wf _ _ hj) hd)

/-- The ledger's account of `currAllocSize_`: the outstanding chunks are distinct, and while
every `free` was of an outstanding chunk the counter is the sum of their routed sizes, as a
`size_t`. -/
structure Accounted (tr : List (PoolCall × PoolReturn)) (p : MemoryPool C) : Prop where
  nodup : ((ledger tr).outstanding.map Prod.fst).Nodup
  currAllocSize : (ledger tr).freesOutstanding = true →
    p.currAllocSize = outstandingSize p (ledger tr).outstanding % 2 ^ 64

/-- A call that leaves the ledger and `currAllocSize_` as they were keeps the account. -/
lemma Accounted.keep {tr tr' : List (PoolCall × PoolReturn)} (ha : Accounted tr p)
    (hl : ledger tr' = ledger tr) (hcurr : q.currAllocSize = p.currAllocSize)
    (hsizes : q.acSizes = p.acSizes) : Accounted tr' q :=
  ⟨hl ▸ ha.nodup, fun hf => by
    rw [hl] at hf ⊢
    rw [hcurr, ha.currAllocSize hf, outstandingSize_congr hsizes]⟩

/-- Every call keeps the account. -/
lemma Step.accounted (hops : ops.Lawful kSize) {tr : List (PoolCall × PoolReturn)}
    {c : PoolCall} {r : PoolReturn} (hp : Consistent ops sa₀ [] p) (hq : Consistent ops sa₀ [] q)
    (hl : OutstandingLive ops tr p) (ha : Accounted tr p) (h : Step ops kSize p c r q) :
    Accounted (tr ++ [(c, r)]) q := by
  have hsizes := h.frame.acSizes
  cases h with
  | allocate h =>
    rename_i size r
    cases r with
    | none =>
      exact ha.keep (by simp [Ledger.record]) (h.chunks_none hops hp).2 hsizes
    | some a =>
      obtain ⟨i, c, c', hid, hc, hc', hna, hac', hk, hcurr⟩ := h.chunks_some hops hp
      have hfresh : a ∉ (ledger tr).outstanding.map Prod.fst := fun hmem => by
        obtain ⟨⟨_, s⟩, he, rfl⟩ := List.mem_map.1 hmem
        obtain ⟨k, d, -, hd, had⟩ := hl _ s he
        obtain ⟨d', hd', hlive⟩ := hk k d hd
        obtain rfl := hq.live_unique hops hd' hc' (hlive _ had nofun) hac'
        exact hna (by rw [hd] at hc; cases hc; exact had)
      refine ⟨?_, fun hf => ?_⟩
      · simp only [ledger_append, Ledger.record, List.map_cons, List.nodup_cons]
        exact ⟨hfresh, ha.nodup⟩
      simp only [ledger_append, Ledger.record] at hf ⊢
      rw [hcurr, ha.currAllocSize hf, hp.constants i c hc, outstandingSize_cons,
        outstandingSize_congr hsizes, routedAllocSize_congr hsizes, routedAllocSize_of_eq hid,
        sizeAdd_mod, Nat.add_comm]
  | free h =>
    rename_i m
    obtain ⟨j, c, hid, hc, -, hcurr⟩ := h.chunks hops hp
    refine ⟨?_, fun hf => ?_⟩
    · simpa [Ledger.record] using ha.nodup.sublist ((List.filter_sublist _).map _)
    simp only [ledger_append, Ledger.record, Bool.and_eq_true, List.any_eq_true,
      decide_eq_true_eq] at hf ⊢
    obtain ⟨hf, ⟨_, s⟩, hm, rfl⟩ := hf
    obtain ⟨i, d, hroute, hd, had⟩ := hl _ s hm
    have hji : (j : Int) = i := by
      rw [← Except.ok.inj (hid.symm.trans (hp.getAllocationClassIdOfMemory_eq hops hd had))]
    obtain rfl : j = i := by exact_mod_cast hji
    rw [hd] at hc
    cases hc
    rw [hcurr, ha.currAllocSize hf, hp.constants _ _ hd, outstandingSize_congr hsizes,
      ← outstandingSize_filter ha.nodup hm,
      routedAllocSize_of_eq hroute, sizeSub_mod]
  | startSlabRelease h | completeSlabRelease h | abortSlabRelease h =>
    exact ha.keep (by simp [Ledger.record]) (h.chunks hops hp).2 hsizes

/-! ## The sum fits in a `size_t` -/

section Bound
variable {α : Type}

lemma sum_map_le_of_subperm (f : α → Nat) {l₁ l₂ : List α} (h : l₁ <+~ l₂) :
    (l₁.map f).sum ≤ (l₂.map f).sum := by
  obtain ⟨l, hperm, hsub⟩ := h
  rw [← (hperm.map f).sum_eq]
  exact (hsub.map f).sum_le_sum fun _ _ => Nat.zero_le _

end Bound

variable (ops) in
/-- The chunks the classes have handed out, each with its class's chunk size. -/
def liveChunks (cs : List C) : List (Nat × Nat) :=
  cs.flatMap fun c => (ops.live c).map fun a => (a, (ops.constants c).allocationSize)

/-- The chunks a list of classes has handed out take no more than their slabs. -/
lemma sum_liveChunks_le (hops : ops.Lawful kSize) :
    ∀ {cs : List C}, (∀ c ∈ cs, ops.wf c) →
      ((liveChunks ops cs).map Prod.snd).sum ≤ kSize * (cs.flatMap ops.held).length
  | [], _ => by simp [liveChunks]
  | c :: cs, hwf => by
    have hc := hops.live_bytes (hwf c (List.mem_cons_self _ _))
    have ih := sum_liveChunks_le hops fun d hd => hwf d (List.mem_cons_of_mem _ hd)
    simp only [liveChunks, List.flatMap_cons, List.map_append, List.sum_append, List.map_map,
      Function.comp_def, List.map_const', List.sum_const_nat,
      List.length_append, Nat.mul_add] at ih ⊢
    omega

/-- The pool's slabs are distinct slabs of the allocator's region. -/
lemma Consistent.length_slabs_le (hp : Consistent ops sa₀ t p) :
    (slabs ops p).length ≤ p.slabAllocator.numSlabs := by
  have hnd : ((slabs ops p).map Slab.idx).Nodup :=
    (List.nodup_append.1 hp.nodup).1.map fun a b h => by cases a; cases b; cases h; rfl
  have hsub : (slabs ops p).map Slab.idx ⊆
      List.range' p.slabAllocator.memoryStart p.slabAllocator.numSlabs := fun n hn => by
    obtain ⟨s, hs, rfl⟩ := List.mem_map.1 hn
    have hvalid := ((hp.mem_iff s).1 (List.mem_append_left _ hs)).1.1
    simp only [SlabAllocator.isValidSlab, Bool.and_eq_true, decide_eq_true_eq] at hvalid
    exact List.mem_range'_1.2 hvalid
  simpa using (List.subperm_of_subset hnd hsub).length_le

/-- The outstanding chunks take no more than the slabs the classes hold. -/
lemma Accounted.outstandingSize_le_held (hops : ops.Lawful kSize)
    {tr : List (PoolCall × PoolReturn)} (hp : Consistent ops sa₀ t p)
    (hl : OutstandingLive ops tr p) (ha : Accounted tr p) :
    outstandingSize p (ledger tr).outstanding ≤ kSize * (p.ac.flatMap ops.held).length := by
  set out := (ledger tr).outstanding
  have hnd : (out.map fun e => (e.1, p.routedAllocSize e.2)).Nodup :=
    List.Nodup.of_map Prod.fst (by simpa [Function.comp_def] using ha.nodup)
  have hsub : (out.map fun e => (e.1, p.routedAllocSize e.2)) ⊆ liveChunks ops p.ac := fun x hx => by
    obtain ⟨⟨a, s⟩, he, rfl⟩ := List.mem_map.1 hx
    obtain ⟨i, c, hid, hc, hac⟩ := hl a s he
    refine List.mem_flatMap.2 ⟨c, List.getElem?_mem hc, List.mem_map.2 ⟨a, hac, ?_⟩⟩
    rw [hp.constants i c hc, routedAllocSize_of_eq hid]
  calc outstandingSize p out
      = ((out.map fun e => (e.1, p.routedAllocSize e.2)).map Prod.snd).sum := by
        simp [outstandingSize, Function.comp_def]
    _ ≤ ((liveChunks ops p.ac).map Prod.snd).sum :=
        sum_map_le_of_subperm _ (List.subperm_of_subset hnd hsub)
    _ ≤ kSize * (p.ac.flatMap ops.held).length :=
        sum_liveChunks_le hops fun c hc => by
          obtain ⟨i, hi⟩ := List.getElem?_of_mem hc
          exact hp.class_wf i c hi

/-- The slabs the classes hold are distinct slabs of the allocator's region. -/
lemma Consistent.length_held_le (hp : Consistent ops sa₀ t p) :
    (p.ac.flatMap ops.held).length ≤ p.slabAllocator.numSlabs :=
  le_trans (by simp [slabs]) hp.length_slabs_le

/-! ## Over every run -/

variable (ops) in
/-- `getAllocationClassFor(size).getAllocSize()`: what `allocate(size)` adds to `currAllocSize_`,
and nothing where the lookup throws. -/
def allocSizeFor (p : MemoryPool C) (size : Nat) : Nat :=
  match p.getAllocationClassFor size with
  | .ok (_, c) => (ops.constants c).allocationSize
  | .error _ => 0

/-- A class's size is its entry in the size table. -/
lemma Consistent.allocSizeFor_eq (hp : Consistent ops sa₀ t p) {size i : Nat} {c : C}
    (hid : p.getAllocationClassId size = .ok i) (hc : p.ac[i]? = some c) :
    allocSizeFor ops p size = p.routedAllocSize size := by
  have hi : p.acAt i = .ok (i, c) := by
    rw [acAt, if_pos (Int.natCast_nonneg i)]
    simp [hc]
  have hfor : p.getAllocationClassFor size = .ok (i, c) := by
    rw [getAllocationClassFor, hid]
    exact hi
  simp only [allocSizeFor, hfor, hp.constants i c hc, routedAllocSize_of_eq hid]

/-- The invariants a run from construction keeps, packaged for the accounting. -/
lemma reachable_accounted (hops : ops.Lawful kSize) (hsa : sa₀.WellFormed)
    {kMinAllocSize : Nat} {id : Int} {poolSize : Nat} {allocSizes : List Nat} {p₀ : MemoryPool C}
    (hcreate : create ops kSize kMinAllocSize id poolSize sa₀ allocSizes = .ok p₀)
    {tr : List (PoolCall × PoolReturn)} (hr : Reachable ops kSize p₀ tr p) :
    Consistent ops sa₀ [] p ∧ OutstandingLive ops tr p ∧ Accounted tr p ∧ Frame p₀ p := by
  have h0 := (create_constructed hops hcreate).1
  refine Reachable.induction
    (I := fun tr p => Consistent ops sa₀ [] p ∧ OutstandingLive ops tr p ∧ Accounted tr p ∧ Frame p₀ p)
    ⟨h0.consistent hsa, fun _ _ h => by simp at h, ⟨by simp, fun _ => by simp [h0.currAllocSize]⟩,
      .refl _⟩ (fun _ ⟨hp, hl, ha, hf⟩ hs => ?_) hr
  have hq := hs.consistent hops hp
  exact ⟨hq, hs.outstandingLive hops hp hl, hs.accounted hops hp hq hl ha, hf.trans hs.frame⟩

/-- **The ledger of `currAllocSize_`.** In every state of a run from construction in which every
`free` was of a chunk `allocate` returned and not yet freed, `currAllocSize_` is the sum, over the
chunks returned and not yet freed, of the chunk size of the class `allocate` routed each to; so a
run that frees all it allocated is back at the initial value.  The sum is exact, not modulo
`2^64`, since the chunks fit in the slabs of the allocator's region, which fits in `size_t`. -/
theorem currAllocSize_eq_outstanding (hops : ops.Lawful kSize) (hsa : sa₀.WellFormed)
    (hfit : kSize * sa₀.numSlabs < 2 ^ 64)
    {kMinAllocSize : Nat} {id : Int} {poolSize : Nat} {allocSizes : List Nat} {p₀ : MemoryPool C}
    (hcreate : create ops kSize kMinAllocSize id poolSize sa₀ allocSizes = .ok p₀)
    {tr : List (PoolCall × PoolReturn)} (hr : Reachable ops kSize p₀ tr p)
    (hfree : (ledger tr).freesOutstanding = true) :
    p.currAllocSize = ((ledger tr).outstanding.map fun e => allocSizeFor ops p e.2).sum ∧
      ((ledger tr).outstanding = [] → p.currAllocSize = p₀.currAllocSize) := by
  obtain ⟨hp, hl, ha, hf⟩ := reachable_accounted hops hsa hcreate hr
  have h0 := (create_constructed hops hcreate).1
  have hle := (ha.outstandingSize_le_held hops hp hl).trans
    (Nat.mul_le_mul_left kSize hp.length_held_le)
  rw [hf.numSlabs, h0.slabAllocator] at hle
  have hsum : ((ledger tr).outstanding.map fun e => allocSizeFor ops p e.2).sum =
      outstandingSize p (ledger tr).outstanding := by
    refine congrArg List.sum (List.map_congr_left fun e he => ?_)
    obtain ⟨i, c, hid, hc, -⟩ := hl e.1 e.2 he
    exact hp.allocSizeFor_eq hid hc
  rw [hsum, ha.currAllocSize hfree, Nat.mod_eq_of_lt (by omega), h0.currAllocSize]
  exact ⟨rfl, fun h => by rw [h, outstandingSize_nil]⟩

/-- On the pool with one class of 4-byte chunks, after two `allocate(3)` and a `free` of the
first chunk, `currAllocSize_` is the one chunk still out. -/
theorem currAllocSize_eq_outstanding_after_free :
    let ops := ReferenceClass.ops 8 1
    let p₀ : MemoryPool ReferenceClass :=
      { id := 0, maxSize := 16, slabAllocator := SlabAllocator.init 1 2, acSizes := [4],
        ac := [{ constants := ⟨0, 0, 4⟩, held := [], live := [], releasing := [] }],
        freeSlabs := [], currAllocSize := 0, currSlabAllocSize := 0, nSlabResize := 0,
        nSlabRebalance := 0, nSlabReleaseAborted := 0 }
    match runCalls ops 8 [] p₀ [.allocate 3, .allocate 3, .free 8] with
    | some (tr, p) =>
      p.currAllocSize = ((ledger tr).outstanding.map fun e => allocSizeFor ops p e.2).sum ∧
        ((ledger tr).outstanding = [] → p.currAllocSize = p₀.currAllocSize)
    | none => False := by
  intro ops p₀
  have hcreate : create ops 8 1 0 16 (SlabAllocator.init 1 2) [4] = .ok p₀ := rfl
  have hfree : ((runCalls ops 8 [] p₀ [.allocate 3, .allocate 3, .free 8]).map fun x =>
      (ledger x.1).freesOutstanding) = some true := by decide
  split
  next tr p hrun =>
    rw [hrun] at hfree
    exact currAllocSize_eq_outstanding (ReferenceClass.lawful Nat.one_pos)
      (SlabAllocator.WellFormed.init 1 2) (by decide) hcreate (.of_runCalls .init hrun)
      (Option.some.inj hfree)
  next hrun =>
    rw [hrun] at hfree
    cases hfree

end MemoryPool

end SlabPool
