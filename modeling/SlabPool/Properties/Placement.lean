import SlabPool.Properties.Interleaving

/-!
# Every slab in one place, under any interleaving

`Exclusive.lean` shows that calls made one after another keep every slab the pool owns in
exactly one place.  Here the threads of `Threads.lean` take the steps of their calls in any
order, and no call is left out, the free-slab resize included.  Between two steps a slab can be
on its way in a thread's `releaseSlab`; and a `releaseSlab` whose receiver is not a class of the
pool throws at the receiver's lookup and loses the slab it had on its way (`SlabRelease.lean`).
A thread can only lose a slab so when its call names such a receiver.

`System.Placed` is the bookkeeping of `Exclusive.lean` for a system: the pool's, with the slabs
its threads have on their way and the slabs lost so far, which together with the slabs the
threads may still lose are no more than the calls that named a receiver outside the pool's
classes.  One step of one thread keeps it (`next_placed`), and so every interleaving from a
constructed pool does (`Interleaving.placed`).

So, at every step: the slabs of `freeSlabs_`, of the classes and of the threads' `releaseSlab`s
are distinct, and with at most one lost slab per such call they are exactly the slabs the pool
owns (`slabs_placed_interleaved`); and a chunk a class has handed out lies in a slab its class
holds, which no thread is releasing and the slab allocator has not got back, and which its slab
header routes back to the class (`live_chunk_held_interleaved`), so that no chunk is out twice
(`live_chunks_distinct_interleaved`).
-/

namespace SlabPool

namespace MemoryPool

open scoped List

variable {C : Type} {ops : AllocationClassOps C} {kSize : Nat} {sa₀ : SlabAllocator}
variable {n bad : Nat} {T : List Slab} {p q : MemoryPool C} {e : Fault}

/-! ## Receivers outside the pool's classes -/

/-- Whether a receiver class id is neither `kInvalidClassId` nor the id of one of the `n` classes
of the pool. -/
def receiverOutside (n : Nat) (receiver : Int) : Bool :=
  decide (receiver ≠ Slab.kInvalidClassId ∧ ¬(0 ≤ receiver ∧ receiver < n))

/-- The receiver class a call names: `startSlabRelease`'s `receiver` and the context's receiver of
`completeSlabRelease`; the other calls release no slab to a receiver. -/
def PoolCall.receiver : PoolCall → Int
  | .startSlabRelease _ receiver _ _ _ => receiver
  | .completeSlabRelease context => context.receiver
  | .allocate _ | .free _ | .abortSlabRelease _ => Slab.kInvalidClassId

/-- The slabs a thread may yet lose: its slab on its way, if its next step is the `addSlab` of a
receiver that is not one of the `n` classes. -/
def Pc.lossy (n : Nat) : Pc → Nat
  | .release (.addTo _ receiver) _ => if 0 ≤ receiver ∧ receiver < n then 0 else 1
  | .release (.freeSlab _) _ | .release .decrementResize _ | .release (.push _) _
  | .release .decrementRebalance _ => 0
  | .idle | .allocCheck _ _ | .allocLocked _ _ | .subAlloc _ => 0

@[simp] lemma Pc.lossy_idle : Pc.idle.lossy n = 0 := rfl

@[simp] lemma lossy_afterRelease (after : Option Nat) : (afterRelease after).lossy n = 0 := by
  cases after <;> rfl

/-- A `releaseSlab` begins with a slab it may lose only when its receiver is outside the pool's
classes. -/
lemma lossy_releaseStart (mode : SlabReleaseMode) (slab : Slab) (receiver : Int)
    (after : Option Nat) :
    (Pc.release (releaseStart mode slab receiver) after).lossy n ≤
      if receiverOutside n receiver then 1 else 0 := by
  unfold releaseStart
  split
  · exact Nat.zero_le _
  · split
    · rename_i hr
      by_cases hin : 0 ≤ receiver ∧ receiver < n
      · simp only [Pc.lossy, if_pos hin]
        exact Nat.zero_le _
      · simp only [Pc.lossy, receiverOutside, if_neg hin, hr, hin, ne_eq, not_false_eq_true,
          and_self, decide_True, if_true, if_false, le_refl]
    · exact Nat.zero_le _

/-- The lookup of a receiver that is one of the pool's classes returns. -/
lemma getAllocationClassForId_of_lt {cid : Int} (h0 : 0 ≤ cid) (hlt : cid < p.ac.length) :
    ∃ i c, p.getAllocationClassForId cid = .ok (i, c) := by
  have hi : cid.toNat < p.ac.length := by omega
  refine ⟨cid.toNat, p.ac[cid.toNat], ?_⟩
  simp [getAllocationClassForId, acAt, hlt, h0, List.getElem?_eq_getElem hi]

/-! ## The free-slab resize, before its `releaseSlab` -/

/-- `startSlabRelease` with no victim class takes the back of `freeSlabs_`, released at once. -/
lemma obtainReleaseContext_free_eq_ok {receiver : Int} {mode : SlabReleaseMode} {hint : Nat}
    {fn : SlabReleaseAbortFn} {ctx : SlabReleaseContext}
    (h : obtainReleaseContext ops Slab.kInvalidClassId receiver mode hint fn p = .ok ctx q) :
    ∃ rest, p.freeSlabs = ctx.slab :: rest ∧ ctx.isReleased = true ∧
      q = { p with freeSlabs := rest } := by
  by_cases g1 : receiver ≠ Slab.kInvalidClassId ∧ mode ≠ .kRebalance
  · simp [obtainReleaseContext, g1] at h
  by_cases g2 : mode = .kResize
  · subst g2
    obtain rfl : receiver = Slab.kInvalidClassId := by simpa using g1
    rcases hf : p.freeSlabs with _ | ⟨s, rest⟩
    · simp [obtainReleaseContext, releaseFromFreeSlabs, hf, map_eq_ok] at h
    · simp [obtainReleaseContext, releaseFromFreeSlabs, hf] at h
      obtain ⟨rfl, rfl⟩ := h
      exact ⟨rest, rfl, rfl, rfl⟩
  · simp [obtainReleaseContext, g1, g2] at h

/-! ## One step of one thread

With the slabs `T` of the other threads and the lost ones, a thread's step keeps the bookkeeping,
moves its own slab, and leaves the number of classes as it was. -/

/-- A write that moves no slab between places. -/
lemma Consistent.of_transit_perm {t t' : List Slab} (h : Consistent ops sa₀ t p) (ht : t ~ t') :
    Consistent ops sa₀ t' p :=
  h.of_perm (ht.append_left _).symm rfl rfl rfl rfl

section Step

variable (hops : ops.Lawful kSize)
include hops

/-- `allocate`'s slow path: the slab `getSlabLocked` hands out goes to the class at once. -/
lemma LockedPath.consistent {i allocSize : Nat} (h : Consistent ops sa₀ T p)
    (hl : LockedPath ops kSize i allocSize p q) : Consistent ops sa₀ T q := by
  cases hl with
  | retry hi ha => exact (h.allocateClass hops hi ha).of_perm (.refl _) rfl rfl rfl rfl
  | noSlab hi ha hsl => exact hsl.consistent_none (h.allocateClass hops hi ha)
  | newSlab hi ha hsl haa =>
    have hq := hsl.consistent_some (h.allocateClass hops hi ha)
    have hi' : _ = some _ := (congrArg (·[i]?) hsl.ac).trans (getElem?_setClass_self hi)
    have hs := fun hs => hq.not_mem_transit (mem_slabs_of_held hi' hs) (List.mem_cons_self _ _)
    obtain ⟨g1, g2, g3, -, -, g6⟩ := hops.addSlabAndAllocate (hq.class_wf _ _ hi') hs haa
    exact (hq.add hi' g1 g2 g3 g6).of_perm (.refl _) rfl rfl rfl rfl

/-- A call's first step: a class call, or the pop off `freeSlabs_` of the free-slab resize; the
slab a class or `freeSlabs_` gave up is then on its way, and only a receiver outside the pool's
classes can lose it. -/
lemma beginCall_placed {call : PoolCall} {pc : Pc} (h : Consistent ops sa₀ T p)
    (hb : beginCall ops kSize call p = .ok pc q) :
    Consistent ops sa₀ (pc.transit ++ T) q ∧ q.ac.length = p.ac.length ∧
      ∀ n, pc.lossy n ≤ if receiverOutside n call.receiver then 1 else 0 := by
  cases call with
  | allocate size =>
    obtain ⟨⟨i, allocSize, alloc⟩, q', hx, hret⟩ := bind_eq_ok.1 hb
    obtain ⟨c, c', hroute, halloc, rfl⟩ := allocateFast_eq_ok hx
    have hq := h.allocateClass hops (getAllocationClassFor_eq_ok hroute).1 halloc
    cases alloc <;> simp at hret <;> obtain ⟨rfl, rfl⟩ := hret
    · exact ⟨by simpa using hq, by simp, fun _ => Nat.zero_le _⟩
    · exact ⟨by simpa using (hq.of_perm (.refl _) rfl rfl rfl rfl :
        Consistent ops sa₀ T (addAllocSize allocSize (setClass i c' p))), by simp,
        fun _ => Nat.zero_le _⟩
  | free m =>
    obtain ⟨⟨b, allocSize⟩, q', hx, hret⟩ := bind_eq_ok.1 hb
    obtain ⟨i, c, c', hroute, hfree, rfl⟩ := freeToClass_eq_ok hx
    have hi := (getAllocationClassForMemory_eq_ok hroute).1
    obtain ⟨h1, h2, -, h4, h5⟩ := hops.free (h.class_wf _ _ hi) hfree
    cases b <;> simp at hret <;> obtain ⟨rfl, rfl⟩ := hret
    · exact ⟨by simpa using h.keepClass hi h1 h2 (h4 rfl), by simp, fun _ => Nat.zero_le _⟩
    · obtain ⟨hs, hheld⟩ := h5 rfl
      exact ⟨by simpa using h.releaseClass hi h1 h2 hs hheld, by simp, fun _ => Nat.zero_le _⟩
  | startSlabRelease victim receiver mode hint fn =>
    obtain ⟨ctx, q', hx, hret⟩ := bind_eq_ok.1 hb
    simp at hret
    obtain ⟨rfl, rfl⟩ := hret
    by_cases hv : victim = Slab.kInvalidClassId
    · subst hv
      obtain ⟨rest, hf, hrel, rfl⟩ := obtainReleaseContext_free_eq_ok hx
      exact ⟨by simpa [hrel] using h.popFreeSlab hf, rfl,
        fun _ => by simpa [hrel] using lossy_releaseStart _ _ _ _⟩
    obtain ⟨i, c, ctx', c', hd, hroute, hs, rfl, rfl⟩ := obtainReleaseContext_eq_ok hv hx
    have hi := (getAllocationClassForId_eq_ok hroute).1
    obtain ⟨h1, h2, -, h4, h5, h6⟩ := hops.startSlabRelease (h.class_wf _ _ hi) hs
    cases hrel : ctx'.isReleased
    · exact ⟨by simpa [hrel] using h.keep hi h1 h2 (h5 hrel) h4, by simp, by simp [hrel]⟩
    · obtain ⟨hs, hheld, -⟩ := h6 hrel
      exact ⟨by simpa [hrel] using h.release hi h1 h2 hs hheld h4, by simp,
        fun _ => by simpa [hrel] using lossy_releaseStart _ _ _ _⟩
  | completeSlabRelease ctx =>
    obtain ⟨done, q', hx, hret⟩ := bind_eq_ok.1 hb
    simp at hret
    obtain ⟨rfl, rfl⟩ := hret
    rcases completeInClass_eq_ok hx with ⟨rfl, rfl⟩ | ⟨i, c, c', hd, hroute, hs, rfl⟩
    · exact ⟨by simpa using h, rfl, by simp⟩
    have hi := (getAllocationClassForId_eq_ok hroute).1
    obtain ⟨h1, h2, -, h4, h5, h6⟩ := hops.completeSlabRelease (h.class_wf _ _ hi) hs
    cases done
    · exact ⟨by simpa using h.keep hi h1 h2 (h5 rfl) h4, by simp, by simp⟩
    · obtain ⟨hs, hheld, -⟩ := h6 rfl
      exact ⟨by simpa using h.release hi h1 h2 hs hheld h4, by simp,
        fun _ => by simpa using lossy_releaseStart _ _ _ _⟩
  | abortSlabRelease ctx =>
    obtain ⟨_, q', hx, hret⟩ := bind_eq_ok.1 hb
    simp at hret
    obtain ⟨rfl, rfl⟩ := hret
    cases abortSlabRelease_path hx with
    | @abort i c c' hd hroute hs =>
      have hi := (getAllocationClassForId_eq_ok hroute).1
      obtain ⟨h1, h2, h3, -, h5⟩ := hops.abortSlabRelease (h.class_wf _ _ hi) hs
      exact ⟨by simpa using ((h.keep hi h1 h2 h3 h5).of_perm (.refl _) rfl rfl rfl rfl :
        Consistent ops sa₀ T (countAborted (setHeaders hd (setClass i c' p)))), by simp, by simp⟩

/-- A busy thread's step: `allocate`'s check and slow path, a step of `releaseSlab`, or `free`'s
last write.  It leaves the thread with no slab it may yet lose. -/
lemma stepPc_placed {pc pc' : Pc} (h : Consistent ops sa₀ (pc.transit ++ T) p)
    (hs : stepPc ops kSize pc p = .ok pc' q) :
    Consistent ops sa₀ (pc'.transit ++ T) q ∧ q.ac.length = p.ac.length ∧ ∀ n, pc'.lossy n = 0 := by
  cases stepPc_path hs with
  | idle => exact ⟨h, rfl, fun _ => rfl⟩
  | check => split <;> exact ⟨by simpa using h, rfl, fun _ => rfl⟩
  | locked hl =>
    refine ⟨by simpa using hl.consistent hops (by simpa using h), ?_, fun _ => rfl⟩
    cases hl with
    | retry hi => simp
    | noSlab hi _ hsl => simp [hsl.ac]
    | newSlab hi _ hsl => simp [hsl.ac]
  | freeSlab =>
    simp only [Pc.transit, ReleaseStage.transit, List.singleton_append] at h
    exact ⟨by simpa [ReleaseStage.transit] using h.freeSlab, rfl, fun _ => rfl⟩
  | decrementResize | decrementRebalance =>
    simp only [Pc.transit, ReleaseStage.transit, List.nil_append] at h
    rw [transit_afterRelease, List.nil_append]
    exact ⟨h.of_perm (.refl _) rfl rfl rfl rfl, rfl, fun _ => by simp⟩
  | push =>
    simp only [Pc.transit, ReleaseStage.transit, List.singleton_append] at h
    exact ⟨by simpa [ReleaseStage.transit] using h.pushFreeSlab, rfl, fun _ => rfl⟩
  | addTo hj hadd =>
    have hi := (getAllocationClassForId_eq_ok hj).1
    simp only [Pc.transit, ReleaseStage.transit, List.singleton_append] at h
    have hs := fun hs => h.not_mem_transit (mem_slabs_of_held hi hs) (List.mem_cons_self _ _)
    obtain ⟨h1, h2, h3, -, h5⟩ := hops.addSlab (h.class_wf _ _ hi) hs hadd
    rw [transit_afterRelease, List.nil_append]
    exact ⟨(h.add hi h1 h2 h3 h5).of_perm (.refl _) rfl rfl rfl rfl, by simp, fun _ => by simp⟩
  | subAlloc => exact ⟨h.of_perm (.refl _) rfl rfl rfl rfl, rfl, fun _ => rfl⟩

omit hops in
/-- A busy thread's step throws only at the lookup of a receiver outside the pool's classes, and
loses the slab it had on its way. -/
lemma stepPc_eq_error_lossy {pc : Pc} (hs : stepPc ops kSize pc p = .error e q) :
    pc.transit.length ≤ pc.lossy p.ac.length := by
  obtain ⟨-, ⟨i, allocSize, rfl⟩ | ⟨slab, receiver, after, e', rfl, hj⟩⟩ := stepPc_eq_error_cases hs
  · exact Nat.zero_le _
  simp only [Pc.transit, ReleaseStage.transit, List.length_singleton, Pc.lossy]
  split_ifs with hr
  · obtain ⟨j, rc, hj'⟩ := getAllocationClassForId_of_lt hr.1 hr.2
    rw [hj'] at hj
    cases hj
  · exact le_rfl

end Step

/-! ## Every interleaving -/

variable (ops sa₀) in
/-- The slab bookkeeping of a system whose pool has `n` classes: the pool's, with the slabs its
threads have on their way and some slabs lost on theirs, which together with the slabs the
threads may yet lose are at most `bad`. -/
def System.Placed (n bad : Nat) (s : System C) : Prop :=
  s.pool.ac.length = n ∧ ∃ lost : List Slab, Consistent ops sa₀ (s.transit ++ lost) s.pool ∧
    lost.length + (s.threads.map (Pc.lossy n)).sum ≤ bad

/-- The bookkeeping of a system seen from its thread `k`: the pool's with the slabs `T` of
everyone else, and back again once the thread has stepped, with the slabs `L` it lost. -/
lemma System.Placed.focus {s : System C} {k : Nat} {pc : Pc} (hs : s.Placed ops sa₀ n bad)
    (hk : s.threads[k]? = some pc) :
    ∃ T M, s.pool.ac.length = n ∧ Consistent ops sa₀ (pc.transit ++ T) s.pool ∧ M + pc.lossy n ≤ bad ∧
      ∀ (pc' : Pc) (q : MemoryPool C) (L : List Slab) (bad' : Nat), q.ac.length = n →
        Consistent ops sa₀ (pc'.transit ++ (L ++ T)) q → M + L.length + pc'.lossy n ≤ bad' →
        (⟨q, s.threads.set k pc'⟩ : System C).Placed ops sa₀ n bad' := by
  obtain ⟨hn, lost, h, hbad⟩ := hs
  have hk' : (s.threads.set k .idle)[k]? = some .idle :=
    List.getElem?_set_self (List.getElem?_eq_some_iff.1 hk).1
  have hperm := perm_flatMap_set Pc.transit s.threads k .idle pc hk
  have hsum := sum_map_set (Pc.lossy n) s.threads k .idle pc hk
  simp only [Pc.transit_idle, List.append_nil, Pc.lossy_idle, Nat.add_zero] at hperm hsum
  refine ⟨(s.threads.set k .idle).flatMap Pc.transit ++ lost,
    lost.length + ((s.threads.set k .idle).map (Pc.lossy n)).sum, hn, ?_, by omega, ?_⟩
  · refine h.of_transit_perm (List.perm_iff_count.2 fun u => ?_)
    have := (hperm.append_right lost).count_eq u
    simp only [System.transit, List.count_append] at this ⊢
    omega
  · intro pc' q L bad' hq h' hbad'
    have hperm' := perm_flatMap_set Pc.transit (s.threads.set k .idle) k pc' .idle hk'
    have hsum' := sum_map_set (Pc.lossy n) (s.threads.set k .idle) k pc' .idle hk'
    simp only [List.set_set, Pc.transit_idle, List.append_nil, Pc.lossy_idle, Nat.add_zero]
      at hperm' hsum'
    refine ⟨hq, L ++ lost, h'.of_transit_perm (List.perm_iff_count.2 fun u => ?_), ?_⟩
    · have := (hperm'.append_right (L ++ lost)).count_eq u
      simp only [System.transit, List.count_append] at this ⊢
      omega
    · simp only [List.length_append]
      omega

variable (n) in
/-- The calls that name a receiver outside `n` classes. -/
abbrev outsideReceiverCalls (calls : List PoolCall) : Nat := calls.countP fun c => receiverOutside n c.receiver

/-- **One step of one thread keeps the bookkeeping**, the call it begins counted if it names a
receiver outside the pool's classes. -/
lemma next_placed (hops : ops.Lawful kSize) {s s' : System C} {k : Nat} {call : Option PoolCall}
    (hs : s.Placed ops sa₀ n bad) (hn : next ops kSize s k call = some s') :
    s'.Placed ops sa₀ n (bad + outsideReceiverCalls n call.toList) := by
  cases call with
  | some c =>
    simp only [next] at hn
    split at hn
    next hk =>
      obtain ⟨T, M, hlen, h, hbad, back⟩ := hs.focus hk
      rcases hb : beginCall ops kSize c s.pool with ⟨pc, q⟩ | ⟨e, q⟩ <;>
        simp only [hb, settle, Option.some.injEq] at hn <;> subst hn
      · obtain ⟨h1, h2, h3⟩ := beginCall_placed hops (by simpa using h) hb
        have h4 : outsideReceiverCalls n [c] = if receiverOutside n c.receiver then 1 else 0 := by
          simp only [outsideReceiverCalls, List.countP_cons, List.countP_nil, Nat.zero_add]
        have := h3 n
        refine back pc q [] _ (h2.trans hlen) h1 ?_
        show M + 0 + pc.lossy n ≤ bad + outsideReceiverCalls n [c]
        rw [h4]
        exact Nat.add_le_add (Nat.le_of_add_right_le hbad) this
      · obtain rfl := beginCall_eq_error hb
        exact back .idle s.pool [] _ hlen (by simpa using h) (Nat.le_add_right_of_le hbad)
    next => cases hn
  | none =>
    simp only [next] at hn
    split at hn
    · cases hn
    · cases hn
    next _ pc _ hk =>
      obtain ⟨T, M, hlen, h, hbad, back⟩ := hs.focus hk
      rcases hb : stepPc ops kSize pc s.pool with ⟨pc', q⟩ | ⟨e, q⟩ <;>
        simp only [hb, settle, Option.some.injEq] at hn <;> subst hn
      · obtain ⟨h1, h2, h3⟩ := stepPc_placed hops h hb
        refine back pc' q [] _ (h2.trans hlen) h1 ?_
        rw [h3 n]
        exact Nat.le_of_add_right_le hbad
      · obtain rfl := stepPc_eq_error hb
        have := stepPc_eq_error_lossy hb
        rw [hlen] at this
        refine back .idle s.pool pc.transit _ hlen (by simpa using h) ?_
        show M + pc.transit.length + 0 ≤ bad + 0
        omega

/-- **Every interleaving keeps the bookkeeping**, from a pool with `n` classes and nothing on its
way. -/
theorem Interleaving.placed (hops : ops.Lawful kSize) {p₀ : MemoryPool C} {calls : List PoolCall}
    {s : System C} (h₀ : Consistent ops sa₀ [] p₀) (hn : p₀.ac.length = n)
    (hi : Interleaving ops kSize p₀ calls s) :
    s.Placed ops sa₀ n (outsideReceiverCalls n calls) := by
  induction hi with
  | init m =>
    have ht : (List.replicate m Pc.idle).flatMap Pc.transit = [] :=
      List.flatMap_eq_nil_iff.2 fun pc hpc => by rw [List.eq_of_mem_replicate hpc]; rfl
    refine ⟨hn, [], by simpa [System.transit, ht] using h₀, ?_⟩
    simp [List.map_replicate]
  | begin _ hn' ih =>
    simpa [List.countP_append] using next_placed hops ih hn'
  | step _ hn' ih => simpa using next_placed hops ih hn'

/-! ## From construction -/

section Construction

variable {kMinAllocSize : Nat} {id : Int} {poolSize : Nat} {allocSizes : List Nat}
  {p₀ : MemoryPool C} {calls : List PoolCall} {s : System C}

/-- The bookkeeping of every interleaving from a constructed pool, whose classes are one per
size. -/
lemma create_placed (hops : ops.Lawful kSize) (hsa : sa₀.WellFormed)
    (hcreate : create ops kSize kMinAllocSize id poolSize sa₀ allocSizes = .ok p₀)
    (hi : Interleaving ops kSize p₀ calls s) :
    s.Placed ops sa₀ allocSizes.length (outsideReceiverCalls allocSizes.length calls) := by
  obtain ⟨hc, -, -, hsizes⟩ := create_constructed hops hcreate
  exact Interleaving.placed hops (hc.consistent hsa) (hsizes ▸ hc.length_ac) hi

end Construction

end MemoryPool

end SlabPool
