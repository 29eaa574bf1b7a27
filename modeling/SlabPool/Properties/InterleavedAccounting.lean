import SlabPool.Properties.Placement

/-!
# The account of `currAllocSize_`, under any interleaving

`Accounting.lean` keeps the account of `currAllocSize_` over calls made one after another.  When
threads interleave, `allocate` adds a chunk's size in the step that hands the chunk out (its fast
path, or its slow path under `lock_`), but `free` takes the chunk back in its first step and takes
its size off the counter only in its last, after its `releaseSlab`: in between, the counter still
has the size of a chunk no class has out.

`liveBytes` is what the chunks the classes have handed out take, each at its class's chunk size,
and `Pc.pending` is the size a thread's `free` has still to take off.  `System.Accounted` says
that the counter is their sum, as a `size_t`, and that a thread in `allocate`'s slow path carries
the chunk size of its class.  Every step keeps it (`next_accounted`) as long as each `free` begins
on a chunk some class has out (`FreesLive`): any other `free` takes off a size the counter never
had.  Whenever no `free` is in progress, `currAllocSize_` is then exactly the bytes handed out.
-/

namespace SlabPool

namespace MemoryPool

open scoped List

variable {C : Type} {ops : AllocationClassOps C} {kSize : Nat} {sa₀ : SlabAllocator}
variable {T : List Slab} {p q : MemoryPool C} {e : Fault}

/-! ## The bytes handed out -/

variable (ops) in
/-- What the chunks class `c` has handed out take. -/
def liveSize (c : C) : Nat := (ops.live c).length * (ops.constants c).allocationSize

variable (ops) in
/-- What the chunks the classes have handed out take, each at its class's chunk size. -/
def liveBytes (p : MemoryPool C) : Nat := (p.ac.map (liveSize ops)).sum

lemma liveBytes_of_ac (h : q.ac = p.ac) : liveBytes ops q = liveBytes ops p := by
  rw [liveBytes, h, liveBytes]

section ClassCall

variable {i : Nat} {c c' : C} (hi : p.ac[i]? = some c) (hk : ops.constants c' = ops.constants c)
include hi hk

/-- A class call that hands out and takes back nothing. -/
lemma liveBytes_keep (hl : ops.live c' ~ ops.live c) :
    liveBytes ops (setClass i c' p) = liveBytes ops p := by
  have := sum_map_set (liveSize ops) p.ac i c' c hi
  simp only [liveSize, hk, hl.length_eq] at this
  exact Nat.add_right_cancel this

/-- A class call that hands out the chunk `a`. -/
lemma liveBytes_add {a : Nat} (hl : ops.live c' ~ a :: ops.live c) :
    liveBytes ops (setClass i c' p) = liveBytes ops p + (ops.constants c).allocationSize := by
  have := sum_map_set (liveSize ops) p.ac i c' c hi
  simp only [liveSize, hk, hl.length_eq, List.length_cons, Nat.succ_mul] at this
  simp only [liveBytes, setClass_ac]
  omega

/-- A class call that takes back the chunk `a` it had out. -/
lemma liveBytes_erase {a : Nat} (ha : a ∈ ops.live c) (hl : ops.live c' ~ (ops.live c).erase a) :
    liveBytes ops (setClass i c' p) + (ops.constants c).allocationSize = liveBytes ops p := by
  have := sum_map_set (liveSize ops) p.ac i c' c hi
  obtain ⟨n, hn⟩ : ∃ n, (ops.live c).length = n + 1 :=
    ⟨_, (Nat.succ_pred_eq_of_pos (List.length_pos_of_mem ha)).symm⟩
  simp only [liveSize, hk, hl.length_eq, List.length_erase_of_mem ha, hn, Nat.succ_mul,
    Nat.add_sub_cancel] at this
  simp only [liveBytes, setClass_ac]
  omega

end ClassCall

/-- The bytes handed out fit in the classes' slabs. -/
lemma sum_liveSize_le (hops : ops.Lawful kSize) :
    ∀ {cs : List C}, (∀ c ∈ cs, ops.wf c) →
      (cs.map (liveSize ops)).sum ≤ kSize * (cs.flatMap ops.held).length
  | [], _ => by simp
  | c :: cs, hwf => by
    have hc := hops.live_bytes (hwf c (List.mem_cons_self _ _))
    have ih := sum_liveSize_le hops fun d hd => hwf d (List.mem_cons_of_mem _ hd)
    simp only [List.map_cons, List.sum_cons, List.flatMap_cons, List.length_append, Nat.mul_add,
      liveSize] at ih ⊢
    omega

/-- In a pool with its slabs in place, the bytes handed out fit in the slabs the classes hold. -/
lemma Consistent.liveBytes_le (hops : ops.Lawful kSize) (hp : Consistent ops sa₀ T p) :
    liveBytes ops p ≤ kSize * (p.ac.flatMap ops.held).length :=
  sum_liveSize_le hops fun c hc => by
    obtain ⟨i, hi⟩ := List.getElem?_of_mem hc
    exact hp.class_wf i c hi

/-! ## What a thread has still to take off -/

/-- The chunk size a thread's `free` has taken back in its class and has still to take off
`currAllocSize_`. -/
def Pc.pending : Pc → Nat
  | .release _ (some allocSize) | .subAlloc allocSize => allocSize
  | .release _ none | .idle | .allocCheck _ _ | .allocLocked _ _ => 0

@[simp] lemma Pc.pending_idle : Pc.idle.pending = 0 := rfl

@[simp] lemma Pc.pending_release (stage : ReleaseStage) (after : Option Nat) :
    (Pc.release stage after).pending = after.getD 0 := by
  cases after <;> rfl

@[simp] lemma pending_afterRelease (after : Option Nat) : (afterRelease after).pending = after.getD 0 := by
  cases after <;> rfl

/-- What a thread's later steps rely on: `allocate`'s slow path carries the chunk size of its
class in the size table `sizes`, and a `releaseSlab` to a receiver is not a `free`'s. -/
def Pc.WellSized (sizes : List Nat) : Pc → Prop
  | .allocCheck i allocSize | .allocLocked i allocSize => allocSize = sizes.getD i 0
  | .release (.addTo _ _) after => after = none
  | .release (.freeSlab _) _ | .release .decrementResize _ | .release (.push _) _
  | .release .decrementRebalance _ | .idle | .subAlloc _ => True

lemma wellSized_releaseStart (sizes : List Nat) (mode : SlabReleaseMode) (slab : Slab)
    (receiver : Int) : (Pc.release (releaseStart mode slab receiver) none).WellSized sizes := by
  unfold releaseStart
  split
  · trivial
  · split <;> trivial

lemma wellSized_afterRelease (sizes : List Nat) (after : Option Nat) :
    (afterRelease after).WellSized sizes := by
  cases after <;> trivial

/-! ## The chunk sizes the pieces read -/

lemma allocateFast_allocSize {size i i' allocSize : Nat} {c c' : C} {alloc alloc' : Option Nat}
    (hroute : p.getAllocationClassFor size = .ok (i', c)) (halloc : ops.allocate c = (alloc', c'))
    (h : allocateFast ops size p = .ok (i, allocSize, alloc) q) :
    allocSize = (ops.constants c').allocationSize := by
  cases alloc' <;> simp [allocateFast, hroute, halloc] at h <;> exact h.1.2.1.symm

lemma freeToClass_allocSize {m i allocSize : Nat} {b b' : Bool} {c c' : C}
    (hroute : p.getAllocationClassForMemory kSize m = .ok (i, c)) (hf : ops.free c m = .ok (b', c'))
    (h : freeToClass ops kSize m p = .ok (b, allocSize) q) :
    allocSize = (ops.constants c').allocationSize := by
  simp [freeToClass, hroute, hf] at h
  exact h.1.2.symm

/-! ## `currAllocSize_` against the bytes handed out -/

variable (ops) in
/-- `currAllocSize_` is, as a `size_t`, the bytes handed out and `P` more. -/
def AllocCounted (P : Nat) (p : MemoryPool C) : Prop :=
  p.currAllocSize = (liveBytes ops p + P) % 2 ^ 64

namespace AllocCounted

variable {P a : Nat}

/-- A write that leaves the counter and the bytes handed out. -/
lemma keep (h : AllocCounted ops P p) (hc : q.currAllocSize = p.currAllocSize)
    (hl : liveBytes ops q = liveBytes ops p) : AllocCounted ops P q := by
  rw [AllocCounted, hc, hl]
  exact h

/-- A chunk handed out, and its size added. -/
lemma add (h : AllocCounted ops P p) (hc : q.currAllocSize = sizeAdd p.currAllocSize a)
    (hl : liveBytes ops q = liveBytes ops p + a) : AllocCounted ops P q := by
  rw [AllocCounted, hc, h, sizeAdd_mod, hl, Nat.add_right_comm]

/-- A chunk taken back, its size still to take off. -/
lemma takeBack (h : AllocCounted ops P p) (hc : q.currAllocSize = p.currAllocSize)
    (hl : liveBytes ops q + a = liveBytes ops p) : AllocCounted ops (P + a) q := by
  rw [AllocCounted, hc, h, ← hl, Nat.add_assoc, Nat.add_comm a P]

/-- The size of a chunk taken back, taken off. -/
lemma sub (h : AllocCounted ops (P + a) p) : AllocCounted ops P (subAllocSize a p) := by
  rw [AllocCounted, subAllocSize_currAllocSize, h, ← Nat.add_assoc, sizeSub_mod]
  rfl

end AllocCounted

/-- A class's chunk size is its entry in the size table. -/
lemma Consistent.allocationSize_eq {t : List Slab} (h : Consistent ops sa₀ t p) {i : Nat} {c : C}
    (hi : p.ac[i]? = some c) : (ops.constants c).allocationSize = p.acSizes.getD i 0 := by
  rw [h.constants i c hi]

/-- The thread a `startSlabRelease` or a `completeSlabRelease` leaves: in a `releaseSlab` with
nothing after it, or idle. -/
lemma releaseOrIdle (sizes : List Nat) (b : Bool) (mode : SlabReleaseMode) (slab : Slab)
    (receiver : Int) :
    (if b then Pc.release (releaseStart mode slab receiver) none else .idle).pending = 0 ∧
      (if b then Pc.release (releaseStart mode slab receiver) none else .idle).WellSized sizes := by
  cases b
  · exact ⟨rfl, trivial⟩
  · exact ⟨rfl, wellSized_releaseStart sizes mode slab receiver⟩

/-! ## What no step writes -/

lemma frame_setClass (i : Nat) (c : C) (p : MemoryPool C) : Frame p (setClass i c p) :=
  ⟨rfl, rfl, rfl, by simp, rfl, rfl⟩

lemma beginCall_frame {call : PoolCall} {pc : Pc} (hb : beginCall ops kSize call p = .ok pc q) :
    Frame p q := by
  cases call with
  | allocate size =>
    obtain ⟨⟨i, allocSize, alloc⟩, q', hx, hret⟩ := bind_eq_ok.1 hb
    obtain ⟨c, c', -, -, rfl⟩ := allocateFast_eq_ok hx
    simp at hret
    obtain ⟨-, rfl⟩ := hret
    split <;> exact ⟨rfl, rfl, rfl, by simp, rfl, rfl⟩
  | free m =>
    obtain ⟨_, q', hx, hret⟩ := bind_eq_ok.1 hb
    obtain ⟨i, c, c', -, -, rfl⟩ := freeToClass_eq_ok hx
    simp at hret
    obtain ⟨-, rfl⟩ := hret
    exact frame_setClass i c' p
  | startSlabRelease victim receiver mode hint fn =>
    obtain ⟨ctx, q', hx, hret⟩ := bind_eq_ok.1 hb
    simp at hret
    obtain ⟨-, rfl⟩ := hret
    by_cases hv : victim = Slab.kInvalidClassId
    · subst hv
      obtain ⟨rest, -, -, rfl⟩ := obtainReleaseContext_free_eq_ok hx
      exact ⟨rfl, rfl, rfl, rfl, rfl, rfl⟩
    obtain ⟨i, c, ctx', c', hd, -, -, -, rfl⟩ := obtainReleaseContext_eq_ok hv hx
    exact ⟨rfl, rfl, rfl, by simp, rfl, rfl⟩
  | completeSlabRelease ctx =>
    obtain ⟨done, q', hx, hret⟩ := bind_eq_ok.1 hb
    simp at hret
    obtain ⟨-, rfl⟩ := hret
    rcases completeInClass_eq_ok hx with ⟨-, rfl⟩ | ⟨i, c, c', hd, -, -, rfl⟩
    · exact .refl _
    · exact ⟨rfl, rfl, rfl, by simp, rfl, rfl⟩
  | abortSlabRelease ctx =>
    obtain ⟨_, q', hx, hret⟩ := bind_eq_ok.1 hb
    simp at hret
    obtain ⟨-, rfl⟩ := hret
    cases abortSlabRelease_path hx
    exact ⟨rfl, rfl, rfl, by simp, rfl, rfl⟩

lemma LockedPath.frame {i allocSize : Nat} (hl : LockedPath ops kSize i allocSize p q) :
    Frame p q := by
  cases hl with
  | retry => exact ⟨rfl, rfl, rfl, by simp, rfl, rfl⟩
  | noSlab _ _ hsl => exact (frame_setClass _ _ p).trans hsl.frame
  | newSlab _ _ hsl =>
    exact ((frame_setClass _ _ p).trans hsl.frame).trans ⟨rfl, rfl, rfl, by simp, rfl, rfl⟩

lemma stepPc_frame {pc pc' : Pc} (hs : stepPc ops kSize pc p = .ok pc' q) : Frame p q := by
  cases stepPc_path hs with
  | idle | check => exact .refl _
  | locked hl => exact hl.frame
  | addTo => exact ⟨rfl, rfl, rfl, by simp, rfl, rfl⟩
  | _ => exact ⟨rfl, rfl, rfl, rfl, rfl, rfl⟩

lemma next_frame {s s' : System C} {k : Nat} {call : Option PoolCall}
    (hn : next ops kSize s k call = some s') : Frame s.pool s'.pool := by
  cases call with
  | some c =>
    simp only [next] at hn
    split at hn
    · rcases hb : beginCall ops kSize c s.pool with ⟨pc, q⟩ | ⟨e, q⟩ <;>
        simp only [hb, settle, Option.some.injEq] at hn <;> subst hn
      · exact beginCall_frame hb
      · exact (beginCall_eq_error hb).symm ▸ .refl _
    · cases hn
  | none =>
    simp only [next] at hn
    split at hn
    · cases hn
    · cases hn
    next _ pc _ _ =>
      rcases hb : stepPc ops kSize pc s.pool with ⟨pc', q⟩ | ⟨e, q⟩ <;>
        simp only [hb, settle, Option.some.injEq] at hn <;> subst hn
      · exact stepPc_frame hb
      · exact (stepPc_eq_error hb).symm ▸ .refl _

/-- No step of any thread writes the pool's id, limit, size table, number of classes or slab
region. -/
lemma Interleaving.frame {p₀ : MemoryPool C} {calls : List PoolCall} {s : System C}
    (hi : Interleaving ops kSize p₀ calls s) : Frame p₀ s.pool := by
  induction hi with
  | init => exact .refl _
  | begin _ hn ih | step _ hn ih => exact ih.trans (next_frame hn)

/-! ## One step -/

section Step

variable (hops : ops.Lawful kSize)
include hops

/-- A call's first step.  `allocate`'s fast path adds the size of the chunk it hands out, if any,
or leaves the thread with its class's chunk size; `free` takes its chunk back and leaves the size
pending; the other calls hand out and take back nothing. -/
lemma beginCall_accounted {call : PoolCall} {pc : Pc} {P : Nat} (h : Consistent ops sa₀ T p)
    (hlive : ∀ m, call = .free m → ∃ (i : Nat) (c : C), p.ac[i]? = some c ∧ m ∈ ops.live c)
    (ha : AllocCounted ops P p) (hb : beginCall ops kSize call p = .ok pc q) :
    AllocCounted ops (P + pc.pending) q ∧ pc.WellSized p.acSizes := by
  cases call with
  | allocate size =>
    obtain ⟨⟨i, allocSize, alloc⟩, q', hx, hret⟩ := bind_eq_ok.1 hb
    obtain ⟨c, c', hroute, halloc, rfl⟩ := allocateFast_eq_ok hx
    have hi := (getAllocationClassFor_eq_ok hroute).1
    obtain ⟨-, h2, -, h4, h5⟩ := hops.allocate (h.class_wf _ _ hi) halloc
    have hsize : allocSize = (ops.constants c).allocationSize := by
      rw [allocateFast_allocSize hroute halloc hx, h2]
    cases alloc with
    | none =>
      simp at hret
      obtain ⟨rfl, rfl⟩ := hret
      exact ⟨ha.keep rfl (liveBytes_keep hi h2 (h4 rfl)), hsize.trans (h.allocationSize_eq hi)⟩
    | some a =>
      simp at hret
      obtain ⟨rfl, rfl⟩ := hret
      exact ⟨ha.add rfl (hsize ▸ liveBytes_add hi h2 (h5 a rfl).2), trivial⟩
  | free m =>
    obtain ⟨⟨b, allocSize⟩, q', hx, hret⟩ := bind_eq_ok.1 hb
    obtain ⟨i, c, c', hroute, hfree, rfl⟩ := freeToClass_eq_ok hx
    obtain ⟨hi, hid⟩ := getAllocationClassForMemory_eq_ok hroute
    obtain ⟨j, d, hj, hm⟩ := hlive m rfl
    obtain rfl : i = j := by
      exact_mod_cast Except.ok.inj (hid.symm.trans (h.getAllocationClassIdOfMemory_eq hops hj hm))
    obtain rfl : d = c := Option.some.inj (hj.symm.trans hi)
    obtain ⟨-, h2, h3, -, -⟩ := hops.free (h.class_wf _ _ hi) hfree
    have hsize : allocSize = (ops.constants d).allocationSize := by
      rw [freeToClass_allocSize hroute hfree hx, h2]
    have hq : AllocCounted ops (P + allocSize) (setClass i c' p) :=
      ha.takeBack rfl (hsize ▸ liveBytes_erase hi h2 hm h3)
    cases b <;> simp at hret <;> obtain ⟨rfl, rfl⟩ := hret <;> exact ⟨hq, trivial⟩
  | startSlabRelease victim receiver mode hint fn =>
    obtain ⟨ctx, q', hx, hret⟩ := bind_eq_ok.1 hb
    simp at hret
    obtain ⟨rfl, rfl⟩ := hret
    obtain ⟨hp0, hw⟩ := releaseOrIdle p.acSizes ctx.isReleased ctx.mode ctx.slab receiver
    rw [hp0, Nat.add_zero]
    by_cases hv : victim = Slab.kInvalidClassId
    · subst hv
      obtain ⟨rest, -, -, rfl⟩ := obtainReleaseContext_free_eq_ok hx
      exact ⟨ha.keep rfl rfl, hw⟩
    obtain ⟨i, c, ctx', c', hd, hroute, hs, rfl, rfl⟩ := obtainReleaseContext_eq_ok hv hx
    have hi := (getAllocationClassForId_eq_ok hroute).1
    obtain ⟨-, h2, h3, -⟩ := hops.startSlabRelease (h.class_wf _ _ hi) hs
    exact ⟨ha.keep rfl (liveBytes_keep hi h2 h3), hw⟩
  | completeSlabRelease ctx =>
    obtain ⟨done, q', hx, hret⟩ := bind_eq_ok.1 hb
    simp at hret
    obtain ⟨rfl, rfl⟩ := hret
    obtain ⟨hp0, hw⟩ := releaseOrIdle p.acSizes done ctx.mode ctx.slab ctx.receiver
    rw [hp0, Nat.add_zero]
    rcases completeInClass_eq_ok hx with ⟨rfl, rfl⟩ | ⟨i, c, c', hd, hroute, hs, rfl⟩
    · exact ⟨ha, hw⟩
    have hi := (getAllocationClassForId_eq_ok hroute).1
    obtain ⟨-, h2, h3, -⟩ := hops.completeSlabRelease (h.class_wf _ _ hi) hs
    exact ⟨ha.keep rfl (liveBytes_keep hi h2 h3), hw⟩
  | abortSlabRelease ctx =>
    obtain ⟨_, q', hx, hret⟩ := bind_eq_ok.1 hb
    simp at hret
    obtain ⟨rfl, rfl⟩ := hret
    cases abortSlabRelease_path hx with
    | @abort i c c' hd hroute hs =>
      have hi := (getAllocationClassForId_eq_ok hroute).1
      obtain ⟨-, h2, -, h4, -⟩ := hops.abortSlabRelease (h.class_wf _ _ hi) hs
      exact ⟨ha.keep rfl (liveBytes_keep hi h2 h4), trivial⟩

/-- `allocate`'s slow path adds the size of the chunk it hands out, its class's. -/
lemma LockedPath.accounted {i allocSize P : Nat} (h : Consistent ops sa₀ T p)
    (hsize : allocSize = p.acSizes.getD i 0) (ha : AllocCounted ops P p)
    (hl : LockedPath ops kSize i allocSize p q) : AllocCounted ops P q := by
  cases hl with
  | retry hi ha' =>
    obtain ⟨-, h2, -, -, h5⟩ := hops.allocate (h.class_wf _ _ hi) ha'
    refine ha.add rfl ?_
    show liveBytes ops (setClass i _ p) = _
    rw [liveBytes_add hi h2 (h5 _ rfl).2, h.allocationSize_eq hi, hsize]
  | noSlab hi ha' hsl =>
    obtain ⟨-, h2, -, h4, -⟩ := hops.allocate (h.class_wf _ _ hi) ha'
    refine ha.keep hsl.currAllocSize ?_
    rw [liveBytes_of_ac hsl.ac, liveBytes_keep hi h2 (h4 rfl)]
  | newSlab hi ha' hsl haa =>
    obtain ⟨-, h2, -, h4, -⟩ := hops.allocate (h.class_wf _ _ hi) ha'
    have hq := hsl.consistent_some (h.allocateClass hops hi ha')
    have hi' : _ = some _ := (congrArg (·[i]?) hsl.ac).trans (getElem?_setClass_self hi)
    have hs := fun hs => hq.not_mem_transit (mem_slabs_of_held hi' hs) (List.mem_cons_self _ _)
    obtain ⟨-, g2, -, -, g5, -⟩ := hops.addSlabAndAllocate (hq.class_wf _ _ hi') hs haa
    refine ha.add (a := allocSize) (by simp [hsl.currAllocSize]) ?_
    show liveBytes ops (setClass i _ _) = _
    rw [liveBytes_add hi' g2 g5, liveBytes_of_ac hsl.ac, liveBytes_keep hi h2 (h4 rfl), h2,
      h.allocationSize_eq hi, hsize]

/-- A busy thread's step.  The slow path of `allocate` adds the size of the chunk it hands out;
`free`'s last step takes off the size pending; no other step hands out or takes back a chunk. -/
lemma stepPc_accounted {pc pc' : Pc} {P : Nat} (h : Consistent ops sa₀ (pc.transit ++ T) p)
    (hw : pc.WellSized p.acSizes) (ha : AllocCounted ops (P + pc.pending) p)
    (hs : stepPc ops kSize pc p = .ok pc' q) :
    AllocCounted ops (P + pc'.pending) q ∧ pc'.WellSized p.acSizes := by
  cases stepPc_path hs with
  | idle => exact ⟨ha, trivial⟩
  | check =>
    split
    · exact ⟨ha, trivial⟩
    · exact ⟨ha, hw⟩
  | locked hl => exact ⟨hl.accounted hops h hw ha, trivial⟩
  | freeSlab | push =>
    simp only [Pc.pending_release] at ha ⊢
    exact ⟨ha.keep rfl rfl, trivial⟩
  | decrementResize | decrementRebalance =>
    simp only [Pc.pending_release, pending_afterRelease] at ha ⊢
    exact ⟨ha.keep rfl rfl, wellSized_afterRelease _ _⟩
  | addTo hj hadd =>
    obtain rfl : _ = none := hw
    have hi := (getAllocationClassForId_eq_ok hj).1
    simp only [Pc.transit, ReleaseStage.transit, List.singleton_append] at h
    have hs := fun hs => h.not_mem_transit (mem_slabs_of_held hi hs) (List.mem_cons_self _ _)
    obtain ⟨-, h2, -, h4, -⟩ := hops.addSlab (h.class_wf _ _ hi) hs hadd
    exact ⟨ha.keep rfl (liveBytes_keep hi h2 h4), trivial⟩
  | subAlloc => exact ⟨ha.sub, trivial⟩

omit hops in
/-- A busy thread's step throws only at the receiver's lookup in a `releaseSlab`, which is not a
`free`'s: nothing is pending then. -/
lemma stepPc_eq_error_pending {pc : Pc} {sizes : List Nat} (hw : pc.WellSized sizes)
    (hs : stepPc ops kSize pc p = .error e q) : pc.pending = 0 := by
  obtain ⟨-, ⟨i, allocSize, rfl⟩ | ⟨slab, receiver, after, e', rfl, -⟩⟩ := stepPc_eq_error_cases hs
  · rfl
  · obtain rfl : after = none := hw
    rfl

end Step

/-! ## Every interleaving whose `free`s are of chunks handed out -/

variable (ops) in
/-- The account of `currAllocSize_` in a system: the bytes handed out and the sizes the threads'
`free`s have still to take off, as a `size_t`; and the chunk sizes the threads carry, those of the
pool's size table. -/
def System.Accounted (s : System C) : Prop :=
  AllocCounted ops (s.threads.map Pc.pending).sum s.pool ∧
    ∀ pc ∈ s.threads, pc.WellSized s.pool.acSizes

/-- The account of a system seen from its thread `k`: the pool's with the sizes `P` pending in
everyone else, and back again once the thread has stepped. -/
lemma System.Accounted.focus {s : System C} {k : Nat} {pc : Pc} (hs : s.Accounted ops)
    (hk : s.threads[k]? = some pc) :
    ∃ P, AllocCounted ops (P + pc.pending) s.pool ∧ pc.WellSized s.pool.acSizes ∧
      ∀ (pc' : Pc) (q : MemoryPool C), q.acSizes = s.pool.acSizes →
        AllocCounted ops (P + pc'.pending) q → pc'.WellSized s.pool.acSizes →
        (⟨q, s.threads.set k pc'⟩ : System C).Accounted ops := by
  obtain ⟨ha, hw⟩ := hs
  have hk' : (s.threads.set k .idle)[k]? = some .idle :=
    List.getElem?_set_self (List.getElem?_eq_some_iff.1 hk).1
  have hsum := sum_map_set Pc.pending s.threads k .idle pc hk
  rw [Pc.pending_idle, Nat.add_zero] at hsum
  refine ⟨_, hsum ▸ ha, hw pc (List.getElem?_mem hk), fun pc' q hq ha' hw' => ?_⟩
  have hsum' := sum_map_set Pc.pending (s.threads.set k .idle) k pc' .idle hk'
  rw [List.set_set, Pc.pending_idle, Nat.add_zero] at hsum'
  refine ⟨hsum' ▸ ha', fun pc'' h'' => hq ▸ ?_⟩
  rcases List.mem_or_eq_of_mem_set h'' with h'' | rfl
  · exact hw pc'' h''
  · exact hw'

variable (ops kSize) in
/-- The interleavings from `p₀` in which every `free` begins on a chunk some class has handed
out and not taken back. -/
inductive FreesLive (p₀ : MemoryPool C) : List PoolCall → System C → Prop
  | init (n : Nat) : FreesLive p₀ [] ⟨p₀, List.replicate n .idle⟩
  | begin {calls : List PoolCall} {s s' : System C} {k : Nat} {call : PoolCall} :
      FreesLive p₀ calls s → next ops kSize s k (some call) = some s' →
      (∀ m, call = .free m → ∃ (i : Nat) (c : C), s.pool.ac[i]? = some c ∧ m ∈ ops.live c) →
      FreesLive p₀ (calls ++ [call]) s'
  | step {calls : List PoolCall} {s s' : System C} {k : Nat} :
      FreesLive p₀ calls s → next ops kSize s k none = some s' → FreesLive p₀ calls s'

lemma FreesLive.toInterleaving {p₀ : MemoryPool C} {calls : List PoolCall} {s : System C}
    (h : FreesLive ops kSize p₀ calls s) : Interleaving ops kSize p₀ calls s := by
  induction h with
  | init n => exact .init n
  | begin _ hn _ ih => exact .begin ih hn
  | step _ hn ih => exact .step ih hn

variable (ops kSize) in
/-- Whether the steps of a schedule, taken from `s` as `runSchedule` takes them, begin every
`free` on a chunk some class has handed out. -/
def freesLiveSchedule (s : System C) : List (Nat × Option PoolCall) → Bool
  | [] => true
  | (k, call) :: rest =>
    (match call with
      | some (.free m) => s.pool.ac.any fun c => decide (m ∈ ops.live c)
      | _ => true) &&
      match next ops kSize s k call with
      | some s' => freesLiveSchedule s' rest
      | none => true

/-- A schedule that runs to its end and begins every `free` on a chunk handed out is such an
interleaving. -/
lemma FreesLive.of_runSchedule {p₀ : MemoryPool C} {calls calls' : List PoolCall}
    {s s' : System C} {sched : List (Nat × Option PoolCall)} (hi : FreesLive ops kSize p₀ calls s)
    (hrun : runSchedule ops kSize calls s sched = some (calls', s'))
    (hok : freesLiveSchedule ops kSize s sched = true) : FreesLive ops kSize p₀ calls' s' := by
  induction sched generalizing calls s with
  | nil =>
    simp only [runSchedule, Option.some.injEq, Prod.mk.injEq] at hrun
    obtain ⟨rfl, rfl⟩ := hrun
    exact hi
  | cons st rest ih =>
    obtain ⟨k, call⟩ := st
    simp only [runSchedule] at hrun
    split at hrun
    next s₁ hn =>
      simp only [freesLiveSchedule, hn, Bool.and_eq_true] at hok
      cases call with
      | none => exact ih (.step hi hn) (by simpa using hrun) hok.2
      | some c =>
        refine ih (.begin hi hn fun m hm => ?_) hrun hok.2
        subst hm
        obtain ⟨d, hd, hm⟩ := List.any_eq_true.1 hok.1
        obtain ⟨i, hi⟩ := List.getElem?_of_mem hd
        exact ⟨i, d, hi, of_decide_eq_true hm⟩
    next => cases hrun

/-- **One step of one thread keeps the account**, a `free` it begins being of a chunk some class
has handed out. -/
lemma next_accounted (hops : ops.Lawful kSize) {n bad : Nat} {s s' : System C} {k : Nat}
    {call : Option PoolCall} (hP : s.Placed ops sa₀ n bad) (hs : s.Accounted ops)
    (hlive : ∀ m, call = some (.free m) →
      ∃ (i : Nat) (c : C), s.pool.ac[i]? = some c ∧ m ∈ ops.live c)
    (hn : next ops kSize s k call = some s') : s'.Accounted ops := by
  cases call with
  | some c =>
    simp only [next] at hn
    split at hn
    next hk =>
      obtain ⟨T, -, -, h, -, -⟩ := hP.focus hk
      obtain ⟨P, ha, -, back⟩ := hs.focus hk
      rcases hb : beginCall ops kSize c s.pool with ⟨pc, q⟩ | ⟨e, q⟩ <;>
        simp only [hb, settle, Option.some.injEq] at hn <;> subst hn
      · obtain ⟨h1, h2⟩ := beginCall_accounted hops (by simpa using h)
          (fun m hm => hlive m (congrArg some hm)) ha hb
        exact back pc q (beginCall_frame hb).acSizes h1 h2
      · obtain rfl := beginCall_eq_error hb
        exact back .idle s.pool rfl ha trivial
    next => cases hn
  | none =>
    simp only [next] at hn
    split at hn
    · cases hn
    · cases hn
    next _ pc _ hk =>
      obtain ⟨T, -, -, h, -, -⟩ := hP.focus hk
      obtain ⟨P, ha, hw, back⟩ := hs.focus hk
      rcases hb : stepPc ops kSize pc s.pool with ⟨pc', q⟩ | ⟨e, q⟩ <;>
        simp only [hb, settle, Option.some.injEq] at hn <;> subst hn
      · obtain ⟨h1, h2⟩ := stepPc_accounted hops h hw ha hb
        exact back pc' q (stepPc_frame hb).acSizes h1 h2
      · obtain rfl := stepPc_eq_error hb
        rw [stepPc_eq_error_pending hw hb] at ha
        exact back .idle s.pool rfl ha trivial

/-! ## From construction -/

section Construction

variable {kMinAllocSize : Nat} {id : Int} {poolSize : Nat} {allocSizes : List Nat}
  {p₀ : MemoryPool C} {calls : List PoolCall} {s : System C}

/-- A constructed pool has handed out nothing. -/
lemma Constructed.liveBytes {sa : SlabAllocator} (hc : Constructed ops kSize kMinAllocSize sa p) :
    liveBytes ops p = 0 :=
  List.sum_eq_zero fun x hx => by
    obtain ⟨c, hc', rfl⟩ := List.mem_map.1 hx
    obtain ⟨i, hi⟩ := List.getElem?_of_mem hc'
    simp [liveSize, (hc.classes i c hi).2.2.2.1]

/-- The account of every interleaving from a constructed pool whose `free`s are of chunks handed
out. -/
lemma create_accounted (hops : ops.Lawful kSize) (hsa : sa₀.WellFormed)
    (hcreate : create ops kSize kMinAllocSize id poolSize sa₀ allocSizes = .ok p₀)
    (hi : FreesLive ops kSize p₀ calls s) : s.Accounted ops := by
  have hc := (create_constructed hops hcreate).1
  induction hi with
  | init m =>
    refine ⟨?_, fun pc hpc => by rw [List.eq_of_mem_replicate hpc]; trivial⟩
    simp [AllocCounted, hc.currAllocSize, hc.liveBytes, List.map_replicate]
  | begin hi' hn hfree ih =>
    exact next_accounted hops (create_placed hops hsa hcreate hi'.toInterleaving) ih
      (fun m hm => hfree m (Option.some.inj hm)) hn
  | step hi' hn ih =>
    exact next_accounted hops (create_placed hops hsa hcreate hi'.toInterleaving) ih
      (fun _ h => by cases h) hn

/-- Under any interleaving from a constructed pool, the classes hold no more slabs than the slab
allocator's region has. -/
lemma create_length_held_le (hops : ops.Lawful kSize) (hsa : sa₀.WellFormed)
    (hcreate : create ops kSize kMinAllocSize id poolSize sa₀ allocSizes = .ok p₀)
    (hi : Interleaving ops kSize p₀ calls s) : (s.pool.ac.flatMap ops.held).length ≤ sa₀.numSlabs := by
  obtain ⟨-, lost, hp, -⟩ := create_placed hops hsa hcreate hi
  rw [← (create_constructed hops hcreate).1.slabAllocator, ← hi.frame.numSlabs]
  exact hp.length_held_le

end Construction

end MemoryPool

end SlabPool
