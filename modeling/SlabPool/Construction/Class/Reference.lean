import SlabPool.Construction.Class.Contract

/-!
# A reference allocation class

An implementation of `AllocationClassOps` that meets `Lawful`, so that the pool's theorems,
stated for every lawful class, can be run on concrete calls.  It follows the spec's class
(§4.1) in what the pool can observe, with the simplest bookkeeping that does: the slabs it holds,
the chunks it has handed out, and the slabs being drained.

* `allocate` hands out the first chunk, in slab order, that lies in a slab not being drained and
  is not handed out;
* `addSlab` and `addSlabAndAllocate` stamp the class's id and chunk size on the slab's header;
* `free` of a chunk the class did not hand out throws; when the freed chunk was the last of its
  slab and the slab is not being drained, the class gives the slab up and answers `true`;
* `startSlabRelease` picks the hint's slab, or the first slab not being drained; a slab with no
  chunk handed out is released at once, and any other one is marked, unless the abort function
  says to abort;
* `completeSlabRelease` waits (the fault `blocked`) while a chunk of the slab is handed out.

The chunks of a slab are `getAllocsPerSlab()` consecutive pieces of `allocationSize` bytes from
its start.
-/

namespace SlabPool

/-- The state of the reference class. -/
structure ReferenceClass where
  constants : ClassConstants
  held : List Slab
  live : List Nat
  releasing : List Slab
deriving DecidableEq, Repr

/-- The chunks of slab `s` for chunks of `a` bytes. -/
def chunksOf (kSize a : Nat) (s : Slab) : List Nat :=
  (List.range (getAllocsPerSlab kSize a)).map fun j => s.base kSize + j * a

lemma slabOf_of_mem_chunksOf {kSize a p : Nat} {s : Slab} (h : p ∈ chunksOf kSize a s) :
    slabOf kSize p = s := by
  obtain ⟨j, hj, rfl⟩ := List.mem_map.1 h
  have hj := List.mem_range.1 hj
  have ha : 0 < a := Nat.pos_of_ne_zero fun h0 => by simp [getAllocsPerSlab, h0] at hj
  have hb := ClassConstants.chunk_add_le hj 0
  have hk : 0 < kSize := by omega
  show Slab.mk ((s.idx * kSize + j * a) / kSize) = s
  rw [Nat.add_comm, Nat.add_mul_div_right _ _ hk, Nat.div_eq_of_lt (by omega), Nat.zero_add]

namespace ReferenceClass

variable (kSize kMinAllocSize : Nat)

/-- The class's id and chunk size stamped on the header of `s`. -/
def stamp (c : ReferenceClass) (h : SlabHeaders) (s : Slab) : SlabHeaders :=
  Function.update h s
    { h s with classId := c.constants.classId, allocSize := c.constants.allocationSize }

/-- The chunks of the slabs not being drained. -/
def carvable (c : ReferenceClass) : List Nat :=
  (c.held.filter (· ∉ c.releasing)).flatMap (chunksOf kSize c.constants.allocationSize)

/-- The slab a release picks: the hint's slab, or the first slab not being drained. -/
def pickSlab (c : ReferenceClass) (hint : Nat) : Option Slab :=
  if hint ≠ 0 then
    if slabOf kSize hint ∈ c.held ∧ slabOf kSize hint ∉ c.releasing then
      some (slabOf kSize hint)
    else none
  else c.held.find? (· ∉ c.releasing)

/-- The chunks of slab `s` handed out. -/
def activeIn (c : ReferenceClass) (s : Slab) : List Nat :=
  c.live.filter (slabOf kSize · = s)

/-- The reference class's invariant. -/
structure WellFormed (c : ReferenceClass) : Prop where
  size_pos : 0 < c.constants.allocationSize
  size_le : c.constants.allocationSize ≤ kSize
  held_nodup : c.held.Nodup
  live_nodup : c.live.Nodup
  live_chunks :
    ∀ p ∈ c.live, ∃ s ∈ c.held, p ∈ chunksOf kSize c.constants.allocationSize s
  releasing_nodup : c.releasing.Nodup
  releasing_held : ∀ s ∈ c.releasing, s ∈ c.held

/-- The reference class as an implementation of `AllocationClassOps`. -/
def ops : AllocationClassOps ReferenceClass where
  create cid pid a :=
    if cid < 0 ∨ pid < 0 ∨ a < kMinAllocSize ∨ a > kSize then
      .error (.invalidArgument s!"Invalid allocation class id {cid}, pool id {pid} or size {a}")
    else .ok { constants := ⟨cid, pid, a⟩, held := [], live := [], releasing := [] }
  constants c := c.constants
  allocate c :=
    match (carvable kSize c).find? (· ∉ c.live) with
    | some p => (some p, { c with live := p :: c.live })
    | none => (none, c)
  addSlab c h s := ({ c with held := s :: c.held }, c.stamp h s)
  addSlabAndAllocate c h s :=
    (s.base kSize, { c with held := s :: c.held, live := s.base kSize :: c.live }, c.stamp h s)
  free c p :=
    if p ∈ c.live then
      let live := c.live.erase p
      let s := slabOf kSize p
      if s ∉ c.releasing ∧ live.all (slabOf kSize · ≠ s) then
        .ok (true, { c with live, held := c.held.erase s })
      else .ok (false, { c with live })
    else .error (.invalidArgument "Memory does not belong to this allocation class")
  startSlabRelease c h mode hint shouldAbortFn :=
    match c.pickSlab kSize hint with
    | none => .error (.invalidArgument "No slab of this allocation class to release")
    | some s =>
      if c.activeIn kSize s = [] then
        .ok ({ slab := s, poolId := c.constants.poolId, classId := c.constants.classId,
               activeAllocations := [], mode, isReleased := true },
             { c with held := c.held.erase s },
             Function.update h s { h s with classId := Slab.kInvalidClassId, allocSize := 0 })
      else if shouldAbortFn 0 then .error (.slabReleaseAborted "Slab release aborted")
      else
        .ok ({ slab := s, poolId := c.constants.poolId, classId := c.constants.classId,
               activeAllocations := c.activeIn kSize s, mode, isReleased := false },
             { c with releasing := s :: c.releasing },
             Function.update h s { h s with markedForRelease := true })
  completeSlabRelease c h ctx :=
    if ctx.isReleased then .ok (false, c, h)
    else if ctx.slab ∉ c.releasing then .error (.runtimeError "Slab is not being released")
    else if c.activeIn kSize ctx.slab ≠ [] then .error .blocked
    else
      .ok (true, { c with held := c.held.erase ctx.slab, releasing := c.releasing.erase ctx.slab },
        Function.update h ctx.slab
          { h ctx.slab with classId := Slab.kInvalidClassId, allocSize := 0,
                            markedForRelease := false })
  abortSlabRelease c h ctx :=
    if ctx.isReleased ∨ ctx.slab ∉ c.releasing ∨ c.activeIn kSize ctx.slab = [] then
      .error (.invalidArgument "Invalid slab release context to abort")
    else
      .ok ({ c with releasing := c.releasing.erase ctx.slab },
        Function.update h ctx.slab { h ctx.slab with markedForRelease := false })
  held c := c.held
  live c := c.live
  wf c := WellFormed kSize c

variable {kSize kMinAllocSize}

open scoped List

/-! ## The invariant -/

lemma length_flatMap_chunksOf (a : Nat) (l : List Slab) :
    (l.flatMap (chunksOf kSize a)).length = l.length * getAllocsPerSlab kSize a := by
  induction l with
  | nil => simp
  | cons s l ih => simp [List.flatMap_cons, ih, chunksOf, Nat.succ_mul, Nat.add_comm]

lemma base_mem_chunksOf {a : Nat} (ha : 0 < a) (hak : a ≤ kSize) (s : Slab) :
    s.base kSize ∈ chunksOf kSize a s :=
  List.mem_map.2 ⟨0, List.mem_range.2 (Nat.div_pos hak ha), by simp⟩

namespace WellFormed

variable {c : ReferenceClass}

lemma live_held (h : c.WellFormed kSize) {p : Nat} (hp : p ∈ c.live) :
    slabOf kSize p ∈ c.held := by
  obtain ⟨s, hs, hps⟩ := h.live_chunks p hp
  rwa [slabOf_of_mem_chunksOf hps]

lemma live_bytes (h : c.WellFormed kSize) :
    c.live.length * c.constants.allocationSize ≤ kSize * c.held.length := by
  have hsub :
      c.live.length ≤ c.held.length * getAllocsPerSlab kSize c.constants.allocationSize := by
    rw [← length_flatMap_chunksOf]
    refine (List.subperm_of_subset h.live_nodup fun p hp => ?_).length_le
    obtain ⟨s, hs, hps⟩ := h.live_chunks p hp
    exact List.mem_flatMap.2 ⟨s, hs, hps⟩
  calc c.live.length * c.constants.allocationSize
      ≤ c.held.length * getAllocsPerSlab kSize c.constants.allocationSize *
          c.constants.allocationSize := Nat.mul_le_mul_right _ hsub
    _ ≤ c.held.length * kSize := by
        rw [Nat.mul_assoc]; exact Nat.mul_le_mul_left _ (Nat.div_mul_le_self _ _)
    _ = kSize * c.held.length := Nat.mul_comm _ _

/-- Dropping a slab that holds no chunk handed out keeps the invariant. -/
lemma erase_held (h : c.WellFormed kSize) {s : Slab} (hs : s ∉ c.releasing)
    (hlive : ∀ p ∈ c.live, slabOf kSize p ≠ s) :
    WellFormed kSize { c with held := c.held.erase s } where
  size_pos := h.size_pos
  size_le := h.size_le
  held_nodup := h.held_nodup.erase s
  live_nodup := h.live_nodup
  live_chunks p hp := by
    obtain ⟨s', hs', hps⟩ := h.live_chunks p hp
    have : s' ≠ s := slabOf_of_mem_chunksOf hps ▸ hlive p hp
    exact ⟨s', (List.mem_erase_of_ne this).2 hs', hps⟩
  releasing_nodup := h.releasing_nodup
  releasing_held r hr :=
    (List.mem_erase_of_ne (ne_of_mem_of_not_mem hr hs)).2 (h.releasing_held r hr)

lemma erase_live (h : c.WellFormed kSize) (p : Nat) :
    WellFormed kSize { c with live := c.live.erase p } :=
  { h with
    live_nodup := h.live_nodup.erase p
    live_chunks := fun q hq => h.live_chunks q (List.mem_of_mem_erase hq) }

lemma erase_releasing (h : c.WellFormed kSize) (s : Slab) :
    WellFormed kSize { c with releasing := c.releasing.erase s } :=
  { h with
    releasing_nodup := h.releasing_nodup.erase s
    releasing_held := fun r hr => h.releasing_held r (List.mem_of_mem_erase hr) }

end WellFormed

/-! ## The reference class is lawful -/

@[simp] lemma ops_constants (c : ReferenceClass) :
    (ops kSize kMinAllocSize).constants c = c.constants := rfl
@[simp] lemma ops_held (c : ReferenceClass) : (ops kSize kMinAllocSize).held c = c.held := rfl
@[simp] lemma ops_live (c : ReferenceClass) : (ops kSize kMinAllocSize).live c = c.live := rfl
@[simp] lemma ops_wf (c : ReferenceClass) :
    (ops kSize kMinAllocSize).wf c = c.WellFormed kSize := rfl

lemma stamp_stamped (c : ReferenceClass) (h : SlabHeaders) (s : Slab) :
    HeadersStamped s c.constants.classId h (c.stamp h s) :=
  ⟨by simp [stamp], fun t => by
    by_cases hts : t = s <;> simp [stamp, Function.update_apply, hts]⟩

lemma pickSlab_spec {c : ReferenceClass} {hint : Nat} {s : Slab}
    (h : c.pickSlab kSize hint = some s) :
    s ∈ c.held ∧ s ∉ c.releasing := by
  unfold pickSlab at h
  split_ifs at h with h0 h1
  · exact Option.some.inj h ▸ h1
  · exact ⟨List.mem_of_find?_eq_some h, by simpa using List.find?_some h⟩

lemma activeIn_eq_nil {c : ReferenceClass} {s : Slab} :
    c.activeIn kSize s = [] ↔ ∀ p ∈ c.live, slabOf kSize p ≠ s := by
  simp [activeIn, List.filter_eq_nil_iff]

lemma create_spec (hmin : 0 < kMinAllocSize) {cid pid a c}
    (h : (ops kSize kMinAllocSize).create cid pid a = .ok c) :
    c.WellFormed kSize ∧ c.constants = ⟨cid, pid, a⟩ ∧ c.held = [] ∧ c.live = [] := by
  simp only [ops] at h
  split_ifs at h with hv
  cases h
  simp only [not_or, not_lt] at hv
  exact ⟨⟨by simp; omega, by simpa using hv.2.2.2, List.nodup_nil, List.nodup_nil, by simp,
    List.nodup_nil, by simp⟩, rfl, rfl, rfl⟩

lemma allocate_spec {c : ReferenceClass} (hc : c.WellFormed kSize) {r : Option Nat} {c'}
    (h : (ops kSize kMinAllocSize).allocate c = (r, c')) :
    c'.WellFormed kSize ∧ c'.constants = c.constants ∧ c'.held = c.held ∧
    c'.releasing = c.releasing ∧ (r = none → c'.live = c.live) ∧
    (∀ p, r = some p → p ∉ c.live ∧ c'.live = p :: c.live) := by
  simp only [ops] at h
  split at h
  · rename_i p hp
    cases h
    have hpl : p ∉ c.live := by simpa using List.find?_some hp
    obtain ⟨s, hs, hps⟩ := List.mem_flatMap.1 (List.mem_of_find?_eq_some hp)
    refine ⟨{ hc with
      live_nodup := List.nodup_cons.2 ⟨hpl, hc.live_nodup⟩
      live_chunks := ?_ }, rfl, rfl, rfl, nofun,
      fun _ hq => ⟨Option.some.inj hq ▸ hpl, by cases hq; rfl⟩⟩
    rintro q (_ | ⟨_, hq⟩)
    · exact ⟨s, (List.mem_filter.1 hs).1, hps⟩
    · exact hc.live_chunks q hq
  · cases h
    exact ⟨hc, rfl, rfl, rfl, fun _ => rfl, nofun⟩

lemma addSlab_spec {c : ReferenceClass} (hc : c.WellFormed kSize) {s : Slab} (hs : s ∉ c.held) :
    WellFormed kSize { c with held := s :: c.held } :=
  { hc with
    held_nodup := List.nodup_cons.2 ⟨hs, hc.held_nodup⟩
    live_chunks := fun p hp =>
      (hc.live_chunks p hp).imp fun _ ⟨h1, h2⟩ => ⟨List.mem_cons_of_mem _ h1, h2⟩
    releasing_held := fun r hr => List.mem_cons_of_mem _ (hc.releasing_held r hr) }

lemma addSlabAndAllocate_spec {c : ReferenceClass} (hc : c.WellFormed kSize) {s : Slab}
    (hs : s ∉ c.held) :
    WellFormed kSize { c with held := s :: c.held, live := s.base kSize :: c.live } ∧
    slabOf kSize (s.base kSize) = s ∧ s.base kSize ∉ c.live := by
  have hmem := base_mem_chunksOf hc.size_pos hc.size_le s
  have hslab := slabOf_of_mem_chunksOf hmem
  have hnot : s.base kSize ∉ c.live := fun hp => hs (hslab ▸ hc.live_held hp)
  have h1 := addSlab_spec hc hs
  refine ⟨{ h1 with
    live_nodup := List.nodup_cons.2 ⟨hnot, hc.live_nodup⟩
    live_chunks := ?_ }, hslab, hnot⟩
  rintro p (_ | ⟨_, hp⟩)
  · exact ⟨s, List.mem_cons_self _ _, hmem⟩
  · exact h1.live_chunks p hp

lemma free_spec {c : ReferenceClass} (hc : c.WellFormed kSize) {p : Nat} {b : Bool} {c'}
    (h : (ops kSize kMinAllocSize).free c p = .ok (b, c')) :
    c'.WellFormed kSize ∧ c'.constants = c.constants ∧ c'.live = c.live.erase p ∧
    (b = false → c'.held = c.held) ∧
    (b = true → slabOf kSize p ∈ c.held ∧ c'.held = c.held.erase (slabOf kSize p)) := by
  simp only [ops] at h
  split_ifs at h with hp hfree
  · cases h
    simp only [List.all_eq_true, ne_eq, decide_eq_true_eq] at hfree
    exact ⟨(hc.erase_live p).erase_held hfree.1 hfree.2, rfl, rfl, nofun,
      fun _ => ⟨hc.live_held hp, rfl⟩⟩
  · cases h
    exact ⟨hc.erase_live p, rfl, rfl, fun _ => rfl, nofun⟩

lemma startSlabRelease_spec {c : ReferenceClass} (hc : c.WellFormed kSize) {h : SlabHeaders}
    {mode : SlabReleaseMode} {hint : Nat} {abortFn : SlabReleaseAbortFn} {ctx : SlabReleaseContext}
    {c' : ReferenceClass} {h' : SlabHeaders}
    (hs : (ops kSize kMinAllocSize).startSlabRelease c h mode hint abortFn = .ok (ctx, c', h')) :
    c'.WellFormed kSize ∧ c'.constants = c.constants ∧ c'.live = c.live ∧
    HeadersKept c.held c'.held h h' ∧
    (ctx.isReleased = false → c'.held = c.held) ∧
    (ctx.isReleased = true → ctx.slab ∈ c.held ∧ c'.held = c.held.erase ctx.slab ∧
      ∀ p ∈ c.live, slabOf kSize p ≠ ctx.slab) := by
  simp only [ops] at hs
  split at hs
  · cases hs
  · rename_i s hpick
    obtain ⟨hheld, hrel⟩ := pickSlab_spec hpick
    split_ifs at hs with hact habort
    · cases hs
      have hlive := activeIn_eq_nil.1 hact
      refine ⟨hc.erase_held hrel hlive, rfl, rfl, fun t => ?_, nofun,
        fun _ => ⟨hheld, rfl, hlive⟩⟩
      by_cases hts : t = s
      · subst hts
        simp [Function.update_apply, hc.held_nodup.mem_erase_iff, hheld]
      · simp [Function.update_apply, hts]
    · cases hs
      refine ⟨{ hc with
        releasing_nodup := List.nodup_cons.2 ⟨hrel, hc.releasing_nodup⟩
        releasing_held := fun r hr => ?_ }, rfl, rfl, fun t => ?_, fun _ => rfl, nofun⟩
      · rcases List.mem_cons.1 hr with rfl | hr
        · exact hheld
        · exact hc.releasing_held r hr
      · by_cases hts : t = s <;> simp [Function.update_apply, hts]

lemma completeSlabRelease_spec {c : ReferenceClass} (hc : c.WellFormed kSize) {h : SlabHeaders}
    {ctx : SlabReleaseContext} {b : Bool} {c' : ReferenceClass} {h' : SlabHeaders}
    (hs : (ops kSize kMinAllocSize).completeSlabRelease c h ctx = .ok (b, c', h')) :
    c'.WellFormed kSize ∧ c'.constants = c.constants ∧ c'.live = c.live ∧
    HeadersKept c.held c'.held h h' ∧ (b = false → c'.held = c.held) ∧
    (b = true → ctx.slab ∈ c.held ∧ c'.held = c.held.erase ctx.slab ∧
      ∀ p ∈ c.live, slabOf kSize p ≠ ctx.slab) := by
  simp only [ops] at hs
  split_ifs at hs with hrel hmem hact
  · cases hs
    exact ⟨hc, rfl, rfl, fun _ => ⟨rfl, fun _ => rfl⟩, fun _ => rfl, nofun⟩
  · cases hs
    have hlive := activeIn_eq_nil.1 (not_not.1 hact)
    have hheld := hc.releasing_held _ hmem
    refine ⟨(hc.erase_releasing ctx.slab).erase_held
      (hc.releasing_nodup.not_mem_erase) hlive, rfl, rfl, fun t => ?_, nofun,
      fun _ => ⟨hheld, rfl, hlive⟩⟩
    by_cases hts : t = ctx.slab
    · subst hts
      simp [Function.update_apply, hc.held_nodup.mem_erase_iff, hheld]
    · simp [Function.update_apply, hts]

lemma abortSlabRelease_spec {c : ReferenceClass} (hc : c.WellFormed kSize) {h : SlabHeaders}
    {ctx : SlabReleaseContext} {c' : ReferenceClass} {h' : SlabHeaders}
    (hs : (ops kSize kMinAllocSize).abortSlabRelease c h ctx = .ok (c', h')) :
    c'.WellFormed kSize ∧ c'.constants = c.constants ∧ c'.held = c.held ∧ c'.live = c.live ∧
    HeadersKept c.held c'.held h h' := by
  simp only [ops] at hs
  split_ifs at hs
  cases hs
  exact ⟨hc.erase_releasing _, rfl, rfl, rfl, fun t => by
    by_cases hts : t = ctx.slab <;> simp [Function.update_apply, hts]⟩

/-- **The reference class meets the contract**, whenever the minimum chunk size is positive. -/
theorem lawful (hmin : 0 < kMinAllocSize) : (ops kSize kMinAllocSize).Lawful kSize where
  create h := create_spec hmin h
  held_nodup hc := hc.held_nodup
  live_nodup hc := hc.live_nodup
  live_held hc hp := hc.live_held hp
  live_bytes hc := hc.live_bytes
  allocate hc h := by
    obtain ⟨h1, h2, h3, -, h5, h6⟩ := allocate_spec hc h
    exact ⟨h1, h2, .of_eq h3, fun hr => .of_eq (h5 hr),
      fun p hp => ⟨(h6 p hp).1, .of_eq (h6 p hp).2⟩⟩
  addSlab hc hs h := by
    cases h
    exact ⟨addSlab_spec hc hs, rfl, List.Perm.refl _, List.Perm.refl _, stamp_stamped _ _ _⟩
  addSlabAndAllocate hc hs h := by
    cases h
    obtain ⟨h1, h2, -⟩ := addSlabAndAllocate_spec hc hs
    exact ⟨h1, rfl, List.Perm.refl _, h2, List.Perm.refl _, stamp_stamped _ _ _⟩
  free hc h := by
    obtain ⟨h1, h2, h3, h4, h5⟩ := free_spec hc h
    exact ⟨h1, h2, .of_eq h3, fun hb => .of_eq (h4 hb),
      fun hb => ⟨(h5 hb).1, .of_eq (h5 hb).2⟩⟩
  startSlabRelease hc h := by
    obtain ⟨h1, h2, h3, h4, h5, h6⟩ := startSlabRelease_spec hc h
    exact ⟨h1, h2, .of_eq h3, h4, fun hr => .of_eq (h5 hr),
      fun hr => ⟨(h6 hr).1, .of_eq (h6 hr).2.1, (h6 hr).2.2⟩⟩
  completeSlabRelease hc h := by
    obtain ⟨h1, h2, h3, h4, h5, h6⟩ := completeSlabRelease_spec hc h
    exact ⟨h1, h2, .of_eq h3, h4, fun hb => .of_eq (h5 hb),
      fun hb => ⟨(h6 hb).1, .of_eq (h6 hb).2.1, (h6 hb).2.2⟩⟩
  abortSlabRelease hc h := by
    obtain ⟨h1, h2, h3, h4, h5⟩ := abortSlabRelease_spec hc h
    exact ⟨h1, h2, .of_eq h3, .of_eq h4, h5⟩

end ReferenceClass

end SlabPool
