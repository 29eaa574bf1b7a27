import SlabPool.Properties.Exclusive

/-!
# Routing: by size, and by slab header

`allocate(size)` finds its class by size, through `getAllocationClassId(uint32_t)`; `free(p)`
finds it through the header of `p`'s slab, `getAllocationClassId(const void*)`.  The first part
proves what the size route is on a constructed pool: the least class whose size is at least
`size`, and an `invalid_argument` for every other size (`getAllocationClassId_routes`).

The second part proves that the two routes agree on every chunk handed out and not freed, in
every state of every run (`outstanding_routes_agree`).  The chunks handed out and not freed are
read off the run's calls by `ledger`.  The route through the header agrees because of two facts
kept by every call: the class a chunk's size routes to still has the chunk in its `live`
(`OutstandingLive`), and `Consistent` says the header of each of a class's slabs names that
class.  The second fact rests on the class's contract: the pool never writes a class id, and
`addSlab` and `addSlabAndAllocate` stamp their own.  A call may change which chunks a class has
handed out only as `KeepsLive` allows, which each call's paths are checked against once.
-/

namespace SlabPool

namespace MemoryPool

open scoped List

variable {C : Type} {ops : AllocationClassOps C} {kSize : Nat} {sa₀ : SlabAllocator}

/-! ## The size route -/

lemma getLastD_mem {l : List Nat} (h : l ≠ []) : l.getLastD 0 ∈ l := by
  rw [List.getLastD_eq_getLast?, List.getLast?_eq_getLast l h]
  exact List.getLast_mem h

/-- **Routing by size.** On a constructed pool, a size in `(0, acSizes_.back()]` is routed to
the least class whose size is at least it: that class's chunks are large enough, and every class
before it has smaller chunks.  Any other size is refused with `invalid_argument`. -/
theorem getAllocationClassId_routes (hops : ops.Lawful kSize) {kMinAllocSize : Nat} {id : Int} {poolSize : Nat}
    {sa : SlabAllocator} {allocSizes : List Nat} {p : MemoryPool C}
    (hcreate : create ops kSize kMinAllocSize id poolSize sa allocSizes = .ok p) (size : Nat) :
    (0 < size ∧ size ≤ p.acSizes.getLastD 0 →
      ∃ (i : Nat) (c : C), i < p.acSizes.length ∧
        p.getAllocationClassId size = .ok i ∧ p.getAllocationClassFor size = .ok (i, c) ∧
        size ≤ p.acSizes.getD i 0 ∧ (∀ j < i, p.acSizes.getD j 0 < size) ∧
        size ≤ (ops.constants c).allocationSize ∧
        ∀ (j : Nat) d, j < i → p.ac[j]? = some d → (ops.constants d).allocationSize < size) ∧
    (¬ (0 < size ∧ size ≤ p.acSizes.getLastD 0) →
      p.getAllocationClassId size = .error (.invalidArgument s!"Invalid size for alloc {size} ")) := by
  have hc := (create_constructed hops hcreate).1
  refine ⟨fun ⟨hpos, hle⟩ => ?_, fun hbad => ?_⟩
  · have hex : ∃ x ∈ p.acSizes, (fun x => !decide (x < size)) x := ⟨_, getLastD_mem hc.acSizes_ne_nil, by simpa using hle⟩
    have hlt := List.findIdx_lt_length_of_exists hex
    set i := p.acSizes.findIdx fun x => !decide (x < size) with hi
    have hid : p.getAllocationClassId size = .ok i := by
      simp only [getAllocationClassId, hi]
      rw [if_neg (by omega)]
    obtain ⟨c, hcget⟩ : ∃ c, p.ac[i]? = some c :=
      ⟨_, List.getElem?_eq_getElem (hc.length_ac ▸ hlt)⟩
    have hsize : ∀ {j : Nat} {d : C}, p.ac[j]? = some d →
        (ops.constants d).allocationSize = p.acSizes.getD j 0 := fun hd => by
      rw [(hc.classes _ _ hd).2.1]
    have hget : ∀ {j : Nat} (hj : j < p.acSizes.length), p.acSizes.getD j 0 = p.acSizes[j] :=
      fun hj => by simp [List.getD_eq_getElem?_getD, List.getElem?_eq_getElem hj]
    have hge : size ≤ p.acSizes.getD i 0 := by
      have := List.findIdx_getElem (w := hlt)
      rw [hget hlt]
      simpa using this
    have hless : ∀ j < i, p.acSizes.getD j 0 < size := fun j hj => by
      have := List.not_of_lt_findIdx hj
      rw [hget (by omega)]
      simpa using this
    refine ⟨i, c, hlt, hid, ?_, hge, hless, hsize hcget ▸ hge,
      fun j d hj hd => hsize hd ▸ hless j hj⟩
    simp only [getAllocationClassFor, hid]
    show p.acAt (i : Int) = _
    rw [acAt, if_pos (by omega)]
    simp [hcget]
  · simp only [getAllocationClassId]
    rw [if_pos (by omega)]

/-- A pool with classes of 2- and 4-byte chunks routes a 3-byte request to the second. -/
theorem getAllocationClassId_routes_three :
    let p₀ : MemoryPool ReferenceClass :=
      { id := 0, maxSize := 16, slabAllocator := SlabAllocator.init 1 2, acSizes := [2, 4],
        ac := [{ constants := ⟨0, 0, 2⟩, held := [], live := [], releasing := [] },
               { constants := ⟨1, 0, 4⟩, held := [], live := [], releasing := [] }],
        freeSlabs := [], currAllocSize := 0, currSlabAllocSize := 0, nSlabResize := 0,
        nSlabRebalance := 0, nSlabReleaseAborted := 0 }
    create (ReferenceClass.ops 8 1) 8 1 0 16 (SlabAllocator.init 1 2) [2, 4] = .ok p₀ ∧
    (0 < 3 ∧ 3 ≤ p₀.acSizes.getLastD 0 →
      ∃ (i : Nat) (c : ReferenceClass), i < p₀.acSizes.length ∧
        p₀.getAllocationClassId 3 = .ok i ∧ p₀.getAllocationClassFor 3 = .ok (i, c) ∧
        3 ≤ p₀.acSizes.getD i 0 ∧ (∀ j < i, p₀.acSizes.getD j 0 < 3) ∧
        3 ≤ ((ReferenceClass.ops 8 1).constants c).allocationSize ∧
        ∀ (j : Nat) d, j < i → p₀.ac[j]? = some d →
          ((ReferenceClass.ops 8 1).constants d).allocationSize < 3) ∧
    (¬ (0 < 3 ∧ 3 ≤ p₀.acSizes.getLastD 0) →
      p₀.getAllocationClassId 3 = .error (.invalidArgument s!"Invalid size for alloc {3} ")) := by
  intro p₀
  have hcreate : create (ReferenceClass.ops 8 1) 8 1 0 16 (SlabAllocator.init 1 2) [2, 4] =
      .ok p₀ := rfl
  exact ⟨hcreate, getAllocationClassId_routes (ReferenceClass.lawful Nat.one_pos) hcreate 3⟩

/-! ## The two routes agree -/

variable (ops) in
/-- Between `p` and `q` every class kept every chunk it had handed out, except `freed`. -/
def KeepsLive (freed : Option Nat) (p q : MemoryPool C) : Prop :=
  ∀ (k : Nat) c, p.ac[k]? = some c →
    ∃ c', q.ac[k]? = some c' ∧ ∀ a ∈ ops.live c, some a ≠ freed → a ∈ ops.live c'

namespace KeepsLive

variable {f : Option Nat} {p q r : MemoryPool C}

lemma of_ac (h : q.ac = p.ac) : KeepsLive ops f p q :=
  fun _ c hc => ⟨c, h ▸ hc, fun _ ha _ => ha⟩

lemma trans (h₁ : KeepsLive ops f p q) (h₂ : KeepsLive ops f q r) : KeepsLive ops f p r :=
  fun k c hc => by
    obtain ⟨c', hc', h⟩ := h₁ k c hc
    obtain ⟨c'', hc'', h'⟩ := h₂ k c' hc'
    exact ⟨c'', hc'', fun a ha hf => h' a (h a ha hf) hf⟩

lemma congr_left (h : KeepsLive ops f q r) (hac : q.ac = p.ac) : KeepsLive ops f p r :=
  (of_ac hac).trans h

lemma congr_right (h : KeepsLive ops f p q) (hac : r.ac = q.ac) : KeepsLive ops f p r :=
  h.trans (of_ac hac)

lemma mono (h : KeepsLive ops none p q) : KeepsLive ops f p q :=
  fun k c hc => (h k c hc).imp fun _ ⟨h1, h2⟩ => ⟨h1, fun a ha _ => h2 a ha nofun⟩

lemma setClass {i : Nat} {c c' : C} (hi : p.ac[i]? = some c)
    (hlive : ∀ a ∈ ops.live c, some a ≠ f → a ∈ ops.live c') :
    KeepsLive ops f p (setClass i c' p) := fun k d hd => by
  rw [getElem?_setClass hi]
  split_ifs with hik
  · subst hik
    rw [hi] at hd
    cases hd
    exact ⟨c', rfl, hlive⟩
  · exact ⟨d, hd, fun _ ha _ => ha⟩

end KeepsLive

variable {t : List Slab} {p q : MemoryPool C}

lemma ReleasePath.keepsLive (hops : ops.Lawful kSize) {s : Slab} {receiver : Int}
    {mode : SlabReleaseMode} (hp : Consistent ops sa₀ (s :: t) p)
    (h : ReleasePath ops kSize s receiver p mode q) : KeepsLive ops none p q := by
  cases h with
  | resize | toFreeSlabs => exact .of_ac rfl
  | toClass _ hj ha =>
    obtain ⟨hj, -⟩ := getAllocationClassForId_eq_ok hj
    have hs := fun hs => hp.not_mem_transit (mem_slabs_of_held hj hs) (List.mem_cons_self _ _)
    obtain ⟨-, -, -, h4, -⟩ := hops.addSlab (hp.class_wf _ _ hj) hs ha
    exact (KeepsLive.setClass hj fun a ha _ => h4.mem_iff.2 ha).trans (.of_ac rfl)

lemma SlabLockedPath.currAllocSize {s : Option Slab} (h : SlabLockedPath kSize p s q) :
    q.currAllocSize = p.currAllocSize := by
  cases h <;> rfl

lemma ReleasePath.currAllocSize {s : Slab} {receiver : Int} {mode : SlabReleaseMode}
    (h : ReleasePath ops kSize s receiver p mode q) : q.currAllocSize = p.currAllocSize := by
  cases h <;> rfl

/-- A class's `allocate()` that hands out nothing keeps every chunk. -/
lemma keepsLive_allocate_none (hops : ops.Lawful kSize) {i : Nat} {c c' : C}
    (hp : Consistent ops sa₀ t p) (hi : p.ac[i]? = some c) (h : ops.allocate c = (none, c')) :
    KeepsLive ops none p (setClass i c' p) ∧ ops.live c' ~ ops.live c := by
  obtain ⟨-, -, -, h4, -⟩ := hops.allocate (hp.class_wf _ _ hi) h
  exact ⟨KeepsLive.setClass hi fun a ha _ => (h4 rfl).mem_iff.2 ha, h4 rfl⟩

/-- **allocate.** A chunk `allocate(size)` returns was not handed out by the class the size
routes to, and is handed out by it after; no class gives a chunk back, and `currAllocSize_`
grows by the class's chunk size. -/
lemma AllocatePath.chunks_some (hops : ops.Lawful kSize) {size a : Nat}
    (hp : Consistent ops sa₀ [] p) (h : AllocatePath ops kSize size p (some a) q) :
    ∃ (i : Nat) (c c' : C), p.getAllocationClassId size = .ok i ∧ p.ac[i]? = some c ∧
      q.ac[i]? = some c' ∧ a ∉ ops.live c ∧ a ∈ ops.live c' ∧ KeepsLive ops none p q ∧
      q.currAllocSize = sizeAdd p.currAllocSize (ops.constants c).allocationSize := by
  cases h with
  | fast hroute h1 =>
    obtain ⟨hi, hid⟩ := getAllocationClassFor_eq_ok hroute
    obtain ⟨-, hk, -, -, h5⟩ := hops.allocate (hp.class_wf _ _ hi) h1
    obtain ⟨ha, hlive⟩ := h5 a rfl
    refine ⟨_, _, _, hid, hi, getElem?_setClass_self hi, ha, hlive.mem_iff.2 (List.mem_cons_self _ _),
      (KeepsLive.setClass hi fun b hb _ => hlive.mem_iff.2 (List.mem_cons_of_mem _ hb)).trans
        (.of_ac rfl), by simp [hk]⟩
  | @retry i c c' _ c'' hroute h1 _ h2 =>
    obtain ⟨hi, hid⟩ := getAllocationClassFor_eq_ok hroute
    obtain ⟨hwf1, hk1, -, hn1, -⟩ := hops.allocate (hp.class_wf _ _ hi) h1
    obtain ⟨ha, hlive⟩ := (hops.allocate hwf1 h2).2.2.2.2 a rfl
    have hi' : (setClass i c' p).ac[i]? = some c' := getElem?_setClass_self hi
    refine ⟨i, c, c'', hid, hi, getElem?_setClass_self hi',
      fun h => ha ((hn1 rfl).mem_iff.2 h), hlive.mem_iff.2 (List.mem_cons_self _ _), ?_,
      by simp [hk1]⟩
    exact ((KeepsLive.setClass hi fun b hb _ => (hn1 rfl).mem_iff.2 hb).trans
      (KeepsLive.setClass hi' fun b hb _ => hlive.mem_iff.2 (List.mem_cons_of_mem _ hb))).trans
      (.of_ac rfl)
  | @newSlab i c c' c'' s q0 _ c₃ hd hroute h1 _ h2 hs ha =>
    obtain ⟨hi, hid⟩ := getAllocationClassFor_eq_ok hroute
    obtain ⟨hwf1, hk1, -, hn1, -⟩ := hops.allocate (hp.class_wf _ _ hi) h1
    obtain ⟨hwf2, -, -, hn2, -⟩ := hops.allocate hwf1 h2
    have hi' : (setClass i c' p).ac[i]? = some c' := getElem?_setClass_self hi
    have hi'' : q0.ac[i]? = some c'' := hs.ac ▸ getElem?_setClass_self hi'
    have hq0 := hs.consistent_some ((hp.allocateClass hops hi h1).allocateClass hops hi' h2)
    have hnot := fun h => hq0.not_mem_transit (mem_slabs_of_held hi'' h) (List.mem_cons_self _ _)
    obtain ⟨-, -, -, hslab, hlive, -⟩ := hops.addSlabAndAllocate hwf2 hnot ha
    have ha2 : a ∉ ops.live c'' := fun h => hnot (hslab ▸ hops.live_held hwf2 h)
    refine ⟨i, c, c₃, hid, hi, getElem?_setClass_self hi'',
      fun h => ha2 ((hn2 rfl).mem_iff.2 ((hn1 rfl).mem_iff.2 h)),
      hlive.mem_iff.2 (List.mem_cons_self _ _), ?_, by simp [hk1, hs.currAllocSize]⟩
    exact ((((KeepsLive.setClass hi fun b hb _ => (hn1 rfl).mem_iff.2 hb).trans
      (KeepsLive.setClass hi' fun b hb _ => (hn2 rfl).mem_iff.2 hb)).trans (.of_ac hs.ac)).trans
      (KeepsLive.setClass hi'' fun b hb _ => hlive.mem_iff.2 (List.mem_cons_of_mem _ hb))).trans
      (.of_ac rfl)

/-- `allocate(size)` that returns `nullptr` hands out nothing and takes nothing back. -/
lemma AllocatePath.chunks_none (hops : ops.Lawful kSize) {size : Nat}
    (hp : Consistent ops sa₀ [] p) (h : AllocatePath ops kSize size p none q) :
    KeepsLive ops none p q ∧ q.currAllocSize = p.currAllocSize := by
  cases h with
  | full hroute h1 _ =>
    exact ⟨(keepsLive_allocate_none hops hp (getAllocationClassFor_eq_ok hroute).1 h1).1, rfl⟩
  | noSlab hroute h1 _ h2 hs =>
    have hi := (getAllocationClassFor_eq_ok hroute).1
    have h1' := keepsLive_allocate_none hops hp hi h1
    have h2' := keepsLive_allocate_none hops (hp.allocateClass hops hi h1)
      (getElem?_setClass_self hi) h2
    exact ⟨(h1'.1.trans h2'.1).trans (.of_ac hs.ac), hs.currAllocSize⟩

/-- **free.** `free(alloc)` takes back `alloc` in the class its slab header names, keeps every
other chunk, and shrinks `currAllocSize_` by that class's chunk size. -/
lemma FreePath.chunks (hops : ops.Lawful kSize) {m : Nat} (hp : Consistent ops sa₀ [] p)
    (h : FreePath ops kSize m p q) :
    ∃ (j : Nat) (c : C), p.getAllocationClassIdOfMemory kSize m = .ok j ∧ p.ac[j]? = some c ∧
      KeepsLive ops (some m) p q ∧
      q.currAllocSize = sizeSub p.currAllocSize (ops.constants c).allocationSize := by
  cases h with
  | kept hroute hf =>
    obtain ⟨hi, hid⟩ := getAllocationClassForMemory_eq_ok hroute
    obtain ⟨-, hk, hlive, -⟩ := hops.free (hp.class_wf _ _ hi) hf
    exact ⟨_, _, hid, hi, (KeepsLive.setClass hi fun a ha hne =>
      hlive.mem_iff.2 ((List.mem_erase_of_ne fun h => hne (h ▸ rfl)).2 ha)).trans (.of_ac rfl),
      by simp [hk]⟩
  | released hroute hf hr =>
    obtain ⟨hi, hid⟩ := getAllocationClassForMemory_eq_ok hroute
    obtain ⟨hwf, hk, hlive, -, h5⟩ := hops.free (hp.class_wf _ _ hi) hf
    have hq := hp.releaseClass hi hwf hk (h5 rfl).1 (h5 rfl).2
    exact ⟨_, _, hid, hi, ((KeepsLive.setClass hi fun a ha hne =>
      hlive.mem_iff.2 ((List.mem_erase_of_ne fun h => hne (h ▸ rfl)).2 ha)).trans
      (hr.keepsLive hops hq).mono).trans (.of_ac rfl), by simp [hk, hr.currAllocSize]⟩

/-- The slab-release calls hand out no chunk and take none back. -/
lemma StartPath.chunks (hops : ops.Lawful kSize) {victim receiver : Int} {mode : SlabReleaseMode}
    {hint : Nat} {fn : SlabReleaseAbortFn} {ctx : SlabReleaseContext}
    (hp : Consistent ops sa₀ [] p) (h : StartPath ops kSize victim receiver mode hint fn p ctx q) :
    KeepsLive ops none p q ∧ q.currAllocSize = p.currAllocSize := by
  cases h with
  | fromFreeSlabs _ _ _ hf hr =>
    exact ⟨(hr.keepsLive hops (hp.popFreeSlab hf)).congr_left rfl, hr.currAllocSize⟩
  | marked _ _ hroute hs _ =>
    have hi := (getAllocationClassForId_eq_ok hroute).1
    obtain ⟨-, -, hlive, -⟩ := hops.startSlabRelease (hp.class_wf _ _ hi) hs
    exact ⟨(KeepsLive.setClass hi fun a ha _ => hlive.mem_iff.2 ha).trans (.of_ac rfl), rfl⟩
  | released _ _ hroute hs hrel hr =>
    have hi := (getAllocationClassForId_eq_ok hroute).1
    obtain ⟨h1, h2, hlive, h4, -, h6⟩ := hops.startSlabRelease (hp.class_wf _ _ hi) hs
    have hq := hp.release hi h1 h2 (h6 hrel).1 (h6 hrel).2.1 h4
    exact ⟨(KeepsLive.setClass hi fun a ha _ => hlive.mem_iff.2 ha).trans
      ((hr.keepsLive hops hq).congr_left rfl), hr.currAllocSize⟩

lemma CompletePath.chunks (hops : ops.Lawful kSize) {ctx : SlabReleaseContext}
    (hp : Consistent ops sa₀ [] p) (h : CompletePath ops kSize ctx p q) :
    KeepsLive ops none p q ∧ q.currAllocSize = p.currAllocSize := by
  cases h with
  | already => exact ⟨.of_ac rfl, rfl⟩
  | pending _ _ hroute hs =>
    have hi := (getAllocationClassForId_eq_ok hroute).1
    obtain ⟨-, -, hlive, -⟩ := hops.completeSlabRelease (hp.class_wf _ _ hi) hs
    exact ⟨(KeepsLive.setClass hi fun a ha _ => hlive.mem_iff.2 ha).trans (.of_ac rfl), rfl⟩
  | done _ _ hroute hs hr =>
    have hi := (getAllocationClassForId_eq_ok hroute).1
    obtain ⟨h1, h2, hlive, h4, -, h6⟩ := hops.completeSlabRelease (hp.class_wf _ _ hi) hs
    have hq := hp.release hi h1 h2 (h6 rfl).1 (h6 rfl).2.1 h4
    exact ⟨(KeepsLive.setClass hi fun a ha _ => hlive.mem_iff.2 ha).trans
      ((hr.keepsLive hops hq).congr_left rfl), hr.currAllocSize⟩

lemma AbortPath.chunks (hops : ops.Lawful kSize) {ctx : SlabReleaseContext}
    (hp : Consistent ops sa₀ [] p) (h : AbortPath ops ctx p q) :
    KeepsLive ops none p q ∧ q.currAllocSize = p.currAllocSize := by
  cases h with
  | abort hroute hs =>
    have hi := (getAllocationClassForId_eq_ok hroute).1
    obtain ⟨-, -, -, hlive, -⟩ := hops.abortSlabRelease (hp.class_wf _ _ hi) hs
    exact ⟨(KeepsLive.setClass hi fun a ha _ => hlive.mem_iff.2 ha).trans (.of_ac rfl), rfl⟩

/-! ## The ledger of a run -/

/-- What a run has handed out, read off its calls and what they returned. -/
structure Ledger where
  /-- The chunks `allocate` returned and `free` has not been called on since, each with the
  size it was asked for, latest first. -/
  outstanding : List (Nat × Nat)
  /-- Whether every `free` so far was of a chunk outstanding when it was called. -/
  freesOutstanding : Bool
deriving DecidableEq, Repr

/-- One call's entry in the ledger. -/
def Ledger.record (l : Ledger) : PoolCall × PoolReturn → Ledger
  | (.allocate size, .pointer (some a)) => { l with outstanding := (a, size) :: l.outstanding }
  | (.free m, _) =>
    { outstanding := l.outstanding.filter (·.1 ≠ m),
      freesOutstanding := l.freesOutstanding && l.outstanding.any (·.1 = m) }
  | _ => l

/-- The ledger of a run. -/
def ledger (tr : List (PoolCall × PoolReturn)) : Ledger := tr.foldl Ledger.record ⟨[], true⟩

@[simp] lemma ledger_nil : ledger [] = ⟨[], true⟩ := rfl

@[simp] lemma ledger_append (tr : List (PoolCall × PoolReturn)) (e : PoolCall × PoolReturn) :
    ledger (tr ++ [e]) = (ledger tr).record e := by
  simp [ledger]

lemma getAllocationClassId_congr {size : Nat} (h : q.acSizes = p.acSizes) :
    q.getAllocationClassId size = p.getAllocationClassId size := by
  simp only [getAllocationClassId, h]

variable (ops) in
/-- Every outstanding chunk is handed out by the class its size routes to. -/
def OutstandingLive (tr : List (PoolCall × PoolReturn)) (p : MemoryPool C) : Prop :=
  ∀ a size, (a, size) ∈ (ledger tr).outstanding →
    ∃ (i : Nat) (c : C), p.getAllocationClassId size = .ok i ∧ p.ac[i]? = some c ∧ a ∈ ops.live c

lemma OutstandingLive.keep {tr : List (PoolCall × PoolReturn)} {f : Option Nat}
    (hl : OutstandingLive ops tr p) (hsizes : q.acSizes = p.acSizes) (hk : KeepsLive ops f p q)
    {a size : Nat} (ha : (a, size) ∈ (ledger tr).outstanding) (hf : some a ≠ f) :
    ∃ (i : Nat) (c : C), q.getAllocationClassId size = .ok i ∧ q.ac[i]? = some c ∧
      a ∈ ops.live c := by
  obtain ⟨i, c, hid, hc, hac⟩ := hl a size ha
  obtain ⟨c', hc', hlive⟩ := hk i c hc
  exact ⟨i, c', (getAllocationClassId_congr hsizes).trans hid, hc', hlive a hac hf⟩

/-- Every call keeps each outstanding chunk in the class its size routes to. -/
lemma Step.outstandingLive (hops : ops.Lawful kSize) {tr : List (PoolCall × PoolReturn)}
    {c : PoolCall} {r : PoolReturn} (hp : Consistent ops sa₀ [] p)
    (hl : OutstandingLive ops tr p) (h : Step ops kSize p c r q) :
    OutstandingLive ops (tr ++ [(c, r)]) q := by
  have hsizes := h.frame.acSizes
  cases h with
  | allocate h =>
    rename_i size r
    cases r with
    | none =>
      intro a size' ha
      exact hl.keep hsizes (h.chunks_none hops hp).1 (by simpa [Ledger.record] using ha) nofun
    | some a =>
      obtain ⟨i, c, c', hid, -, hc', -, hac', hk, -⟩ := h.chunks_some hops hp
      intro b size' hb
      simp only [ledger_append, Ledger.record, List.mem_cons, Prod.mk.injEq] at hb
      rcases hb with ⟨rfl, rfl⟩ | hb
      · exact ⟨i, c', (getAllocationClassId_congr hsizes).trans hid, hc', hac'⟩
      · exact hl.keep hsizes hk hb nofun
  | free h =>
    obtain ⟨-, -, -, -, hk, -⟩ := h.chunks hops hp
    intro b size' hb
    simp only [ledger_append, Ledger.record, List.mem_filter, decide_eq_true_eq] at hb
    exact hl.keep hsizes hk hb.1 fun h => hb.2 (Option.some.inj h)
  | startSlabRelease h =>
    intro b size' hb
    exact hl.keep hsizes (h.chunks hops hp).1 (by simpa [Ledger.record] using hb) nofun
  | completeSlabRelease h =>
    intro b size' hb
    exact hl.keep hsizes (h.chunks hops hp).1 (by simpa [Ledger.record] using hb) nofun
  | abortSlabRelease h =>
    intro b size' hb
    exact hl.keep hsizes (h.chunks hops hp).1 (by simpa [Ledger.record] using hb) nofun

/-- A chunk a class has handed out is routed back to that class by its slab header. -/
lemma Consistent.getAllocationClassIdOfMemory_eq (hops : ops.Lawful kSize) {t : List Slab}
    (hp : Consistent ops sa₀ t p) {i : Nat} {c : C} (hi : p.ac[i]? = some c) {a : Nat}
    (ha : a ∈ ops.live c) : p.getAllocationClassIdOfMemory kSize a = .ok i := by
  have hheld := hops.live_held (hp.class_wf i c hi) ha
  have hmem : slabOf kSize a ∈ slabs ops p ++ t := List.mem_append_left _ (mem_slabs_of_held hi hheld)
  have hvalid := ((hp.mem_iff _).1 hmem).1.1
  have hlen : i < p.ac.length := (List.getElem?_eq_some_iff.1 hi).1
  have hpool := hp.pool_id _ hmem
  have hcls := hp.class_id i c hi _ hheld
  simp only [getAllocationClassIdOfMemory, SlabAllocator.getSlabHeader]
  rw [if_pos hvalid]
  simp only [hpool, hcls, ne_eq, not_true_eq_false, if_false, Slab.kInvalidClassId]
  rw [if_neg (by omega), if_neg (by omega)]

end MemoryPool

end SlabPool
