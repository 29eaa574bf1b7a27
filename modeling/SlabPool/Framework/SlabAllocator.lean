import SlabPool.Framework.Slab
import Mathlib.Logic.Function.Basic
import Mathlib.Data.List.Nodup

/-!
# The slab allocator

`SlabAllocator` is outside the sources: the spec (§1, §6) lists the interface the pool and its
classes consume, `makeNewSlab(poolId) → slab?`, `freeSlab(slab)`, `getSlabHeader(ptr) → header?`,
`getSlabForMemory(ptr) → slab` and `isValidSlab(slab)`.  The model below is the smallest
allocator with that interface: a region of `numSlabs` slabs starting at slab index
`memoryStart`, a stack of slabs that are not handed out, and one header per slab.

A slab is *allocated* when it lies in the region and is not on the free stack; `WellFormed`
says the free stack is a duplicate-free list of slabs of the region, and every operation keeps
it so.
-/

namespace SlabPool

/-- Modelled from the spec: `SlabAllocator` (§1, §6), the owner of slab memory and of the
per-slab headers. -/
structure SlabAllocator where
  memoryStart : Nat
  numSlabs : Nat
  freeSlabs : List Slab
  headers : Slab → SlabHeader

namespace SlabAllocator

/-- An allocator over the region `[memoryStart, memoryStart + numSlabs)`, none of it handed out. -/
def init (memoryStart numSlabs : Nat) : SlabAllocator where
  memoryStart := memoryStart
  numSlabs := numSlabs
  freeSlabs := (List.range' memoryStart numSlabs).map Slab.mk
  headers := fun _ => {}

/-- `isValidSlab`: the slab lies in the allocator's region. -/
def isValidSlab (sa : SlabAllocator) (s : Slab) : Bool :=
  sa.memoryStart ≤ s.idx && s.idx < sa.memoryStart + sa.numSlabs

/-- `getSlabForMemory`: the slab whose bytes hold address `p`. -/
def getSlabForMemory (kSize p : Nat) : Slab := ⟨p / kSize⟩

/-- `getSlabHeader`: the header of the slab holding `p`, or `nullptr` outside the region. -/
def getSlabHeader (sa : SlabAllocator) (kSize p : Nat) : Option SlabHeader :=
  if sa.isValidSlab (getSlabForMemory kSize p) then some (sa.headers (getSlabForMemory kSize p))
  else none

/-- `makeNewSlab(id)`: pop a slab off the free stack and stamp the pool's id on its header. -/
def makeNewSlab (sa : SlabAllocator) (id : Int) : Option Slab × SlabAllocator :=
  match sa.freeSlabs with
  | [] => (none, sa)
  | s :: rest =>
    (some s, { sa with freeSlabs := rest, headers := Function.update sa.headers s { poolId := id } })

/-- `freeSlab(slab)`: push the slab back and clear its header. -/
def freeSlab (sa : SlabAllocator) (s : Slab) : SlabAllocator :=
  { sa with freeSlabs := s :: sa.freeSlabs, headers := Function.update sa.headers s {} }

/-- A slab of the region that is handed out. -/
def Allocated (sa : SlabAllocator) (s : Slab) : Prop :=
  sa.isValidSlab s ∧ s ∉ sa.freeSlabs

instance (sa : SlabAllocator) : DecidablePred sa.Allocated :=
  fun _ => inferInstanceAs (Decidable (_ ∧ _))

/-- The free stack holds distinct slabs of the region. -/
structure WellFormed (sa : SlabAllocator) : Prop where
  nodup : sa.freeSlabs.Nodup
  valid : ∀ s ∈ sa.freeSlabs, sa.isValidSlab s

/-! ## The operations -/

@[simp] lemma makeNewSlab_memoryStart (sa : SlabAllocator) (id : Int) :
    (sa.makeNewSlab id).2.memoryStart = sa.memoryStart := by
  unfold makeNewSlab; split <;> rfl

@[simp] lemma makeNewSlab_numSlabs (sa : SlabAllocator) (id : Int) :
    (sa.makeNewSlab id).2.numSlabs = sa.numSlabs := by
  unfold makeNewSlab; split <;> rfl

@[simp] lemma isValidSlab_makeNewSlab (sa : SlabAllocator) (id : Int) (s : Slab) :
    (sa.makeNewSlab id).2.isValidSlab s = sa.isValidSlab s := by
  simp [isValidSlab]

@[simp] lemma isValidSlab_freeSlab (sa : SlabAllocator) (s t : Slab) :
    (sa.freeSlab s).isValidSlab t = sa.isValidSlab t := rfl

@[simp] lemma freeSlab_freeSlabs (sa : SlabAllocator) (s : Slab) :
    (sa.freeSlab s).freeSlabs = s :: sa.freeSlabs := rfl

@[simp] lemma freeSlab_headers (sa : SlabAllocator) (s : Slab) :
    (sa.freeSlab s).headers = Function.update sa.headers s {} := rfl

/-- **makeNewSlab.** A slab comes off the top of the free stack, and nothing else changes but
its header; when the stack is empty the allocator fails and is left as it was. -/
lemma makeNewSlab_spec (sa : SlabAllocator) (id : Int) :
    (sa.freeSlabs = [] ∧ sa.makeNewSlab id = (none, sa)) ∨
    ∃ s rest, sa.freeSlabs = s :: rest ∧
      sa.makeNewSlab id =
        (some s, { sa with freeSlabs := rest,
                           headers := Function.update sa.headers s { poolId := id } }) := by
  unfold makeNewSlab
  split
  · exact .inl ⟨‹_›, rfl⟩
  · exact .inr ⟨_, _, ‹_›, rfl⟩

lemma makeNewSlab_eq_none {sa sa' : SlabAllocator} {id : Int}
    (h : sa.makeNewSlab id = (none, sa')) : sa' = sa := by
  rcases makeNewSlab_spec sa id with ⟨-, h'⟩ | ⟨s, rest, -, h'⟩ <;> rw [h'] at h <;> cases h
  rfl

/-- `makeNewSlab` fails only on an empty free stack. -/
lemma freeSlabs_of_makeNewSlab_eq_none {sa sa' : SlabAllocator} {id : Int}
    (h : sa.makeNewSlab id = (none, sa')) : sa.freeSlabs = [] := by
  rcases makeNewSlab_spec sa id with ⟨he, -⟩ | ⟨s, rest, -, h'⟩
  · exact he
  · rw [h'] at h; cases h

lemma makeNewSlab_region {sa sa' : SlabAllocator} {id : Int} {s : Option Slab}
    (h : sa.makeNewSlab id = (s, sa')) :
    sa'.memoryStart = sa.memoryStart ∧ sa'.numSlabs = sa.numSlabs := by
  rw [← makeNewSlab_memoryStart sa id, ← makeNewSlab_numSlabs sa id, h]
  exact ⟨rfl, rfl⟩

lemma WellFormed.init (memoryStart numSlabs : Nat) : (init memoryStart numSlabs).WellFormed where
  nodup := (List.nodup_range' _ _).map (fun _ _ h => Slab.mk.inj h)
  valid := by
    simp only [SlabAllocator.init, List.mem_map, List.mem_range', isValidSlab]
    rintro _ ⟨_, ⟨k, hk, rfl⟩, rfl⟩
    simp only [Bool.and_eq_true, decide_eq_true_eq]
    omega

/-- A slab made by `makeNewSlab` was not handed out before, and is handed out after. -/
lemma WellFormed.makeNewSlab {sa : SlabAllocator} (h : sa.WellFormed) {id : Int} {s : Slab}
    {sa' : SlabAllocator} (hm : sa.makeNewSlab id = (some s, sa')) :
    sa'.WellFormed ∧ ¬ sa.Allocated s ∧ ∀ t, sa'.Allocated t ↔ t = s ∨ sa.Allocated t := by
  rcases makeNewSlab_spec sa id with ⟨-, hm'⟩ | ⟨s', rest, hfree, hm'⟩
  · simp [hm'] at hm
  · rw [hm', Prod.mk.injEq, Option.some.injEq] at hm
    obtain ⟨rfl, rfl⟩ := hm
    have hnd := h.nodup
    rw [hfree, List.nodup_cons] at hnd
    have hvalid := h.valid
    rw [hfree] at hvalid
    refine ⟨⟨hnd.2, fun t ht => hvalid t (List.mem_cons_of_mem _ ht)⟩, ?_, fun t => ?_⟩
    · simp [Allocated, hfree]
    · have ht := hvalid t
      by_cases hts : t = s' <;> simp_all [Allocated, isValidSlab]

/-- Handing back an allocated slab keeps the allocator well formed and ends its allocation. -/
lemma WellFormed.freeSlab {sa : SlabAllocator} (h : sa.WellFormed) {s : Slab}
    (hs : sa.Allocated s) :
    (sa.freeSlab s).WellFormed ∧ ∀ t, (sa.freeSlab s).Allocated t ↔ t ≠ s ∧ sa.Allocated t := by
  refine ⟨⟨List.nodup_cons.2 ⟨hs.2, h.nodup⟩, ?_⟩, fun t => ?_⟩
  · simpa using ⟨hs.1, h.valid⟩
  · by_cases hts : t = s <;> simp [Allocated, hts]

end SlabAllocator

end SlabPool
