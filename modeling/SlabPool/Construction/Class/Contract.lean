import SlabPool.Construction.Class.Iteration
import Mathlib.Data.List.Perm.Basic

/-!
# The contract of `AllocationClass`

`AllocationClass.h` declares the members `MemoryPool` calls, but their bodies
(`AllocationClass.cpp`) are not among the sources.  The pool's claims are stated for "each
`AllocationClass` behaving per its contract", so the class enters the model as an
implementation of its interface, `AllocationClassOps C` over a state `C`, together with
`Lawful`, the contract the spec (§4.1, §7, §8) gives it.

The contract is stated in an abstraction of the class that the pool can see:

* `held c`, the slabs the class holds: its current slab, its allocated slabs and its free slabs;
* `live c`, the chunks it has handed out and not taken back;
* `wf c`, the class's own invariant.

A call that throws leaves the class as it was (spec §7: validation failures have no side
effects, and an aborted `startSlabRelease` undoes its pruning), so the fallible members return
`Except Fault` of the new state.  Each member's clause says how `held` and `live` move, and what
the member may do to the headers: only `addSlab` and `addSlabAndAllocate` write a class id, the
pool id of a header is never written, and a slab that stays in, or stays out of, the class keeps
its class id.
-/

namespace SlabPool

/-- The slab headers, by slab. -/
abbrev SlabHeaders := Slab → SlabHeader

/-- Modelled from the spec: the members of `AllocationClass` that `MemoryPool` calls (§4.1),
over an implementation state `C`.  `held`, `live` and `wf` are the abstraction the contract is
stated in; the source has no such members. -/
structure AllocationClassOps (C : Type) where
  /-- The constructor `AllocationClass(classId, poolId, allocSize, slabAllocator)`. -/
  create : Int → Int → Nat → Except Fault C
  /-- `getId()`, `getPoolId()` and `getAllocSize()`. -/
  constants : C → ClassConstants
  allocate : C → Option Nat × C
  addSlab : C → SlabHeaders → Slab → C × SlabHeaders
  addSlabAndAllocate : C → SlabHeaders → Slab → Nat × C × SlabHeaders
  free : C → Nat → Except Fault (Bool × C)
  startSlabRelease : C → SlabHeaders → SlabReleaseMode → Nat → SlabReleaseAbortFn →
    Except Fault (SlabReleaseContext × C × SlabHeaders)
  completeSlabRelease : C → SlabHeaders → SlabReleaseContext → Except Fault (Bool × C × SlabHeaders)
  abortSlabRelease : C → SlabHeaders → SlabReleaseContext → Except Fault (C × SlabHeaders)
  held : C → List Slab
  live : C → List Nat
  wf : C → Prop

/-- The slab a chunk lies in. -/
abbrev slabOf (kSize p : Nat) : Slab := SlabAllocator.getSlabForMemory kSize p

/-- What a member that keeps or drops slabs, but adds none, may do to the headers: no pool id
changes, and the class id of a slab changes only if the slab leaves the class. -/
def HeadersKept (before after : List Slab) (h h' : SlabHeaders) : Prop :=
  ∀ s, (h' s).poolId = (h s).poolId ∧ (s ∈ after ∨ s ∉ before → (h' s).classId = (h s).classId)

/-- What `addSlab` does to the headers: it stamps the class's id on the added slab and on no
other, and writes no pool id. -/
def HeadersStamped (s : Slab) (cid : Int) (h h' : SlabHeaders) : Prop :=
  (h' s).classId = cid ∧ ∀ t, (h' t).poolId = (h t).poolId ∧ (t ≠ s → (h' t).classId = (h t).classId)

namespace AllocationClassOps

open scoped List

variable {C : Type}

/-- Modelled from the spec: the contract of `AllocationClass` (§4.1, §7, §8), for slabs of
`kSize` bytes. -/
structure Lawful (kSize : Nat) (ops : AllocationClassOps C) : Prop where
  /-- A constructed class has the given constants and holds nothing. -/
  create : ∀ {cid pid a c}, ops.create cid pid a = .ok c →
    ops.wf c ∧ ops.constants c = ⟨cid, pid, a⟩ ∧ ops.held c = [] ∧ ops.live c = []
  held_nodup : ∀ {c}, ops.wf c → (ops.held c).Nodup
  live_nodup : ∀ {c}, ops.wf c → (ops.live c).Nodup
  /-- Every chunk handed out lies in a slab the class holds. -/
  live_held : ∀ {c p}, ops.wf c → p ∈ ops.live c → slabOf kSize p ∈ ops.held c
  /-- The chunks handed out fit in the class's slabs. -/
  live_bytes : ∀ {c}, ops.wf c →
    (ops.live c).length * (ops.constants c).allocationSize ≤ kSize * (ops.held c).length
  /-- `allocate()` hands out a chunk not handed out yet, or none. -/
  allocate : ∀ {c r c'}, ops.wf c → ops.allocate c = (r, c') →
    ops.wf c' ∧ ops.constants c' = ops.constants c ∧ ops.held c' ~ ops.held c ∧
    (r = none → ops.live c' ~ ops.live c) ∧
    (∀ p, r = some p → p ∉ ops.live c ∧ ops.live c' ~ p :: ops.live c)
  /-- `addSlab(slab)` takes a slab it does not hold and stamps its header. -/
  addSlab : ∀ {c h s c' h'}, ops.wf c → s ∉ ops.held c → ops.addSlab c h s = (c', h') →
    ops.wf c' ∧ ops.constants c' = ops.constants c ∧ ops.held c' ~ s :: ops.held c ∧
    ops.live c' ~ ops.live c ∧ HeadersStamped s (ops.constants c).classId h h'
  /-- `addSlabAndAllocate(slab)` does the same and hands out a chunk of that slab. -/
  addSlabAndAllocate : ∀ {c h s p c' h'}, ops.wf c → s ∉ ops.held c →
    ops.addSlabAndAllocate c h s = (p, c', h') →
    ops.wf c' ∧ ops.constants c' = ops.constants c ∧ ops.held c' ~ s :: ops.held c ∧
    slabOf kSize p = s ∧ ops.live c' ~ p :: ops.live c ∧
    HeadersStamped s (ops.constants c).classId h h'
  /-- `free(memory)` takes the chunk back; when it answers `true` the class has given up the
  chunk's slab, which then holds no chunk of the class. -/
  free : ∀ {c p b c'}, ops.wf c → ops.free c p = .ok (b, c') →
    ops.wf c' ∧ ops.constants c' = ops.constants c ∧ ops.live c' ~ (ops.live c).erase p ∧
    (b = false → ops.held c' ~ ops.held c) ∧
    (b = true → slabOf kSize p ∈ ops.held c ∧ ops.held c' ~ (ops.held c).erase (slabOf kSize p))
  /-- `startSlabRelease` either marks a slab, or, when the context comes back released, has
  given up a slab that holds no chunk of the class. -/
  startSlabRelease : ∀ {c h mode hint abortFn ctx c' h'}, ops.wf c →
    ops.startSlabRelease c h mode hint abortFn = .ok (ctx, c', h') →
    ops.wf c' ∧ ops.constants c' = ops.constants c ∧ ops.live c' ~ ops.live c ∧
    HeadersKept (ops.held c) (ops.held c') h h' ∧
    (ctx.isReleased = false → ops.held c' ~ ops.held c) ∧
    (ctx.isReleased = true → ctx.slab ∈ ops.held c ∧ ops.held c' ~ (ops.held c).erase ctx.slab ∧
      ∀ p ∈ ops.live c, slabOf kSize p ≠ ctx.slab)
  /-- `completeSlabRelease` returns `true` only once the slab holds no chunk of the class, and
  the class has then given it up. -/
  completeSlabRelease : ∀ {c h ctx b c' h'}, ops.wf c →
    ops.completeSlabRelease c h ctx = .ok (b, c', h') →
    ops.wf c' ∧ ops.constants c' = ops.constants c ∧ ops.live c' ~ ops.live c ∧
    HeadersKept (ops.held c) (ops.held c') h h' ∧
    (b = false → ops.held c' ~ ops.held c) ∧
    (b = true → ctx.slab ∈ ops.held c ∧ ops.held c' ~ (ops.held c).erase ctx.slab ∧
      ∀ p ∈ ops.live c, slabOf kSize p ≠ ctx.slab)
  /-- `abortSlabRelease` keeps every slab and every chunk where it is. -/
  abortSlabRelease : ∀ {c h ctx c' h'}, ops.wf c → ops.abortSlabRelease c h ctx = .ok (c', h') →
    ops.wf c' ∧ ops.constants c' = ops.constants c ∧ ops.held c' ~ ops.held c ∧
    ops.live c' ~ ops.live c ∧ HeadersKept (ops.held c) (ops.held c') h h'

end AllocationClassOps

end SlabPool
