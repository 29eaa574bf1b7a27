import SlabPool.Properties.Create
import SlabPool.Construction.Class.Reference

/-!
# Every slab in one place

The pool's slabs are in three kinds of place: the pool's own `freeSlabs_`, the classes (each
class's `held`), and the slab allocator.  `Consistent` is the bookkeeping that makes this exact,
against the slab allocator `sa₀` the pool was built on: the list of the pool's slabs,
`freeSlabs_` followed by every class's slabs, has no repetition, and holds exactly the slabs the
allocator has handed out since `sa₀`.  It also records what the headers of those slabs say (the
pool's id, and for a class's slab the class's id) and that each class keeps the id, pool id and
size it was built with, which `Routing.lean` needs.

Inside a call a slab can be out of every place: a class has given it up and `releaseSlab` has
not yet placed it, or `getSlabLocked` has taken it and `addSlabAndAllocate` has not yet got it.
`Consistent` takes the list of such slabs in transit as a parameter, so that each step of a call
is a lemma of its own: a class step keeps its slabs (`keep`), gives one up into transit
(`release`) or takes one out of transit (`add`); `pushFreeSlab`, `popFreeSlab`, `freeSlab` and
`makeNewSlab` move a slab between transit and the free slabs or the allocator.  Every call takes
the pool from no slab in transit back to none (`Step.consistent`), which gives the exclusivity of
slabs over every run (`reachable_slabs_exclusive`).
-/

namespace SlabPool

namespace MemoryPool

open scoped List

section Lists
variable {α β : Type}

lemma perm_flatMap_set (f : α → List β) :
    ∀ (l : List α) (i : Nat) (x a : α), l[i]? = some a →
      (l.set i x).flatMap f ++ f a ~ l.flatMap f ++ f x
  | [], _, _, _, h => by simp at h
  | b :: l, 0, x, a, h => by
    simp only [List.getElem?_cons_zero, Option.some.injEq] at h
    subst h
    classical
    exact List.perm_iff_count.2 fun y => by
      simp only [List.set_cons_zero, List.flatMap_cons, List.count_append]
      omega
  | b :: l, i + 1, x, a, h => by
    simpa only [List.set_cons_succ, List.flatMap_cons, List.append_assoc] using
      (perm_flatMap_set f l i x a (by simpa using h)).append_left (f b)

lemma not_mem_of_nodup_flatMap {f : α → List β} :
    ∀ {l : List α}, (l.flatMap f).Nodup → ∀ {i j : Nat} {a b : α}, l[i]? = some a → l[j]? = some b →
      i ≠ j → ∀ {x : β}, x ∈ f a → x ∉ f b
  | [], _, _, _, _, _, h, _, _, _, _ => by simp at h
  | c :: l, hnd, i, j, a, b, hi, hj, hij, x, hx => by
    rw [List.flatMap_cons, List.nodup_append] at hnd
    obtain ⟨-, hnd, hdisj⟩ := hnd
    cases i with
    | zero =>
      cases j with
      | zero => exact absurd rfl hij
      | succ j =>
        simp only [List.getElem?_cons_zero, Option.some.injEq, List.getElem?_cons_succ] at hi hj
        subst hi
        exact fun hb => hdisj hx (List.mem_flatMap.2 ⟨b, List.getElem?_mem hj, hb⟩)
    | succ i =>
      cases j with
      | zero =>
        simp only [List.getElem?_cons_zero, Option.some.injEq, List.getElem?_cons_succ] at hi hj
        subst hj
        exact fun hb => hdisj hb (List.mem_flatMap.2 ⟨a, List.getElem?_mem hi, hx⟩)
      | succ j =>
        simp only [List.getElem?_cons_succ] at hi hj
        exact not_mem_of_nodup_flatMap hnd hi hj (by omega) hx
end Lists

variable {C : Type} (ops : AllocationClassOps C) (sa₀ : SlabAllocator)

/-- The slabs the pool holds: its free slabs, then each class's. -/
def slabs (p : MemoryPool C) : List Slab := p.freeSlabs ++ p.ac.flatMap ops.held

/-- The bookkeeping of the pool's slabs against the slab allocator `sa₀` it was built on, with
the slabs `transit` out of every place. -/
structure Consistent (transit : List Slab) (p : MemoryPool C) : Prop where
  allocator_wf : p.slabAllocator.WellFormed
  others : ∀ s, sa₀.Allocated s → p.slabAllocator.Allocated s
  nodup : (slabs ops p ++ transit).Nodup
  mem_iff : ∀ s, s ∈ slabs ops p ++ transit ↔ p.slabAllocator.Allocated s ∧ ¬ sa₀.Allocated s
  pool_id : ∀ s ∈ slabs ops p ++ transit, (p.slabAllocator.headers s).poolId = p.id
  class_wf : ∀ (i : Nat) c, p.ac[i]? = some c → ops.wf c
  constants : ∀ (i : Nat) c, p.ac[i]? = some c →
    ops.constants c = ⟨i, p.id, p.acSizes.getD i 0⟩
  class_id : ∀ (i : Nat) c, p.ac[i]? = some c →
    ∀ s ∈ ops.held c, (p.slabAllocator.headers s).classId = i

variable {ops sa₀}
variable {t : List Slab} {p : MemoryPool C}

lemma mem_slabs_of_held {i : Nat} {c : C} (hi : p.ac[i]? = some c) {s : Slab}
    (hs : s ∈ ops.held c) : s ∈ slabs ops p :=
  List.mem_append_right _ (List.mem_flatMap.2 ⟨c, List.getElem?_mem hi, hs⟩)

lemma getElem?_setClass {i j : Nat} {c c' : C} (hi : p.ac[i]? = some c) :
    (setClass i c' p).ac[j]? = if i = j then some c' else p.ac[j]? := by
  have : i < p.ac.length := (List.getElem?_eq_some_iff.1 hi).1
  simp [List.getElem?_set, this]

lemma getElem?_setClass_self {i : Nat} {c c' : C} (hi : p.ac[i]? = some c) :
    (setClass i c' p).ac[i]? = some c' := by
  rw [getElem?_setClass hi, if_pos rfl]

lemma slabs_setClass {i : Nat} {c : C} (c' : C) (hi : p.ac[i]? = some c) :
    slabs ops (setClass i c' p) ++ ops.held c ~ slabs ops p ++ ops.held c' := by
  simpa [slabs, List.append_assoc] using
    (perm_flatMap_set ops.held p.ac i c' c hi).append_left p.freeSlabs

namespace Consistent

lemma not_mem_held_of_ne (hp : Consistent ops sa₀ t p) {i j : Nat} {c d : C}
    (hi : p.ac[i]? = some c) (hj : p.ac[j]? = some d) (hij : i ≠ j) {s : Slab}
    (hs : s ∈ ops.held c) : s ∉ ops.held d :=
  not_mem_of_nodup_flatMap (List.nodup_append.1 (List.nodup_append.1 hp.nodup).1).2.1 hi hj hij hs

lemma not_mem_transit (hp : Consistent ops sa₀ t p) {s : Slab} (hs : s ∈ slabs ops p) : s ∉ t :=
  fun ht => (List.nodup_append.1 hp.nodup).2.2 hs ht

/-- A class call: class `i` becomes `c'` and the headers `h'`, while the slabs move as `hperm`
says. -/
lemma update {t' : List Slab} {i : Nat} {c c' : C} {h' : SlabHeaders}
    (hp : Consistent ops sa₀ t p) (hi : p.ac[i]? = some c) (hwf : ops.wf c')
    (hk : ops.constants c' = ops.constants c)
    (hperm : slabs ops (setClass i c' p) ++ t' ~ slabs ops p ++ t)
    (hpool : ∀ s, (h' s).poolId = (p.slabAllocator.headers s).poolId)
    (hother : ∀ (j : Nat) d, p.ac[j]? = some d → i ≠ j → ∀ s ∈ ops.held d,
      (h' s).classId = (p.slabAllocator.headers s).classId)
    (hown : ∀ s ∈ ops.held c', (h' s).classId = i) :
    Consistent ops sa₀ t' (setHeaders h' (setClass i c' p)) where
  allocator_wf := ⟨hp.allocator_wf.nodup, hp.allocator_wf.valid⟩
  others := hp.others
  nodup := hperm.nodup_iff.2 hp.nodup
  mem_iff s := hperm.mem_iff.trans (hp.mem_iff s)
  pool_id s hs := (hpool s).trans (hp.pool_id s (hperm.mem_iff.1 hs))
  class_wf j d hd := by
    rw [setHeaders_ac, getElem?_setClass hi] at hd
    split_ifs at hd with hij
    · cases hd; exact hwf
    · exact hp.class_wf j d hd
  constants j d hd := by
    rw [setHeaders_ac, getElem?_setClass hi] at hd
    split_ifs at hd with hij
    · cases hd; subst hij; exact hk.trans (hp.constants i c hi)
    · exact hp.constants j d hd
  class_id j d hd s hs := by
    rw [setHeaders_ac, getElem?_setClass hi] at hd
    split_ifs at hd with hij
    · cases hd; subst hij; exact hown s hs
    · exact (hother j d hd hij s hs).trans (hp.class_id j d hd s hs)

end Consistent

namespace Consistent

variable {i : Nat} {c c' : C} {h' : SlabHeaders}

/-- A class call that keeps the class's slabs. -/
lemma keep (hp : Consistent ops sa₀ t p) (hi : p.ac[i]? = some c) (hwf : ops.wf c')
    (hk : ops.constants c' = ops.constants c) (hheld : ops.held c' ~ ops.held c)
    (hh : HeadersKept (ops.held c) (ops.held c') p.slabAllocator.headers h') :
    Consistent ops sa₀ t (setHeaders h' (setClass i c' p)) := by
  refine hp.update hi hwf hk ?_ (fun s => (hh s).1)
    (fun j d hj hij s hs => (hh s).2 (.inr (hp.not_mem_held_of_ne hj hi (Ne.symm hij) hs)))
    (fun s hs => ((hh s).2 (.inl hs)).trans (hp.class_id i c hi s (hheld.mem_iff.1 hs)))
  have := (slabs_setClass c' hi).trans (hheld.append_left _)
  exact (List.perm_append_right_iff _).1 this |>.append_right t

/-- A class call that gives up slab `s`, which is then in transit. -/
lemma release {s : Slab} (hp : Consistent ops sa₀ t p) (hi : p.ac[i]? = some c)
    (hwf : ops.wf c') (hk : ops.constants c' = ops.constants c) (hs : s ∈ ops.held c)
    (hheld : ops.held c' ~ (ops.held c).erase s)
    (hh : HeadersKept (ops.held c) (ops.held c') p.slabAllocator.headers h') :
    Consistent ops sa₀ (s :: t) (setHeaders h' (setClass i c' p)) := by
  refine hp.update hi hwf hk ?_ (fun s => (hh s).1)
    (fun j d hj hij s hs => (hh s).2 (.inr (hp.not_mem_held_of_ne hj hi (Ne.symm hij) hs)))
    (fun u hu => ((hh u).2 (.inl hu)).trans
      (hp.class_id i c hi u (List.mem_of_mem_erase (hheld.mem_iff.1 hu))))
  have h1 := (slabs_setClass c' hi).trans (hheld.append_left _)
  have h2 : slabs ops (setClass i c' p) ++ [s] ++ (ops.held c).erase s ~
      slabs ops p ++ (ops.held c).erase s := by
    simpa [List.append_assoc] using ((List.perm_cons_erase hs).append_left _).symm.trans h1
  simpa [List.append_assoc] using ((List.perm_append_right_iff _).1 h2).append_right t

/-- A class call that takes slab `s` out of transit. -/
lemma add {s : Slab} (hp : Consistent ops sa₀ (s :: t) p) (hi : p.ac[i]? = some c)
    (hwf : ops.wf c') (hk : ops.constants c' = ops.constants c)
    (hheld : ops.held c' ~ s :: ops.held c)
    (hh : HeadersStamped s (ops.constants c).classId p.slabAllocator.headers h') :
    Consistent ops sa₀ t (setHeaders h' (setClass i c' p)) := by
  have hst : ∀ {j : Nat} {d : C}, p.ac[j]? = some d → ∀ u ∈ ops.held d, u ≠ s :=
    fun hj u hu hus => hp.not_mem_transit (mem_slabs_of_held hj hu) (hus ▸ List.mem_cons_self _ _)
  refine hp.update hi hwf hk ?_ (fun u => (hh.2 u).1)
    (fun j d hj _ u hu => (hh.2 u).2 (hst hj u hu)) (fun u hu => ?_)
  · have h1 := (slabs_setClass c' hi).trans (hheld.append_left _)
    have h2 : slabs ops (setClass i c' p) ++ ops.held c ~ slabs ops p ++ [s] ++ ops.held c := by
      simpa [List.append_assoc] using h1
    simpa [List.append_assoc] using ((List.perm_append_right_iff _).1 h2).append_right t
  · rcases List.mem_cons.1 (hheld.mem_iff.1 hu) with rfl | hu
    · rw [hh.1, hp.constants i c hi]
    · rw [(hh.2 u).2 (hst hi u hu), hp.class_id i c hi u hu]

end Consistent

namespace Consistent

/-- A write that moves no slab between places, and leaves the slab allocator and the classes
alone. -/
lemma of_perm {t' : List Slab} {q : MemoryPool C} (hp : Consistent ops sa₀ t p)
    (hperm : slabs ops q ++ t' ~ slabs ops p ++ t) (hsa : q.slabAllocator = p.slabAllocator)
    (hid : q.id = p.id) (hac : q.ac = p.ac) (hsizes : q.acSizes = p.acSizes) :
    Consistent ops sa₀ t' q where
  allocator_wf := hsa ▸ hp.allocator_wf
  others := hsa ▸ hp.others
  nodup := hperm.nodup_iff.2 hp.nodup
  mem_iff s := hsa ▸ hperm.mem_iff.trans (hp.mem_iff s)
  pool_id s hs := by rw [hsa, hid]; exact hp.pool_id s (hperm.mem_iff.1 hs)
  class_wf := hac ▸ hp.class_wf
  constants := by rw [hac, hid, hsizes]; exact hp.constants
  class_id := by rw [hac, hsa]; exact hp.class_id

lemma ne_of_mem {s u : Slab} (hp : Consistent ops sa₀ (s :: t) p) (hu : u ∈ slabs ops p ++ t) :
    u ≠ s := by
  rintro rfl
  exact (List.nodup_middle.1 hp.nodup |> List.nodup_cons.1).1 hu

/-- `freeSlabs_.push_back(slab)` takes a slab out of transit. -/
lemma pushFreeSlab {s : Slab} (hp : Consistent ops sa₀ (s :: t) p) :
    Consistent ops sa₀ t (pushFreeSlab s p) :=
  hp.of_perm List.perm_middle.symm rfl rfl rfl rfl

/-- Taking the back of `freeSlabs_` puts a slab in transit. -/
lemma popFreeSlab {s : Slab} {rest : List Slab} (hp : Consistent ops sa₀ t p)
    (hf : p.freeSlabs = s :: rest) : Consistent ops sa₀ (s :: t) { p with freeSlabs := rest } :=
  hp.of_perm (by
    show (rest ++ p.ac.flatMap ops.held) ++ s :: t ~ (p.freeSlabs ++ p.ac.flatMap ops.held) ++ t
    rw [hf]
    exact List.perm_middle) rfl rfl rfl rfl

/-- `slabAllocator_.freeSlab(slab)` takes a slab out of transit, and out of the pool. -/
lemma freeSlab {s : Slab} (hp : Consistent ops sa₀ (s :: t) p) :
    Consistent ops sa₀ t (freeSlabToAllocator s p) := by
  have hs := (hp.mem_iff s).1 (List.mem_append_right _ (List.mem_cons_self _ _))
  obtain ⟨hwf, hiff⟩ := hp.allocator_wf.freeSlab hs.1
  have hsub : ∀ {u}, u ∈ slabs ops p ++ t → u ∈ slabs ops p ++ s :: t := fun hu =>
    List.perm_middle.mem_iff.2 (List.mem_cons_of_mem _ hu)
  have hupd : ∀ u ∈ slabs ops p ++ t, (freeSlabToAllocator s p).slabAllocator.headers u =
      p.slabAllocator.headers u := fun u hu => by
    simp [Function.update_noteq (hp.ne_of_mem hu)]
  exact
  { allocator_wf := hwf
    others := fun u hu => (hiff u).2 ⟨fun h => hs.2 (h ▸ hu), hp.others u hu⟩
    nodup := (List.nodup_middle.1 hp.nodup).sublist (List.sublist_cons_self _ _)
    mem_iff := fun u => by
      refine ⟨fun hu => ⟨(hiff u).2 ⟨hp.ne_of_mem hu, ((hp.mem_iff u).1 (hsub hu)).1⟩,
        ((hp.mem_iff u).1 (hsub hu)).2⟩, fun ⟨hu, hu₀⟩ => ?_⟩
      obtain ⟨hus, hu⟩ := (hiff u).1 hu
      have := List.perm_middle.mem_iff.1 ((hp.mem_iff u).2 ⟨hu, hu₀⟩)
      exact (List.mem_cons.1 this).resolve_left hus
    pool_id := fun u hu => (congrArg (·.poolId) (hupd u hu)).trans (hp.pool_id u (hsub hu))
    class_wf := hp.class_wf
    constants := hp.constants
    class_id := fun j d hd u hu =>
      (congrArg (·.classId) (hupd u (List.mem_append_left _ (mem_slabs_of_held hd hu)))).trans
        (hp.class_id j d hd u hu) }

/-- A slab `makeNewSlab` hands out is in transit. -/
lemma makeNewSlab {s : Slab} {sa : SlabAllocator} (hp : Consistent ops sa₀ t p)
    (hm : p.slabAllocator.makeNewSlab p.id = (some s, sa)) :
    Consistent ops sa₀ (s :: t) { p with slabAllocator := sa } := by
  obtain ⟨hwf, hnot, hiff⟩ := hp.allocator_wf.makeNewSlab hm
  have hheaders : sa.headers = Function.update p.slabAllocator.headers s { poolId := p.id } := by
    rcases SlabAllocator.makeNewSlab_spec p.slabAllocator p.id with ⟨-, h⟩ | ⟨s', rest, -, h⟩
    · rw [h] at hm; cases hm
    · rw [h] at hm; cases hm; rfl
  have hs₀ : ¬ sa₀.Allocated s := fun h => hnot (hp.others s h)
  have hne : ∀ u ∈ slabs ops p ++ t, u ≠ s := fun u hu h => hnot (h ▸ ((hp.mem_iff u).1 hu).1)
  exact
  { allocator_wf := hwf
    others := fun u hu => (hiff u).2 (.inr (hp.others u hu))
    nodup := List.nodup_middle.2 (List.nodup_cons.2 ⟨fun h => hne s h rfl, hp.nodup⟩)
    mem_iff := fun u => by
      show u ∈ slabs ops p ++ s :: t ↔ sa.Allocated u ∧ _
      rw [List.perm_middle.mem_iff, List.mem_cons, hiff, hp.mem_iff]
      constructor
      · rintro (rfl | ⟨h1, h2⟩)
        · exact ⟨.inl rfl, hs₀⟩
        · exact ⟨.inr h1, h2⟩
      · rintro ⟨rfl | h1, h2⟩
        · exact .inl rfl
        · exact .inr ⟨h1, h2⟩
    pool_id := fun u hu => by
      show (sa.headers u).poolId = p.id
      rw [hheaders]
      rcases List.mem_cons.1 (List.perm_middle.mem_iff.1 hu) with rfl | hu
      · simp
      · rw [Function.update_noteq (hne u hu)]; exact hp.pool_id u hu
    class_wf := hp.class_wf
    constants := hp.constants
    class_id := fun j d hd u hu => by
      show (sa.headers u).classId = j
      rw [hheaders, Function.update_noteq (hne u (List.mem_append_left _ (mem_slabs_of_held hd hu)))]
      exact hp.class_id j d hd u hu }

end Consistent

namespace Consistent

variable {i : Nat} {c c' : C}

/-- A class call that keeps the class's slabs and writes no header. -/
lemma keepClass (hp : Consistent ops sa₀ t p) (hi : p.ac[i]? = some c) (hwf : ops.wf c')
    (hk : ops.constants c' = ops.constants c) (hheld : ops.held c' ~ ops.held c) :
    Consistent ops sa₀ t (setClass i c' p) :=
  hp.keep hi hwf hk hheld fun _ => ⟨rfl, fun _ => rfl⟩

/-- A class call that gives up slab `s` and writes no header. -/
lemma releaseClass {s : Slab} (hp : Consistent ops sa₀ t p) (hi : p.ac[i]? = some c)
    (hwf : ops.wf c') (hk : ops.constants c' = ops.constants c) (hs : s ∈ ops.held c)
    (hheld : ops.held c' ~ (ops.held c).erase s) :
    Consistent ops sa₀ (s :: t) (setClass i c' p) :=
  hp.release hi hwf hk hs hheld fun _ => ⟨rfl, fun _ => rfl⟩

end Consistent

variable {kSize : Nat}

/-- A class's `allocate()` moves no slab. -/
lemma Consistent.allocateClass (hops : ops.Lawful kSize) {i : Nat} {c c' : C} {r : Option Nat}
    (hp : Consistent ops sa₀ t p) (hi : p.ac[i]? = some c) (h : ops.allocate c = (r, c')) :
    Consistent ops sa₀ t (setClass i c' p) := by
  obtain ⟨h1, h2, h3, -⟩ := hops.allocate (hp.class_wf _ _ hi) h
  exact hp.keepClass hi h1 h2 h3

lemma SlabLockedPath.ac {s : Option Slab} {q : MemoryPool C} (h : SlabLockedPath kSize p s q) :
    q.ac = p.ac := by
  cases h <;> rfl

/-- `releaseSlab` places the slab in transit. -/
lemma ReleasePath.consistent (hops : ops.Lawful kSize) {s : Slab} {receiver : Int}
    {mode : SlabReleaseMode} {q : MemoryPool C} (hp : Consistent ops sa₀ (s :: t) p)
    (h : ReleasePath ops kSize s receiver p mode q) : Consistent ops sa₀ t q := by
  cases h with
  | resize => exact hp.freeSlab.of_perm (.refl _) rfl rfl rfl rfl
  | toClass _ hj ha =>
    obtain ⟨hj, -⟩ := getAllocationClassForId_eq_ok hj
    have hs := fun hs => hp.not_mem_transit (mem_slabs_of_held hj hs) (List.mem_cons_self _ _)
    obtain ⟨h1, h2, h3, -, h5⟩ := hops.addSlab (hp.class_wf _ _ hj) hs ha
    exact (hp.add hj h1 h2 h3 h5).of_perm (.refl _) rfl rfl rfl rfl
  | toFreeSlabs _ => exact hp.pushFreeSlab.of_perm (.refl _) rfl rfl rfl rfl

/-- `getSlabLocked` with no slab moves none. -/
lemma SlabLockedPath.consistent_none {q : MemoryPool C} (hp : Consistent ops sa₀ t p)
    (h : SlabLockedPath kSize p none q) : Consistent ops sa₀ t q := by
  cases h with
  | full => exact hp
  | exhausted _ _ hm =>
    exact hp.of_perm (.refl _) (SlabAllocator.makeNewSlab_eq_none hm) rfl rfl rfl

/-- The slab `getSlabLocked` returns is in transit. -/
lemma SlabLockedPath.consistent_some {s : Slab} {q : MemoryPool C} (hp : Consistent ops sa₀ t p)
    (h : SlabLockedPath kSize p (some s) q) : Consistent ops sa₀ (s :: t) q := by
  cases h with
  | pop _ hf => exact (hp.popFreeSlab hf).of_perm (.refl _) rfl rfl rfl rfl
  | make _ _ hm => exact (hp.makeNewSlab hm).of_perm (.refl _) rfl rfl rfl rfl

/-- **Every call keeps the slabs in place.** -/
theorem Step.consistent (hops : ops.Lawful kSize) {c : PoolCall} {r : PoolReturn}
    {q : MemoryPool C} (hp : Consistent ops sa₀ [] p) (h : Step ops kSize p c r q) :
    Consistent ops sa₀ [] q := by
  cases h with
  | allocate h =>
    cases h with
    | fast hroute h1 =>
      exact (hp.allocateClass hops (getAllocationClassFor_eq_ok hroute).1 h1).of_perm (.refl _)
        rfl rfl rfl rfl
    | full hroute h1 _ => exact hp.allocateClass hops (getAllocationClassFor_eq_ok hroute).1 h1
    | retry hroute h1 _ h2 =>
      have hi := (getAllocationClassFor_eq_ok hroute).1
      exact ((hp.allocateClass hops hi h1).allocateClass hops (getElem?_setClass_self hi)
        h2).of_perm (.refl _) rfl rfl rfl rfl
    | noSlab hroute h1 _ h2 hs =>
      have hi := (getAllocationClassFor_eq_ok hroute).1
      exact hs.consistent_none
        ((hp.allocateClass hops hi h1).allocateClass hops (getElem?_setClass_self hi) h2)
    | newSlab hroute h1 _ h2 hs ha =>
      have hi := (getAllocationClassFor_eq_ok hroute).1
      have hq := hs.consistent_some
        ((hp.allocateClass hops hi h1).allocateClass hops (getElem?_setClass_self hi) h2)
      have hiq : _ = some _ := hs.ac ▸ getElem?_setClass_self (getElem?_setClass_self hi)
      have hnot := fun h => hq.not_mem_transit (mem_slabs_of_held hiq h) (List.mem_cons_self _ _)
      obtain ⟨h1, h2, h3, -, -, h6⟩ := hops.addSlabAndAllocate (hq.class_wf _ _ hiq) hnot ha
      exact (hq.add hiq h1 h2 h3 h6).of_perm (.refl _) rfl rfl rfl rfl
  | free h =>
    cases h with
    | kept hroute hf =>
      have hi := (getAllocationClassForMemory_eq_ok hroute).1
      obtain ⟨h1, h2, -, h4, -⟩ := hops.free (hp.class_wf _ _ hi) hf
      exact (hp.keepClass hi h1 h2 (h4 rfl)).of_perm (.refl _) rfl rfl rfl rfl
    | released hroute hf hr =>
      have hi := (getAllocationClassForMemory_eq_ok hroute).1
      obtain ⟨h1, h2, -, -, h5⟩ := hops.free (hp.class_wf _ _ hi) hf
      exact (hr.consistent hops (hp.releaseClass hi h1 h2 (h5 rfl).1 (h5 rfl).2)).of_perm
        (.refl _) rfl rfl rfl rfl
  | startSlabRelease h =>
    cases h with
    | fromFreeSlabs _ _ _ hf hr => exact hr.consistent hops (hp.popFreeSlab hf)
    | marked _ _ hroute hs hrel =>
      have hi := (getAllocationClassForId_eq_ok hroute).1
      obtain ⟨h1, h2, -, h4, h5, -⟩ := hops.startSlabRelease (hp.class_wf _ _ hi) hs
      exact hp.keep hi h1 h2 (h5 hrel) h4
    | released _ _ hroute hs hrel hr =>
      have hi := (getAllocationClassForId_eq_ok hroute).1
      obtain ⟨h1, h2, -, h4, -, h6⟩ := hops.startSlabRelease (hp.class_wf _ _ hi) hs
      exact hr.consistent hops (hp.release hi h1 h2 (h6 hrel).1 (h6 hrel).2.1 h4)
  | completeSlabRelease h =>
    cases h with
    | already => exact hp
    | pending _ _ hroute hs =>
      have hi := (getAllocationClassForId_eq_ok hroute).1
      obtain ⟨h1, h2, -, h4, h5, -⟩ := hops.completeSlabRelease (hp.class_wf _ _ hi) hs
      exact hp.keep hi h1 h2 (h5 rfl) h4
    | done _ _ hroute hs hr =>
      have hi := (getAllocationClassForId_eq_ok hroute).1
      obtain ⟨h1, h2, -, h4, -, h6⟩ := hops.completeSlabRelease (hp.class_wf _ _ hi) hs
      exact hr.consistent hops (hp.release hi h1 h2 (h6 rfl).1 (h6 rfl).2.1 h4)
  | abortSlabRelease h =>
    cases h with
    | abort hroute hs =>
      have hi := (getAllocationClassForId_eq_ok hroute).1
      obtain ⟨h1, h2, h3, -, h5⟩ := hops.abortSlabRelease (hp.class_wf _ _ hi) hs
      exact (hp.keep hi h1 h2 h3 h5).of_perm (.refl _) rfl rfl rfl rfl

variable {kMinAllocSize : Nat}

/-- The classes of a constructed pool hold no slab. -/
lemma Constructed.held_eq_nil (hc : Constructed ops kSize kMinAllocSize sa₀ p) :
    p.ac.flatMap ops.held = [] :=
  List.flatMap_eq_nil_iff.2 fun c hc' => by
    obtain ⟨i, hi⟩ := List.mem_iff_getElem?.1 hc'
    exact (hc.classes i c hi).2.2.1

/-- A constructed pool has no slab yet. -/
lemma Constructed.consistent (hc : Constructed ops kSize kMinAllocSize sa₀ p)
    (hsa : sa₀.WellFormed) : Consistent ops sa₀ [] p := by
  have hslabs : slabs ops p = [] := by rw [slabs, hc.freeSlabs, hc.held_eq_nil]; rfl
  have hsa' := hc.slabAllocator
  exact
  { allocator_wf := hsa' ▸ hsa
    others := fun s hs => hsa' ▸ hs
    nodup := by simp [hslabs]
    mem_iff := fun s => by simp [hslabs, hsa']
    pool_id := by simp [hslabs]
    class_wf := fun i c hi => (hc.classes i c hi).1
    constants := fun i c hi => (hc.classes i c hi).2.1
    class_id := fun i c hi s hs => by simp [(hc.classes i c hi).2.2.1] at hs }

end MemoryPool

end SlabPool
