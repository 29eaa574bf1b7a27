import Mathlib.Logic.Function.Basic
import Mathlib.Data.List.Nodup

/-!
# `MemoryFreeList`, the free list of `AllocationClass`

`AllocationClass.h` keeps the class's freed allocations on a `MemoryFreeList`: a list of
`MemoryAllocInfo_` nodes linked through their `prev` and `next` pointers, with a `head` and a
`tail`.  The model keeps the pointers as addresses (`0` is `nullptr`) into a node memory, and
writes each assignment of the source as one update of that memory, in the source's order.

`push_front` appends at the tail, as its comment says; `pop_front` advances `head` and leaves
`tail` and the new head's `prev` as they were.  `Represents l nodes q` reads the list as the
queue `q`: following `next` from `head` visits `q` in order and reaches `nullptr`, no node twice,
and `tail` is the last node of `q`.  Every `push_front` of a node that is not queued and every
`pop_front` keeps that reading, so from the constructed list every such sequence of operations
refines a FIFO queue (`memoryFreeList_refines_queue`); the stale `tail` left behind by a
`pop_front` of the last node is never read, because `push_front` tests `head` first.

`release` does not unlink its node: on any node but the head it assigns `prev` and `next` of
the node itself and leaves every other link as it was (`release_of_ne_head`), and on the
head it drops the whole list (`release_head`).
-/

namespace SlabPool

/-- The links of a `MemoryAllocInfo_` node, the only fields `MemoryFreeList` reads or writes. -/
structure MemoryAllocInfo where
  prev : Nat := 0
  next : Nat := 0
deriving DecidableEq, Repr

/-- The memory the list's pointers point into, by address; `0` is `nullptr`. -/
abbrev NodeMemory := Nat → MemoryAllocInfo

/-- `MemoryFreeList`; the constructor sets both pointers to `nullptr`. -/
structure MemoryFreeList where
  head : Nat := 0
  tail : Nat := 0
deriving DecidableEq, Repr

namespace MemoryFreeList

/-- `p->next = v`. -/
def setNext (nodes : NodeMemory) (p v : Nat) : NodeMemory :=
  Function.update nodes p { nodes p with next := v }

/-- `p->prev = v`. -/
def setPrev (nodes : NodeMemory) (p v : Nat) : NodeMemory :=
  Function.update nodes p { nodes p with prev := v }

@[simp] lemma setNext_next (nodes : NodeMemory) (p v x : Nat) :
    (setNext nodes p v x).next = if x = p then v else (nodes x).next := by
  by_cases h : x = p <;> simp [setNext, Function.update_apply, h]

@[simp] lemma setNext_prev (nodes : NodeMemory) (p v x : Nat) :
    (setNext nodes p v x).prev = (nodes x).prev := by
  by_cases h : x = p <;> simp [setNext, Function.update_apply, h]

@[simp] lemma setPrev_next (nodes : NodeMemory) (p v x : Nat) :
    (setPrev nodes p v x).next = (nodes x).next := by
  by_cases h : x = p <;> simp [setPrev, Function.update_apply, h]

@[simp] lemma setPrev_prev (nodes : NodeMemory) (p v x : Nat) :
    (setPrev nodes p v x).prev = if x = p then v else (nodes x).prev := by
  by_cases h : x = p <;> simp [setPrev, Function.update_apply, h]

/-- `release(mem)`. -/
def release (l : MemoryFreeList) (nodes : NodeMemory) (mem : Nat) :
    MemoryFreeList × NodeMemory :=
  if l.head = mem then ({ l with head := 0 }, nodes)
  else
    let nodes := if (nodes mem).prev ≠ 0 then setPrev nodes mem (nodes mem).next else nodes
    let nodes := if (nodes mem).next ≠ 0 then setNext nodes mem (nodes mem).prev else nodes
    (l, nodes)

/-- `push_front(mem)`, which appends `mem` at the tail. -/
def pushFront (l : MemoryFreeList) (nodes : NodeMemory) (mem : Nat) :
    MemoryFreeList × NodeMemory :=
  let nodes := setPrev (setNext nodes mem 0) mem 0
  if l.head = 0 then ({ head := mem, tail := mem }, nodes)
  else (
    { l with tail := mem }, setPrev (setNext nodes l.tail mem) mem l.tail)

/-- `empty()`. -/
def empty (l : MemoryFreeList) : Bool := l.head == 0

/-- `front()`. -/
def front (l : MemoryFreeList) : Nat := l.head

/-- `pop_front()`. -/
def popFront (l : MemoryFreeList) (nodes : NodeMemory) : MemoryFreeList :=
  if l.head ≠ 0 then { l with head := (nodes l.head).next } else l

/-! ## Reading the list as a queue -/

/-- Following `next` from `p` visits exactly the nodes `q`, in order, then reaches `nullptr`. -/
def Chain (nodes : NodeMemory) : Nat → List Nat → Prop
  | p, [] => p = 0
  | p, x :: xs => p = x ∧ x ≠ 0 ∧ Chain nodes (nodes x).next xs

instance Chain.decidable (nodes : NodeMemory) : ∀ p q, Decidable (Chain nodes p q)
  | p, [] => inferInstanceAs (Decidable (p = 0))
  | p, x :: xs =>
    have := Chain.decidable nodes (nodes x).next xs
    inferInstanceAs (Decidable (p = x ∧ x ≠ 0 ∧ Chain nodes (nodes x).next xs))

/-- The list stands for the queue `q`. -/
structure Represents (l : MemoryFreeList) (nodes : NodeMemory) (q : List Nat) : Prop where
  chain : Chain nodes l.head q
  nodup : q.Nodup
  tail_last : ∀ t, q.getLast? = some t → l.tail = t

lemma Chain.head_eq_zero_iff {nodes : NodeMemory} {p : Nat} :
    ∀ {q : List Nat}, Chain nodes p q → (p = 0 ↔ q = [])
  | [], h => by simpa [Chain] using h
  | _ :: _, ⟨hp, hx, _⟩ => by simp [hp, hx]

/-- A chain reads only the `next` links of its own nodes. -/
lemma Chain.congr {nodes nodes' : NodeMemory} :
    ∀ {p : Nat} {q : List Nat}, (∀ x ∈ q, (nodes' x).next = (nodes x).next) →
      (Chain nodes' p q ↔ Chain nodes p q)
  | _, [], _ => Iff.rfl
  | _, x :: xs, h => by
    simp only [Chain, h x (List.mem_cons_self _ _),
      Chain.congr (fun y hy => h y (List.mem_cons_of_mem _ hy))]

/-- Linking `m` behind the last node `t` of a chain extends the chain by `m`. -/
lemma Chain.snoc {nodes nodes' : NodeMemory} {m t : Nat} (hm : m ≠ 0)
    (hmt : (nodes' t).next = m) (hm0 : (nodes' m).next = 0) :
    ∀ {p : Nat} {q : List Nat}, Chain nodes p q → q.Nodup → q.getLast? = some t →
      (∀ x ∈ q, x ≠ t → (nodes' x).next = (nodes x).next) → Chain nodes' p (q ++ [m])
  | _, [], _, _, ht, _ => by simp at ht
  | _, [x], ⟨hp, hx, _⟩, _, ht, _ => by
    simp only [List.getLast?_singleton, Option.some.injEq] at ht
    subst ht
    simp [Chain, hp, hx, hmt, hm, hm0]
  | _, x :: y :: ys, ⟨hp, hx, hc⟩, hnd, ht, hfr => by
    have hxt : x ≠ t := by
      rintro rfl
      rw [List.getLast?_cons_cons] at ht
      exact (List.nodup_cons.1 hnd).1 (List.mem_of_getLast?_eq_some ht)
    refine ⟨hp, hx, ?_⟩
    rw [hfr x (List.mem_cons_self _ _) hxt]
    exact Chain.snoc hm hmt hm0 hc (List.nodup_cons.1 hnd).2
      (by rwa [List.getLast?_cons_cons] at ht) (fun z hz => hfr z (List.mem_cons_of_mem _ hz))

/-! ## Every operation keeps the reading -/

/-- The constructed list is the empty queue, whatever the node memory holds. -/
lemma represents_init (nodes : NodeMemory) : Represents {} nodes [] :=
  ⟨rfl, List.nodup_nil, by simp⟩

lemma Represents.front_eq {l : MemoryFreeList} {nodes : NodeMemory} {q : List Nat}
    (h : Represents l nodes q) : l.front = q.headD 0 := by
  cases q with
  | nil => exact h.chain
  | cons x xs => exact h.chain.1

lemma Represents.empty_iff {l : MemoryFreeList} {nodes : NodeMemory} {q : List Nat}
    (h : Represents l nodes q) : l.empty = true ↔ q = [] := by
  simpa [empty] using h.chain.head_eq_zero_iff

/-- **push_front.** Pushing a node that is not queued appends it to the queue. -/
lemma Represents.pushFront {l : MemoryFreeList} {nodes : NodeMemory} {q : List Nat}
    (h : Represents l nodes q) {m : Nat} (hm : m ≠ 0) (hmq : m ∉ q) :
    Represents (l.pushFront nodes m).1 (l.pushFront nodes m).2 (q ++ [m]) := by
  have hnd : (q ++ [m]).Nodup := List.nodup_append.2 ⟨h.nodup, List.nodup_singleton m,
    List.disjoint_singleton.2 hmq⟩
  by_cases hq : q = []
  · subst hq
    have h0 : l.head = 0 := h.chain
    exact ⟨by simp [MemoryFreeList.pushFront, h0, Chain, hm], hnd, by simp [MemoryFreeList.pushFront, h0]⟩
  · obtain ⟨t, ht⟩ := Option.ne_none_iff_exists'.1 (mt List.getLast?_eq_none_iff.1 hq)
    have htm : t ≠ m := fun e => hmq (e ▸ List.mem_of_getLast?_eq_some ht)
    have h0 : l.head ≠ 0 := fun e => hq ((h.chain.head_eq_zero_iff).1 e)
    refine ⟨?_, hnd, fun t' ht' => ?_⟩
    · simp only [MemoryFreeList.pushFront, h0, if_false, h.tail_last t ht]
      refine Chain.snoc hm (by simp [htm]) (by simp [htm.symm]) h.chain h.nodup ht ?_
      intro x hx hxt
      have hxm : x ≠ m := fun e => hmq (e ▸ hx)
      simp [hxt, hxm]
    · simp only [List.getLast?_append, List.getLast?_singleton, Option.or_some,
        Option.some.injEq] at ht'
      simp [MemoryFreeList.pushFront, h0, ht']

/-- **pop_front.** Popping drops the first node of the queue, and nothing when it is empty. -/
lemma Represents.popFront {l : MemoryFreeList} {nodes : NodeMemory} {q : List Nat}
    (h : Represents l nodes q) : Represents (l.popFront nodes) nodes q.tail := by
  cases q with
  | nil =>
    have h0 : l.head = 0 := h.chain
    simpa [MemoryFreeList.popFront, h0] using h
  | cons x xs =>
    obtain ⟨hp, hx, hc⟩ := h.chain
    refine ⟨by simpa [MemoryFreeList.popFront, hp, hx] using hc, (List.nodup_cons.1 h.nodup).2,
      fun t ht => ?_⟩
    have hne : xs ≠ [] := by rintro rfl; simp at ht
    simpa [MemoryFreeList.popFront, hp, hx] using h.tail_last t (by simp_all [List.getLast?_cons])


/-! ## Runs of `push_front` and `pop_front` -/

/-- The operations of a run on the list. -/
inductive Op
  | pushFront (m : Nat)
  | popFront
deriving DecidableEq, Repr

/-- One operation on the list and its node memory. -/
def Op.apply : Op → MemoryFreeList × NodeMemory → MemoryFreeList × NodeMemory
  | .pushFront m, (l, nodes) => l.pushFront nodes m
  | .popFront, (l, nodes) => (l.popFront nodes, nodes)

/-- The same operation on a FIFO queue: push at the back, pop at the front. -/
def Op.queue : Op → List Nat → List Nat
  | .pushFront m, q => q ++ [m]
  | .popFront, q => q.tail

/-- Every push of the run is of a node, not `nullptr`, that is not queued at that point. -/
def Admissible : List Nat → List Op → Prop
  | _, [] => True
  | q, .pushFront m :: ops => m ≠ 0 ∧ m ∉ q ∧ Admissible (q ++ [m]) ops
  | q, .popFront :: ops => Admissible q.tail ops

instance Admissible.decidable : ∀ q ops, Decidable (Admissible q ops)
  | _, [] => inferInstanceAs (Decidable True)
  | q, .pushFront m :: ops =>
    have := Admissible.decidable (q ++ [m]) ops
    inferInstanceAs (Decidable (m ≠ 0 ∧ m ∉ q ∧ Admissible (q ++ [m]) ops))
  | q, .popFront :: ops =>
    have := Admissible.decidable q.tail ops
    inferInstanceAs (Decidable (Admissible q.tail ops))

/-- Run the operations in order. -/
def run (s : MemoryFreeList × NodeMemory) (ops : List Op) : MemoryFreeList × NodeMemory :=
  ops.foldl (fun s op => op.apply s) s

/-- Run the operations on the queue. -/
def queueRun (q : List Nat) (ops : List Op) : List Nat :=
  ops.foldl (fun q op => op.queue q) q

/-- A whole admissible run keeps the reading, from any state that has it. -/
lemma Represents.run :
    ∀ {s : MemoryFreeList × NodeMemory} {q : List Nat} (ops : List Op), Represents s.1 s.2 q →
      Admissible q ops → Represents (run s ops).1 (run s ops).2 (queueRun q ops)
  | _, _, [], h, _ => h
  | _, _, .pushFront _ :: ops, h, ⟨hm, hmq, hops⟩ => Represents.run ops (h.pushFront hm hmq) hops
  | _, _, .popFront :: ops, h, hops => Represents.run ops h.popFront hops

/-- From the constructed list, every sequence of `push_front`s of unqueued nodes and
`pop_front`s refines a FIFO queue: the list's chain is the queue, `front()` is its first node
and `empty()` says whether it is empty. -/
theorem memoryFreeList_refines_queue (nodes : NodeMemory) (ops : List Op)
    (h : Admissible [] ops) :
    Represents (run ({}, nodes) ops).1 (run ({}, nodes) ops).2 (queueRun [] ops) ∧
    (run ({}, nodes) ops).1.front = (queueRun [] ops).headD 0 ∧
    ((run ({}, nodes) ops).1.empty = true ↔ queueRun [] ops = []) :=
  have hr := (represents_init nodes).run (s := ({}, nodes)) ops h
  ⟨hr, hr.front_eq, hr.empty_iff⟩

/-- Pushing two nodes, popping one and pushing the popped one back. -/
theorem memoryFreeList_refines_queue_requeue :
    Admissible [] [.pushFront 1, .pushFront 2, .popFront, .pushFront 1] ∧
    Represents (run ({}, fun _ => {}) [.pushFront 1, .pushFront 2, .popFront, .pushFront 1]).1
      (run ({}, fun _ => {}) [.pushFront 1, .pushFront 2, .popFront, .pushFront 1]).2 [2, 1] :=
  ⟨by decide, (memoryFreeList_refines_queue _ _ (by decide)).1⟩

/-! ## `release` -/

/-- `release` of the head drops the whole list. -/
lemma release_head (l : MemoryFreeList) (nodes : NodeMemory) :
    (l.release nodes l.head).1.head = 0 := by
  simp [release]

/-- `release` of any other node keeps `head` and `tail` and writes no node but itself. -/
lemma release_of_ne_head {l : MemoryFreeList} {mem : Nat} (nodes : NodeMemory)
    (h : l.head ≠ mem) : (l.release nodes mem).1 = l ∧
      ∀ x, x ≠ mem → (l.release nodes mem).2 x = nodes x := by
  refine ⟨by simp [release, h], fun x hx => ?_⟩
  simp only [release, h, if_false]
  split_ifs <;> simp [setNext, setPrev, Function.update_apply, hx]

/-- After pushing nodes `1` and `2`, `release(2)` leaves `2` linked behind `1`, and
`release(1)` empties the list although `2` was queued. -/
theorem release_keeps_or_drops_nodes :
    Chain ((run ({}, fun _ => {}) [.pushFront 1, .pushFront 2]).1.release
        (run ({}, fun _ => {}) [.pushFront 1, .pushFront 2]).2 2).2
      ((run ({}, fun _ => {}) [.pushFront 1, .pushFront 2]).1.release
        (run ({}, fun _ => {}) [.pushFront 1, .pushFront 2]).2 2).1.head [1, 2] ∧
    ((run ({}, fun _ => {}) [.pushFront 1, .pushFront 2]).1.release
        (run ({}, fun _ => {}) [.pushFront 1, .pushFront 2]).2 1).1.empty = true := by
  decide

end MemoryFreeList

end SlabPool
