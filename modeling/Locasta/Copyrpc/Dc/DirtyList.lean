import Mathlib.Algebra.Order.Ring.Nat
import Mathlib.Data.List.Perm.Subperm
import Locasta.Data.Chain

namespace Locasta.Copyrpc.Dc

open Data

/-! `DirtyEndpointList`: a queue without repetitions, as a list that is linked through a table. -/

def dirtyNone : Nat := 2 ^ 32 - 1

structure DirtyEndpointList where
  head : Nat
  tail : Nat
  next : List Nat
  inList : List Bool

namespace DirtyEndpointList

def new : DirtyEndpointList where
  head := dirtyNone
  tail := dirtyNone
  next := []
  inList := []

def ensureSlot (list : DirtyEndpointList) (id : Nat) : DirtyEndpointList :=
  if list.next.length ≤ id then
    { list with
      next := list.next ++ List.replicate (id + 1 - list.next.length) dirtyNone
      inList := list.inList ++ List.replicate (id + 1 - list.inList.length) false }
  else list

/-- `none` stands for an index out of bounds, here and in `popFront`. -/
def pushBack (list : DirtyEndpointList) (id : Nat) : Option DirtyEndpointList :=
  let list := list.ensureSlot id
  match list.inList[id]?, list.next[id]? with
  | some true, _ => some list
  | some false, some _ =>
    let list := { list with
      inList := list.inList.set id true
      next := list.next.set id dirtyNone }
    if list.tail = dirtyNone then some { list with head := id, tail := id }
    else if list.tail < list.next.length then
      some { list with next := list.next.set list.tail id, tail := id }
    else none
  | _, _ => none

def popFront (list : DirtyEndpointList) : Option (Option Nat × DirtyEndpointList) :=
  if list.head = dirtyNone then some (none, list)
  else
    let id := list.head
    match list.next[id]?, list.inList[id]? with
    | some head, some _ =>
      some (some id, {
        head
        tail := if head = dirtyNone then dirtyNone else list.tail
        next := list.next.set id dirtyNone
        inList := list.inList.set id false })
    | _, _ => none

def isEmpty (list : DirtyEndpointList) : Bool := list.head = dirtyNone

/-- The ids from `head` on. -/
def ids (list : DirtyEndpointList) : List Nat :=
  walk list.next dirtyNone (list.next.length + 1) list.head

/-- An id that is there already is not added. -/
def enqueueOnce (queue : List Nat) (id : Nat) : List Nat :=
  if id ∈ queue then queue else queue ++ [id]

/-- The links go through the endpoints of the queue in order, and the marks are theirs. -/
structure Represents (list : DirtyEndpointList) (queue : List Nat) : Prop where
  sameLength : list.inList.length = list.next.length
  nodup : queue.Nodup
  marked : ∀ id, list.inList[id]? = some true ↔ id ∈ queue
  chain : Chain list.next dirtyNone list.head queue
  tail : list.tail = queue.getLast?.getD dirtyNone

namespace Represents

variable {list : DirtyEndpointList} {queue : List Nat}

theorem new : Represents new [] where
  sameLength := rfl
  nodup := List.nodup_nil
  marked id := by simp [DirtyEndpointList.new]
  chain := rfl
  tail := rfl

theorem ensureSlot (represents : Represents list queue) (id : Nat) :
    Represents (list.ensureSlot id) queue := by
  unfold DirtyEndpointList.ensureSlot
  split
  · rename_i short
    have length := represents.sameLength
    exact { represents with
      sameLength := by simp [length]
      marked := fun other => by
        rw [← represents.marked other]
        by_cases inside : other < list.inList.length
        · rw [List.getElem?_append_left inside]
        · rw [List.getElem?_append_right (Nat.le_of_not_lt inside),
            List.getElem?_eq_none (Nat.le_of_not_lt inside), List.getElem?_replicate]
          split <;> simp
      chain := represents.chain.congr fun other member =>
        List.getElem?_append_left (represents.chain.lt_length other member) }
  · exact represents

theorem ensureSlot_lt (list : DirtyEndpointList) (id : Nat) :
    id < (list.ensureSlot id).next.length := by
  unfold DirtyEndpointList.ensureSlot
  split
  · simp
    omega
  · omega

variable (represents : Represents list queue)
include represents

theorem pushBack {id : Nat} (real : id ≠ dirtyNone) :
    ∃ after, list.pushBack id = some after ∧ Represents after (enqueueOnce queue id) := by
  have roomy := represents.ensureSlot id
  have inside := ensureSlot_lt list id
  unfold DirtyEndpointList.pushBack
  dsimp only
  generalize list.ensureSlot id = list at roomy inside
  have known : id < list.inList.length := by rw [roomy.sameLength]; exact inside
  rw [List.getElem?_eq_getElem inside]
  cases mark : list.inList[id] with
  | true =>
    have member := (roomy.marked id).mp (List.getElem?_eq_some_iff.mpr ⟨known, mark⟩)
    rw [List.getElem?_eq_getElem known, mark, enqueueOnce, if_pos member]
    exact ⟨list, rfl, roomy⟩
  | false =>
    have absent : id ∉ queue := by
      intro member
      have there := (roomy.marked id).mpr member
      rw [List.getElem?_eq_getElem known, mark] at there
      cases there
    have marked : ∀ other, (list.inList.set id true)[other]? = some true ↔
        other ∈ queue ++ [id] := by
      intro other
      rw [List.getElem?_set, List.mem_append, List.mem_singleton, ← roomy.marked other]
      by_cases same : id = other
      · subst same
        simp [known]
      · rw [if_neg same]
        simp [Ne.symm same]
    have nodup : (queue ++ [id]).Nodup := by
      rw [List.nodup_append]
      exact ⟨roomy.nodup, List.nodup_singleton id, by
        intro a there b last same
        rw [List.mem_singleton.mp last] at same
        exact absent (same ▸ there)⟩
    rw [List.getElem?_eq_getElem known, mark, enqueueOnce, if_neg absent]
    dsimp only
    have tail := roomy.tail
    have chain := roomy.chain.set_other absent dirtyNone
    have ends : (list.next.set id dirtyNone)[id]? = some dirtyNone := List.getElem?_set_self inside
    have lengths : (list.inList.set id true).length = (list.next.set id dirtyNone).length := by
      simpa using roomy.sameLength
    rcases List.eq_nil_or_concat queue with rfl | ⟨front, last, rfl⟩
    · have none : list.tail = dirtyNone := tail
      rw [if_pos none]
      exact ⟨_, rfl, lengths, nodup, marked, ⟨rfl, real, dirtyNone, ends, rfl⟩, rfl⟩
    · rw [List.concat_eq_append] at *
      have final : list.tail = last := by simpa using tail
      have member : last ∈ front ++ [last] := by simp
      have bound : list.tail < (list.next.set id dirtyNone).length :=
        final ▸ chain.lt_length last member
      rw [if_neg (final ▸ chain.ne_stop last member), if_pos bound, final]
      exact ⟨_, rfl, by simpa using lengths, nodup, marked,
        chain.snoc roomy.nodup absent real ends, by simp⟩

theorem popFront :
    ∃ after, list.popFront = some (queue.head?, after) ∧ Represents after queue.tail := by
  have chain := represents.chain
  unfold DirtyEndpointList.popFront
  cases queue with
  | nil =>
    have empty : list.head = dirtyNone := chain
    rw [if_pos empty]
    exact ⟨list, rfl, represents⟩
  | cons id rest =>
    obtain ⟨here, real, head, link, behind⟩ := chain
    have member : id ∈ id :: rest := List.mem_cons_self ..
    have mark := (represents.marked id).mpr member
    have known := (List.getElem?_eq_some_iff.mp mark).1
    obtain ⟨absent, nodup⟩ := List.nodup_cons.mp represents.nodup
    rw [here, if_neg real]
    dsimp only
    rw [link, mark]
    refine ⟨_, rfl, by simpa using represents.sameLength, nodup, ?_,
      behind.set_other absent dirtyNone, ?_⟩
    · intro other
      have before := represents.marked other
      rw [List.getElem?_set]
      by_cases same : id = other
      · subst same
        simp [known, absent]
      · rw [if_neg same, before]
        simp [Ne.symm same]
    · cases rest with
      | nil => exact if_pos behind
      | cons second others =>
        have more : head ≠ dirtyNone := by
          rw [behind.1]
          exact behind.2.1
        exact (if_neg more).trans (represents.tail.trans (by simp))

theorem isEmpty : list.isEmpty = queue.isEmpty := by
  have chain := represents.chain
  cases queue with
  | nil => exact decide_eq_true chain
  | cons id rest => exact decide_eq_false (chain.1 ▸ chain.2.1)

theorem length_le : queue.length ≤ list.next.length := by
  have within : queue ⊆ List.range list.next.length := fun id member =>
    List.mem_range.mpr (represents.chain.lt_length id member)
  simpa using (List.subperm_of_subset represents.nodup within).length_le

theorem ids : list.ids = queue := represents.chain.walk_eq (Nat.lt_succ_of_le represents.length_le)

end Represents

inductive Operation
  | pushBack (id : Nat)
  | popFront

namespace Operation

/-- What an operation does to the list, with what it returns: `pop_front` the id taken. -/
def apply (list : DirtyEndpointList) : Operation → Option (Option Nat × DirtyEndpointList)
  | .pushBack id => (list.pushBack id).map (none, ·)
  | .popFront => list.popFront

def enqueue (queue : List Nat) : Operation → Option Nat × List Nat
  | .pushBack id => (none, enqueueOnce queue id)
  | .popFront => (queue.head?, queue.tail)

/-- The ids that a context hands out stay below the one that means none. -/
def Valid : Operation → Prop
  | .pushBack id => id < dirtyNone
  | .popFront => True

instance : DecidablePred Valid
  | .pushBack id => inferInstanceAs (Decidable (id < dirtyNone))
  | .popFront => isTrue trivial

end Operation

/-- The answers of a run with the list it ends with; `none` if an index was out of bounds. -/
def perform : DirtyEndpointList → List Operation → Option (List (Option Nat) × DirtyEndpointList)
  | list, [] => some ([], list)
  | list, operation :: rest => do
      let (answer, list) ← operation.apply list
      let (answers, list) ← list.perform rest
      return (answer :: answers, list)

def performQueue : List Nat → List Operation → List (Option Nat) × List Nat
  | queue, [] => ([], queue)
  | queue, operation :: rest =>
    let (answer, queue) := operation.enqueue queue
    let (answers, queue) := performQueue queue rest
    (answer :: answers, queue)

namespace Represents

variable {list : DirtyEndpointList} {queue : List Nat}

theorem apply {operation : Operation} (represents : Represents list queue)
    (valid : operation.Valid) :
    ∃ after, operation.apply list = some ((operation.enqueue queue).1, after) ∧
      Represents after (operation.enqueue queue).2 := by
  cases operation with
  | pushBack id =>
    obtain ⟨after, pushed, kept⟩ := represents.pushBack (Nat.ne_of_lt valid)
    exact ⟨after, by simp [Operation.apply, Operation.enqueue, pushed], kept⟩
  | popFront => exact represents.popFront

theorem perform (represents : Represents list queue) (operations : List Operation)
    (valid : ∀ operation ∈ operations, operation.Valid) :
    ∃ after, list.perform operations = some ((performQueue queue operations).1, after) ∧
      Represents after (performQueue queue operations).2 := by
  induction operations generalizing list queue with
  | nil => exact ⟨list, rfl, represents⟩
  | cons operation rest ih =>
    obtain ⟨middle, step, kept⟩ := represents.apply (valid operation (List.mem_cons_self ..))
    obtain ⟨after, steps, final⟩ := ih kept fun later member =>
      valid later (List.mem_cons_of_mem _ member)
    refine ⟨after, ?_, final⟩
    simp [DirtyEndpointList.perform, performQueue, step, steps]

end Represents

/-- No index is out of bounds, and the list behaves as a queue that an id enters once. -/
theorem dirtyList_queue (operations : List Operation)
    (valid : ∀ operation ∈ operations, operation.Valid) :
    ∃ list, new.perform operations = some ((performQueue [] operations).1, list) ∧
      let queue := (performQueue [] operations).2
      list.ids = queue ∧ queue.Nodup ∧
      (∀ id, list.inList[id]? = some true ↔ id ∈ queue) ∧
      list.isEmpty = queue.isEmpty := by
  obtain ⟨list, performed, represents⟩ := Represents.new.perform operations valid
  exact ⟨list, performed, represents.ids, represents.nodup, represents.marked, represents.isEmpty⟩

/-- The middle one of three is pushed again while it waits, and once more after it was taken. -/
def reused : List Operation :=
  [.pushBack 2, .pushBack 0, .pushBack 2, .popFront, .pushBack 2, .popFront, .popFront, .popFront]

theorem dirtyList_queue_reused : (∀ operation ∈ reused, operation.Valid) ∧
      ∃ list, new.perform reused =
          some ([none, none, none, some 2, none, some 0, some 2, none], list) ∧
        list.ids = [] ∧ list.isEmpty = true := by
  have valid : ∀ operation ∈ reused, operation.Valid := by decide
  obtain ⟨list, performed, ids, _, _, empty⟩ := dirtyList_queue reused valid
  exact ⟨valid, list, performed, ids, empty⟩

end DirtyEndpointList

end Locasta.Copyrpc.Dc
