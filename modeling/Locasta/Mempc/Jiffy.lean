import Locasta.Data.Queue
import Mathlib.Algebra.Order.Ring.Nat
import Mathlib.Data.List.Basic
import Mathlib.Logic.Function.Basic

namespace Locasta.Mempc

open Data Function

/-! `JiffyMpsc`: the request queue is a list of buffers that grows at its end.

A producer takes a position from `tail`, looks for its buffer from a hint on, and links new buffers
where the list ends. Buffers are numbered in the order in which they were linked; one that lost the
race for `next` has no number. Neither side is dropped.
-/

namespace Jiffy

inductive SlotState where
  | empty
  | set
  | handled
deriving DecidableEq

structure JiffySlot (Req : Type) where
  state : SlotState
  callerId : Nat
  callerToken : Nat
  data : Option Req

def JiffySlot.new (Req : Type) : JiffySlot Req :=
  ⟨.empty, 0, 0, none⟩

structure JiffyBuffer (Req : Type) where
  slots : Nat → JiffySlot Req
  next : Option Nat
  startIndex : Nat
  capacity : Nat

def JiffyBuffer.new (Req : Type) (startIndex capacity : Nat) : JiffyBuffer Req where
  slots _ := .new Req
  next := none
  startIndex
  capacity

/-- `JiffyQueue` and `JiffyConsumer`. The buffer 0 is the queue's `head_buffer`. -/
structure JiffyQueue (Req : Type) where
  tail : Nat
  tailBuffer : Nat
  buffers : Nat → JiffyBuffer Req
  /-- How many buffers were linked. -/
  linked : Nat
  /-- The consumer's part. -/
  readPos : Nat
  headBuffer : Nat
  bufferCapacity : Nat
  /-- Auxiliary: who took the positions, and for which token and request. -/
  tickets : List (Nat × Nat × Req)

/-- The next access of `enqueue`. Those with a buffer are in or behind `find_or_create_buffer`. -/
inductive Enqueue where
  | claim
  | loadTailBuffer (pos : Nat)
  /-- `next`, or the hint once the buffer is found -/
  | search (pos current : Nat)
  | linkNext (pos current : Nat)
  | advanceTail (pos current oldTail : Nat)
  | writeCallerId (pos current : Nat)
  | writeToken (pos current : Nat)
  | writeData (pos current : Nat)
  | publish (pos current : Nat)
  | loadNext (pos current : Nat)
  | preallocate (pos current : Nat)

inductive Dequeue (Req : Type) where
  | start
  | readCallerId
  | readToken (callerId : Nat)
  | readData (callerId token : Nat)
  | markHandled (callerId token : Nat) (data : Req)
  | startCount
  | count (pos buffer number : Nat)

inductive Query where
  | tryDequeue
  | countAvailable

namespace JiffyQueue

variable {Req : Type}

def new (Req : Type) (ringDepth : Nat) : JiffyQueue Req where
  tail := 0
  tailBuffer := 0
  buffers _ := .new Req 0 ringDepth
  linked := 1
  readPos := 0
  headBuffer := 0
  bufferCapacity := ringDepth
  tickets := []

def setSlot (queue : JiffyQueue Req) (buffer idx : Nat) (slot : JiffySlot Req) : JiffyQueue Req :=
  { queue with
    buffers := update queue.buffers buffer
      { queue.buffers buffer with slots := update (queue.buffers buffer).slots idx slot } }

/-- The buffer behind `current`, which is a new one if there was none. -/
def linkNext (queue : JiffyQueue Req) (current : Nat) : Nat × JiffyQueue Req :=
  match (queue.buffers current).next with
  | some existing => (existing, queue)
  | none =>
    let buf := queue.buffers current
    let newBuf := JiffyBuffer.new Req (buf.startIndex + buf.capacity) buf.capacity
    (queue.linked,
      { queue with
        buffers := update (update queue.buffers queue.linked newBuf) current
          { buf with next := some queue.linked }
        linked := queue.linked + 1 })

def enqueue (callerId : Nat) (item : Nat × Req) (pc : Enqueue) (queue : JiffyQueue Req) :
    Progress Enqueue Bool × JiffyQueue Req :=
  match pc with
  | .claim =>
    (.more (.loadTailBuffer queue.tail),
      { queue with tail := queue.tail + 1, tickets := queue.tickets ++ [(callerId, item)] })
  | .loadTailBuffer pos =>
    let current := queue.tailBuffer
    (.more (.search pos (if pos < (queue.buffers current).startIndex then 0 else current)), queue)
  | .search pos current =>
    let buf := queue.buffers current
    if buf.startIndex ≤ pos ∧ pos < buf.startIndex + buf.capacity then
      let oldTail := queue.tailBuffer
      if (queue.buffers oldTail).startIndex < buf.startIndex then
        (.more (.advanceTail pos current oldTail), queue)
      else (.more (.writeCallerId pos current), queue)
    else
      match buf.next with
      | some next => (.more (.search pos next), queue)
      | none => (.more (.linkNext pos current), queue)
  | .linkNext pos current =>
    let (next, queue) := queue.linkNext current
    (.more (.search pos next), queue)
  | .advanceTail pos current oldTail =>
    (.more (.writeCallerId pos current),
      if queue.tailBuffer = oldTail then { queue with tailBuffer := current } else queue)
  | .writeCallerId pos current =>
    let idx := pos - (queue.buffers current).startIndex
    let slot := (queue.buffers current).slots idx
    (.more (.writeToken pos current),
      queue.setSlot current idx { slot with callerId := callerId % 2 ^ 16 })
  | .writeToken pos current =>
    let idx := pos - (queue.buffers current).startIndex
    let slot := (queue.buffers current).slots idx
    (.more (.writeData pos current), queue.setSlot current idx { slot with callerToken := item.1 })
  | .writeData pos current =>
    let idx := pos - (queue.buffers current).startIndex
    let slot := (queue.buffers current).slots idx
    (.more (.publish pos current), queue.setSlot current idx { slot with data := some item.2 })
  | .publish pos current =>
    let idx := pos - (queue.buffers current).startIndex
    let slot := (queue.buffers current).slots idx
    let queue := queue.setSlot current idx { slot with state := .set }
    if idx = 1 then (.more (.loadNext pos current), queue) else (.done true, queue)
  | .loadNext pos current =>
    if (queue.buffers current).next.isNone then (.more (.preallocate pos current), queue)
    else (.done true, queue)
  | .preallocate _ current => (.done true, (queue.linkNext current).2)

/-- One turn of the loop of `count_available`. -/
def countFrom (queue : JiffyQueue Req) (pos buffer number : Nat) :
    Progress (Dequeue Req) (Answer (Nat × Req)) × JiffyQueue Req :=
  let buf := queue.buffers buffer
  let idx := pos - buf.startIndex
  if idx ≥ queue.bufferCapacity then
    match buf.next with
    | none => (.done (.count number), queue)
    | some next => (.more (.count pos next number), queue)
  else if (buf.slots idx).state = .set then
    (.more (.count (pos + 1) buffer ((number + 1) % 2 ^ 32)), queue)
  else (.done (.count number), queue)

/-- `try_dequeue`, which calls itself at the end of a buffer. -/
def dequeue (pc : Dequeue Req) (queue : JiffyQueue Req) :
    Progress (Dequeue Req) (Answer (Nat × Req)) × JiffyQueue Req :=
  let buf := queue.buffers queue.headBuffer
  let idx := queue.readPos - buf.startIndex
  let slot := buf.slots idx
  match pc with
  | .start =>
    if idx ≥ queue.bufferCapacity then
      match buf.next with
      | none => (.done .empty, queue)
      | some next => (.more .start, { queue with headBuffer := next })
    else if slot.state = .set then (.more .readCallerId, queue)
    else (.done .empty, queue)
  | .readCallerId => (.more (.readToken slot.callerId), queue)
  | .readToken callerId => (.more (.readData callerId slot.callerToken), queue)
  | .readData callerId token =>
    match slot.data with
    | none => (.done .empty, queue)
    | some data => (.more (.markHandled callerId token data), queue)
  | .markHandled callerId token data =>
    (.done (.item callerId (token, data)),
      { queue.setSlot queue.headBuffer idx { slot with state := .handled } with
        readPos := queue.readPos + 1 })
  | .startCount => queue.countFrom queue.readPos queue.headBuffer 0
  | .count pos buffer number => queue.countFrom pos buffer number

/-- The start indices of the buffers from one on, along `next`. -/
def starts (queue : JiffyQueue Req) : Nat → Nat → List Nat
  | 0, _ => []
  | fuel + 1, buffer =>
    (queue.buffers buffer).startIndex ::
      match (queue.buffers buffer).next with
      | none => []
      | some next => queue.starts fuel next

end JiffyQueue

@[reducible] def code (Req : Type) : QueueCode (Nat × Req) where
  Shared := JiffyQueue Req
  Push := Enqueue
  Pop := Dequeue Req
  Query := Query
  startPush := .claim
  push := JiffyQueue.enqueue
  startPop
    | .tryDequeue => .start
    | .countAvailable => .startCount
  pop := JiffyQueue.dequeue

def Enqueue.ticket : Enqueue → Option Nat
  | .claim => none
  | .loadTailBuffer pos | .search pos _ | .linkNext pos _ | .advanceTail pos _ _
  | .writeCallerId pos _ | .writeToken pos _ | .writeData pos _ | .publish pos _
  | .loadNext pos _ | .preallocate pos _ => some pos

def Enqueue.unpublished : Enqueue → Option Nat
  | .claim | .loadNext .. | .preallocate .. => none
  | .loadTailBuffer pos | .search pos _ | .linkNext pos _ | .advanceTail pos _ _
  | .writeCallerId pos _ | .writeToken pos _ | .writeData pos _ | .publish pos _ => some pos

variable {Req : Type}

namespace JiffyQueue

/-- The buffers are linked one behind the other, each with its part of the positions. -/
structure Chained (queue : JiffyQueue Req) (depth : Nat) : Prop where
  bufferCapacity : queue.bufferCapacity = depth
  capacity : ∀ buffer < queue.linked, (queue.buffers buffer).capacity = depth
  start : ∀ buffer < queue.linked, (queue.buffers buffer).startIndex = buffer * depth
  next : ∀ buffer < queue.linked, (queue.buffers buffer).next =
    if buffer + 1 < queue.linked then some (buffer + 1) else none
  unlinked : ∀ buffer, queue.linked ≤ buffer → (queue.buffers buffer).slots = fun _ => .new Req
  tailBuffer : queue.tailBuffer < queue.linked
  headBuffer : queue.headBuffer < queue.linked

def slotAt (queue : JiffyQueue Req) (depth pos : Nat) : JiffySlot Req :=
  (queue.buffers (pos / depth)).slots (pos % depth)

def Holds (depth buffer pos : Nat) : Prop :=
  buffer * depth ≤ pos ∧ pos < buffer * depth + depth

/-- A step of a producer, which wrote at most the slot of `place`. -/
structure Follows (depth : Nat) (place : Option Nat) (queue after : JiffyQueue Req) : Prop where
  linked : queue.linked ≤ after.linked
  tickets : queue.tickets <+: after.tickets
  readPos : after.readPos = queue.readPos
  headBuffer : after.headBuffer = queue.headBuffer
  slot : ∀ pos, place ≠ some pos → after.slotAt depth pos = queue.slotAt depth pos

variable {queue after : JiffyQueue Req} {depth : Nat}

theorem Follows.refl (place : Option Nat) : Follows depth place queue queue :=
  ⟨Nat.le_refl _, List.prefix_refl _, rfl, rfl, fun _ _ => rfl⟩

theorem Holds.place {buffer pos : Nat} (holds : Holds depth buffer pos) :
    pos / depth = buffer ∧ pos % depth = pos - buffer * depth := by
  obtain ⟨low, high⟩ := holds
  have quotient : pos / depth = buffer := by
    rw [Nat.div_eq_iff (by omega)]
    omega
  have whole := Nat.div_add_mod pos depth
  rw [quotient, Nat.mul_comm] at whole
  exact ⟨quotient, by omega⟩

theorem place_injective {pos other : Nat} (buffer : pos / depth = other / depth)
    (idx : pos % depth = other % depth) : pos = other := by
  rw [← Nat.div_add_mod pos depth, ← Nat.div_add_mod other depth, buffer, idx]

theorem setSlot_slots_self {buffer idx : Nat} {slot : JiffySlot Req} :
    ((queue.setSlot buffer idx slot).buffers buffer).slots =
      update (queue.buffers buffer).slots idx slot := by
  simp [setSlot]

theorem setSlot_slots_of_ne {buffer other idx : Nat} {slot : JiffySlot Req} (apart : other ≠ buffer) :
    ((queue.setSlot buffer idx slot).buffers other).slots = (queue.buffers other).slots := by
  simp [setSlot, apart]

theorem setSlot_fields (queue : JiffyQueue Req) (buffer idx : Nat) (slot : JiffySlot Req)
    (other : Nat) :
    ((queue.setSlot buffer idx slot).buffers other).capacity = (queue.buffers other).capacity ∧
      ((queue.setSlot buffer idx slot).buffers other).startIndex = (queue.buffers other).startIndex ∧
      ((queue.setSlot buffer idx slot).buffers other).next = (queue.buffers other).next := by
  by_cases same : other = buffer
  · subst same
    simp [setSlot]
  · simp [setSlot, same]

namespace Chained

theorem new (Req : Type) (depth : Nat) : Chained (new Req depth) depth where
  bufferCapacity := rfl
  capacity _ _ := rfl
  start buffer inside := by
    rw [Nat.lt_one_iff.mp inside, Nat.zero_mul]
    rfl
  next buffer inside := by
    rw [Nat.lt_one_iff.mp inside]
    rfl
  unlinked _ _ := rfl
  tailBuffer := Nat.one_pos
  headBuffer := Nat.one_pos

variable (chained : Chained queue depth)
include chained

section

variable {buffer pos : Nat} (inside : buffer < queue.linked) (holds : Holds depth buffer pos)
include inside holds

theorem slots :
    (queue.buffers buffer).slots (pos - (queue.buffers buffer).startIndex) =
      queue.slotAt depth pos := by
  unfold slotAt
  rw [holds.place.1, holds.place.2, chained.start buffer inside]

theorem slotAt_setSlot (slot : JiffySlot Req) :
    (queue.setSlot buffer (pos - (queue.buffers buffer).startIndex) slot).slotAt depth =
      update (queue.slotAt depth) pos slot := by
  funext other
  rw [chained.start buffer inside, ← holds.place.2]
  unfold slotAt
  by_cases same : other / depth = buffer
  · rw [same, setSlot_slots_self]
    by_cases idx : other % depth = pos % depth
    · rw [place_injective (same.trans holds.place.1.symm) idx, update_self,
        update_self]
    · rw [update_of_ne idx, update_of_ne (fun equal => idx (by rw [equal])), same]
  · rw [setSlot_slots_of_ne same, update_of_ne]
    rintro rfl
    exact same holds.place.1

end

theorem setSlot {buffer : Nat} (inside : buffer < queue.linked)
    (idx : Nat) (slot : JiffySlot Req) : Chained (queue.setSlot buffer idx slot) depth where
  bufferCapacity := chained.bufferCapacity
  capacity other known := by
    rw [(setSlot_fields queue buffer idx slot other).1]
    exact chained.capacity other known
  start other known := by
    rw [(setSlot_fields queue buffer idx slot other).2.1]
    exact chained.start other known
  next other known := by
    rw [(setSlot_fields queue buffer idx slot other).2.2]
    exact chained.next other known
  unlinked other beyond := by
    rw [setSlot_slots_of_ne (Nat.ne_of_gt (Nat.lt_of_lt_of_le inside beyond))]
    exact chained.unlinked other beyond
  tailBuffer := chained.tailBuffer
  headBuffer := chained.headBuffer

theorem link {current : Nat} (last : current + 1 = queue.linked) :
    let buf := queue.buffers current
    let newBuf := JiffyBuffer.new Req (buf.startIndex + buf.capacity) buf.capacity
    let after := { queue with
      buffers := update (update queue.buffers queue.linked newBuf) current
        { buf with next := some queue.linked }
      linked := queue.linked + 1 }
    Chained after depth ∧ ∀ buffer, (after.buffers buffer).slots = (queue.buffers buffer).slots := by
  intro buf newBuf after
  have inside : current < queue.linked := by omega
  have mine : after.buffers current = { buf with next := some queue.linked } :=
    update_self ..
  have linked : after.buffers queue.linked = newBuf :=
    (update_of_ne (by omega) ..).trans (update_self ..)
  have others : ∀ buffer, buffer ≠ current → buffer ≠ queue.linked →
      after.buffers buffer = queue.buffers buffer := fun _ here there =>
    (update_of_ne here ..).trans (update_of_ne there ..)
  have fields : ∀ buffer, buffer < after.linked →
      (after.buffers buffer).capacity = depth ∧ (after.buffers buffer).startIndex = buffer * depth ∧
        (after.buffers buffer).next =
          if buffer + 1 < after.linked then some (buffer + 1) else none := by
    intro buffer known
    have known : buffer < queue.linked + 1 := known
    change _ ∧ _ ∧ _ = if buffer + 1 < queue.linked + 1 then _ else _
    by_cases here : buffer = current
    · subst here
      rw [mine, if_pos (by omega), last]
      exact ⟨chained.capacity buffer inside, chained.start buffer inside, rfl⟩
    · by_cases there : buffer = queue.linked
      · subst there
        rw [linked, if_neg (by omega)]
        refine ⟨chained.capacity current inside, ?_, rfl⟩
        calc
          buf.startIndex + buf.capacity = current * depth + depth := by
            rw [chained.start current inside, chained.capacity current inside]
          _ = queue.linked * depth := by rw [← Nat.succ_mul, ← last]
      · rw [others buffer here there, if_pos (by omega)]
        have before := chained.next buffer (by omega)
        rw [if_pos (by omega)] at before
        exact ⟨chained.capacity buffer (by omega), chained.start buffer (by omega), before⟩
  have slots : ∀ buffer, (after.buffers buffer).slots = (queue.buffers buffer).slots := by
    intro buffer
    by_cases here : buffer = current
    · rw [here, mine]
    · by_cases there : buffer = queue.linked
      · rw [there, linked, chained.unlinked _ (Nat.le_refl _)]
        rfl
      · rw [others buffer here there]
  refine ⟨?_, slots⟩
  exact { chained with
    capacity := fun buffer known => (fields buffer known).1
    start := fun buffer known => (fields buffer known).2.1
    next := fun buffer known => (fields buffer known).2.2
    unlinked := fun buffer beyond => by
      rw [slots]
      exact chained.unlinked buffer (Nat.le_of_succ_le beyond)
    tailBuffer := Nat.lt_succ_of_lt chained.tailBuffer
    headBuffer := Nat.lt_succ_of_lt chained.headBuffer }

theorem linkNext {current : Nat} (inside : current < queue.linked)
    {next : Nat} (linking : queue.linkNext current = (next, after)) :
    next = current + 1 ∧ next < after.linked ∧ Chained after depth ∧
      Follows depth none queue after ∧ after.tickets = queue.tickets ∧ after.tail = queue.tail := by
  have there := chained.next current inside
  unfold JiffyQueue.linkNext at linking
  cases found : (queue.buffers current).next with
  | some existing =>
    rw [found] at there linking
    cases linking
    split at there
    · rename_i more
      obtain rfl := Option.some.inj there
      exact ⟨rfl, more, chained, .refl _, rfl, rfl⟩
    · cases there
  | none =>
    rw [found] at there linking
    cases linking
    split at there
    · cases there
    · have last : current + 1 = queue.linked := by omega
      obtain ⟨longer, slots⟩ := chained.link last
      refine ⟨last.symm, Nat.lt_succ_self _, longer, ?_, rfl, rfl⟩
      refine ⟨Nat.le_succ _, List.prefix_refl _, rfl, rfl, ?_⟩
      intro pos _
      exact congrFun (slots _) _

end Chained

/-- The positions from `readPos` on; `waiting` are those taken and not published. -/
structure Kept (depth : Nat) (queue : JiffyQueue Req) (waiting : Nat → Option Nat) : Prop where
  chained : queue.Chained depth
  tail : queue.tail = queue.tickets.length
  head : queue.headBuffer * depth ≤ queue.readPos ∧
    queue.readPos ≤ queue.headBuffer * depth + depth
  stored : ∀ pos, queue.readPos ≤ pos → (queue.slotAt depth pos).state = .set →
    ∃ id item, queue.tickets[pos]? = some (id, item) ∧
      queue.slotAt depth pos = ⟨.set, id, item.1, some item.2⟩
  unwritten : ∀ id pos, waiting id = some pos →
    queue.readPos ≤ pos ∧ pos < queue.tickets.length ∧ (queue.slotAt depth pos).state = .empty
  fresh : ∀ pos, queue.tickets.length ≤ pos → (queue.slotAt depth pos).state = .empty
  ready : ∀ pos, queue.readPos ≤ pos → pos < queue.tickets.length →
    (queue.slotAt depth pos).state = .set ∨ ∃ id, waiting id = some pos

namespace Kept

variable {waiting : Nat → Option Nat}

theorem grow (kept : Kept depth queue waiting) (chained : Chained after depth)
    (follows : Follows depth none queue after) (tickets : after.tickets = queue.tickets)
    (tail : after.tail = queue.tail) : Kept depth after waiting where
  chained := chained
  tail := by rw [tail, tickets, kept.tail]
  head := by
    rw [follows.headBuffer, follows.readPos]
    exact kept.head
  stored pos := by
    rw [follows.readPos, follows.slot pos nofun, tickets]
    exact kept.stored pos
  unwritten id pos := by
    rw [follows.readPos, follows.slot pos nofun, tickets]
    exact kept.unwritten id pos
  fresh pos := by
    rw [follows.slot pos nofun, tickets]
    exact kept.fresh pos
  ready pos := by
    rw [follows.readPos, follows.slot pos nofun, tickets]
    exact kept.ready pos

theorem claim (kept : Kept depth queue waiting) {id : Nat} (idle : waiting id = none)
    (item : Nat × Req) (read : queue.readPos ≤ queue.tickets.length) :
    Kept depth { queue with tail := queue.tail + 1, tickets := queue.tickets ++ [(id, item)] }
      (update waiting id (some queue.tail)) where
  chained := { kept.chained with }
  tail := by
    rw [List.length_append, List.length_singleton, kept.tail]
  head := kept.head
  stored pos unread set := by
    obtain ⟨owner, own, here, slot⟩ := kept.stored pos unread set
    refine ⟨owner, own, ?_, slot⟩
    rw [List.getElem?_append_left (List.getElem?_eq_some_iff.mp here).1]
    exact here
  unwritten other pos busy := by
    rw [List.length_append, List.length_singleton]
    by_cases same : other = id
    · rw [same, update_self] at busy
      obtain rfl := Option.some.inj busy
      refine ⟨Nat.le_trans read (Nat.le_of_eq kept.tail.symm), by rw [kept.tail]; omega, ?_⟩
      exact kept.fresh _ (Nat.le_of_eq kept.tail.symm)
    · rw [update_of_ne same] at busy
      obtain ⟨unread, inside, empty⟩ := kept.unwritten other pos busy
      exact ⟨unread, by omega, empty⟩
  fresh pos beyond := by
    rw [List.length_append, List.length_singleton] at beyond
    exact kept.fresh pos (Nat.le_of_succ_le beyond)
  ready pos unread inside := by
    rw [List.length_append, List.length_singleton] at inside
    by_cases last : pos = queue.tail
    · exact .inr ⟨id, by rw [last, update_self]⟩
    · rw [kept.tail] at last
      obtain set | ⟨other, busy⟩ := kept.ready pos unread (by omega)
      · exact .inl set
      · refine .inr ⟨other, ?_⟩
        have different : other ≠ id := by
          rintro rfl
          rw [idle] at busy
          cases busy
        rw [update_of_ne different]
        exact busy

section Write

variable {id pos buffer : Nat} (kept : Kept depth queue waiting) (mine : waiting id = some pos)
  (inside : buffer < queue.linked) (holds : Holds depth buffer pos) (slot : JiffySlot Req)

include kept inside holds in
theorem follows_setSlot :
    Follows depth (some pos) queue
      (queue.setSlot buffer (pos - (queue.buffers buffer).startIndex) slot) := by
  refine ⟨Nat.le_refl _, List.prefix_refl _, rfl, rfl, ?_⟩
  intro other different
  rw [kept.chained.slotAt_setSlot inside holds, update_of_ne]
  exact fun same => different (congrArg some same.symm)

include kept mine inside holds in
theorem write (empty : slot.state = .empty) :
    Kept depth (queue.setSlot buffer (pos - (queue.buffers buffer).startIndex) slot) waiting := by
  have states : ∀ other,
      ((queue.setSlot buffer (pos - (queue.buffers buffer).startIndex) slot).slotAt depth other).state =
        (queue.slotAt depth other).state := by
    intro other
    rw [kept.chained.slotAt_setSlot inside holds]
    by_cases same : other = pos
    · rw [same, update_self, empty, (kept.unwritten id pos mine).2.2]
    · rw [update_of_ne same]
  have stored : ∀ other, queue.readPos ≤ other → (queue.slotAt depth other).state = .set →
      ∃ owner item, queue.tickets[other]? = some (owner, item) ∧
        (queue.setSlot buffer (pos - (queue.buffers buffer).startIndex) slot).slotAt depth other =
          ⟨.set, owner, item.1, some item.2⟩ := by
    intro other unread set
    have different : other ≠ pos := by
      rintro rfl
      rw [(kept.unwritten id other mine).2.2] at set
      cases set
    obtain ⟨owner, item, here, there⟩ := kept.stored other unread set
    refine ⟨owner, item, here, ?_⟩
    rw [kept.chained.slotAt_setSlot inside holds, update_of_ne different, there]
  exact { kept with
    chained := kept.chained.setSlot inside _ _
    stored := fun other unread set => stored other unread ((states other).symm.trans set)
    unwritten := fun other place busy => by
      rw [states]
      exact kept.unwritten other place busy
    fresh := fun other beyond => by
      rw [states]
      exact kept.fresh other beyond
    ready := fun other unread known => by
      rw [states]
      exact kept.ready other unread known }

include kept mine inside holds in
theorem publish (unique : ∀ other, waiting other = some pos → other = id) {item : Nat × Req}
    (own : queue.tickets[pos]? = some (id, item)) (full : slot = ⟨.set, id, item.1, some item.2⟩) :
    Kept depth (queue.setSlot buffer (pos - (queue.buffers buffer).startIndex) slot)
      (update waiting id none) where
  chained := kept.chained.setSlot inside _ _
  tail := kept.tail
  head := kept.head
  stored other unread set := by
    rw [kept.chained.slotAt_setSlot inside holds] at set ⊢
    by_cases same : other = pos
    · rw [same, update_self]
      exact ⟨id, item, own, full⟩
    · rw [update_of_ne same] at set ⊢
      exact kept.stored other unread set
  unwritten other place busy := by
    have different : other ≠ id := by
      rintro rfl
      rw [update_self] at busy
      cases busy
    rw [update_of_ne different] at busy
    have apart : place ≠ pos := by
      rintro rfl
      exact different (unique other busy)
    rw [kept.chained.slotAt_setSlot inside holds, update_of_ne apart]
    exact kept.unwritten other place busy
  fresh other beyond := by
    have apart : other ≠ pos := by
      rintro rfl
      exact Nat.not_lt_of_le beyond (List.getElem?_eq_some_iff.mp own).1
    rw [kept.chained.slotAt_setSlot inside holds, update_of_ne apart]
    exact kept.fresh other beyond
  ready other unread known := by
    rw [kept.chained.slotAt_setSlot inside holds]
    by_cases same : other = pos
    · rw [same, update_self, full]
      exact .inl rfl
    · rw [update_of_ne same]
      obtain set | ⟨owner, busy⟩ := kept.ready other unread known
      · exact .inl set
      · refine .inr ⟨owner, ?_⟩
        have different : owner ≠ id := by
          rintro rfl
          rw [mine] at busy
          exact same (Option.some.inj busy).symm
        rw [update_of_ne different]
        exact busy

end Write

theorem advance (kept : Kept depth queue waiting)
    (full : depth ≤ queue.readPos - (queue.buffers queue.headBuffer).startIndex) {next : Nat}
    (there : (queue.buffers queue.headBuffer).next = some next) :
    Kept depth { queue with headBuffer := next } waiting := by
  rw [kept.chained.start _ kept.chained.headBuffer] at full
  rw [kept.chained.next _ kept.chained.headBuffer] at there
  split at there
  · rename_i more
    obtain rfl := Option.some.inj there
    have head := kept.head
    refine { kept with chained := { kept.chained with headBuffer := more }, head := ?_ }
    change (queue.headBuffer + 1) * depth ≤ queue.readPos ∧
      queue.readPos ≤ (queue.headBuffer + 1) * depth + depth
    rw [Nat.succ_mul]
    omega
  · cases there

theorem consume (kept : Kept depth queue waiting)
    (holds : Holds depth queue.headBuffer queue.readPos)
    (set : (queue.slotAt depth queue.readPos).state = .set) (slot : JiffySlot Req) :
    Kept depth
      { queue.setSlot queue.headBuffer
          (queue.readPos - (queue.buffers queue.headBuffer).startIndex) slot with
        readPos := queue.readPos + 1 } waiting := by
  have others : ∀ pos, pos ≠ queue.readPos →
      (queue.setSlot queue.headBuffer
        (queue.readPos - (queue.buffers queue.headBuffer).startIndex) slot).slotAt depth pos =
      queue.slotAt depth pos := by
    intro pos different
    rw [kept.chained.slotAt_setSlot kept.chained.headBuffer holds, update_of_ne different]
  have taken : queue.readPos < queue.tickets.length := by
    obtain ⟨_, _, here, _⟩ := kept.stored _ (Nat.le_refl _) set
    exact (List.getElem?_eq_some_iff.mp here).1
  exact { kept with
    chained := { kept.chained.setSlot kept.chained.headBuffer _ _ with }
    head := ⟨Nat.le_succ_of_le holds.1, holds.2⟩
    stored := fun pos unread full => by
      have unread : queue.readPos + 1 ≤ pos := unread
      have same := others pos (by omega)
      obtain ⟨id, item, here, there⟩ :=
        kept.stored pos (by omega) ((congrArg JiffySlot.state same).symm.trans full)
      exact ⟨id, item, here, same.trans there⟩
    unwritten := fun id pos busy => by
      obtain ⟨unread, inside, empty⟩ := kept.unwritten id pos busy
      have apart : pos ≠ queue.readPos := by
        rintro rfl
        rw [empty] at set
        cases set
      have later : queue.readPos + 1 ≤ pos := by omega
      exact ⟨later, inside, (congrArg JiffySlot.state (others pos apart)).trans empty⟩
    fresh := fun pos beyond =>
      have beyond : queue.tickets.length ≤ pos := beyond
      (congrArg JiffySlot.state (others pos (by omega))).trans (kept.fresh pos beyond)
    ready := fun pos unread inside => by
      have unread : queue.readPos + 1 ≤ pos := unread
      obtain full | busy := kept.ready pos (by omega) inside
      · exact .inl ((congrArg JiffySlot.state (others pos (by omega))).trans full)
      · exact .inr busy }

end Kept

end JiffyQueue

end Jiffy

end Locasta.Mempc
