import Locasta.Mempc.QueueMpsc

namespace Locasta.Mempc

open Data Function

/-! `FetchAddMpsc`: the request queue is a ring whose slots carry sequence numbers.

A producer takes a ticket from `head` and waits until its slot has come round to it. Only the
consumer uses `tail`, so its accesses belong to those next to them.
-/

namespace FetchAdd

structure ReqSlot (Req : Type) where
  seq : Nat
  callerId : Nat
  data : Option Req

structure RequestRing (Req : Type) where
  buffer : Nat → ReqSlot Req
  head : Nat
  tail : Nat
  capacity : Nat
  /-- Auxiliary: who took the tickets, and for what. -/
  tickets : List (Nat × Req)

inductive TryPush where
  | claim
  | waiting (pos : Nat)
  | writeCallerId (pos : Nat)
  | writeData (pos : Nat)
  | publish (pos : Nat)

inductive TryPop (Req : Type) where
  | loadSeq
  | readCallerId
  | readData (callerId : Nat)
  | free (callerId : Nat) (data : Req)
  /-- `poll` -/
  | loadHead

inductive Query where
  | tryRecv
  | poll

namespace RequestRing

variable {Req : Type}

def new (Req : Type) (capacity : Nat) : RequestRing Req where
  buffer index := { seq := index, callerId := 0, data := none }
  head := 0
  tail := 0
  capacity
  tickets := []

def slot (ring : RequestRing Req) (pos : Nat) : ReqSlot Req :=
  ring.buffer (maskOffset pos ring.capacity)

def setSlot (ring : RequestRing Req) (pos : Nat) (slot : ReqSlot Req) : RequestRing Req :=
  { ring with buffer := update ring.buffer (maskOffset pos ring.capacity) slot }

def tryPush (callerId : Nat) (data : Req) (pc : TryPush) (ring : RequestRing Req) :
    Progress TryPush Bool × RequestRing Req :=
  match pc with
  | .claim =>
    (.more (.waiting ring.head),
      { ring with head := ring.head + 1, tickets := ring.tickets ++ [(callerId, data)] })
  | .waiting pos =>
    if (ring.slot pos).seq = pos then (.more (.writeCallerId pos), ring)
    else (.more (.waiting pos), ring)
  | .writeCallerId pos =>
    (.more (.writeData pos), ring.setSlot pos { ring.slot pos with callerId })
  | .writeData pos =>
    (.more (.publish pos), ring.setSlot pos { ring.slot pos with data := some data })
  | .publish pos => (.done true, ring.setSlot pos { ring.slot pos with seq := pos + 1 })

/-- `try_pop` and, with `loadHead`, `available`. -/
def tryPop (pc : TryPop Req) (ring : RequestRing Req) :
    Progress (TryPop Req) (Answer Req) × RequestRing Req :=
  match pc with
  | .loadSeq =>
    if (ring.slot ring.tail).seq ≠ ring.tail + 1 then (.done .empty, ring)
    else (.more .readCallerId, ring)
  | .readCallerId => (.more (.readData (ring.slot ring.tail).callerId), ring)
  | .readData callerId =>
    match (ring.slot ring.tail).data with
    | none => (.done .empty, ring)
    | some data => (.more (.free callerId data), ring)
  | .free callerId data =>
    let slot := { ring.slot ring.tail with seq := ring.tail + ring.capacity }
    (.done (.item callerId data), { ring.setSlot ring.tail slot with tail := ring.tail + 1 })
  | .loadHead => (.done (.count ((ring.head - ring.tail) % 2 ^ 32)), ring)

end RequestRing

@[reducible] def code (Req : Type) : QueueCode Req where
  Shared := RequestRing Req
  Push := TryPush
  Pop := TryPop Req
  Query := Query
  startPush := .claim
  push := RequestRing.tryPush
  startPop
    | .tryRecv => .loadSeq
    | .poll => .loadHead
  pop := RequestRing.tryPop

def create (Req Resp : Type) (maxCallers ringDepth maxInflight : Nat) : QueueMpsc (code Req) Resp :=
  .create Resp (RequestRing.new Req ringDepth) maxCallers ringDepth maxInflight

def TryPush.ticket : TryPush → Option Nat
  | .claim => none
  | .waiting pos | .writeCallerId pos | .writeData pos | .publish pos => some pos

variable {Req : Type}

def held (queue : Queue (code Req)) (id : Nat) : Option Nat :=
  (queue.pushes id).bind fun push => TryPush.ticket push.2

/-- The request of the ticket `pos` is in its slot, ready for the consumer. -/
def RequestRing.Stored (ring : RequestRing Req) (pos : Nat) : Prop :=
  ∃ id req, ring.tickets[pos]? = some (id, req) ∧ ring.slot pos = ⟨pos + 1, id, some req⟩

def RequestRing.Pushing (ring : RequestRing Req) (id : Nat) (req : Req) : TryPush → Prop
  | .claim => True
  | .waiting pos => ring.tickets[pos]? = some (id, req)
  | .writeCallerId pos => ring.tickets[pos]? = some (id, req) ∧ pos < ring.tail + ring.capacity
  | .writeData pos =>
    ring.tickets[pos]? = some (id, req) ∧ pos < ring.tail + ring.capacity ∧
      (ring.slot pos).callerId = id
  | .publish pos =>
    ring.tickets[pos]? = some (id, req) ∧ pos < ring.tail + ring.capacity ∧
      (ring.slot pos).callerId = id ∧ (ring.slot pos).data = some req

/-- What the consumer knows of the slot it is at. -/
def RequestRing.Popping (ring : RequestRing Req) : TryPop Req → Prop
  | .loadSeq | .loadHead => True
  | .readCallerId => ring.Stored ring.tail
  | .readData callerId => ring.Stored ring.tail ∧ (ring.slot ring.tail).callerId = callerId
  | .free callerId data =>
    ring.Stored ring.tail ∧ (ring.slot ring.tail).callerId = callerId ∧
      (ring.slot ring.tail).data = some data

/-- From `tail` on a slot carries the number of its ticket until the request is there, and then the
next. -/
structure Sound (depth : Nat) (queue : Queue (code Req)) : Prop where
  capacity : queue.shared.capacity = depth
  head : queue.shared.head = queue.shared.tickets.length
  tail : queue.shared.tail = queue.popped.length
  order : queue.popped <+: queue.shared.tickets
  ticketed : Ticketed queue.shared.tickets queue.accepted (held queue)
  lap : ∀ pos, queue.shared.tail ≤ pos → pos < queue.shared.tail + depth →
    (queue.shared.slot pos).seq = pos ∨ queue.shared.Stored pos
  waiting : ∀ id pos, held queue id = some pos → queue.shared.tail ≤ pos ∧
    (pos < queue.shared.tail + depth → (queue.shared.slot pos).seq = pos)
  ready : ∀ pos, queue.shared.tail ≤ pos → pos < queue.shared.tickets.length →
    (∃ id, held queue id = some pos) ∨ (pos < queue.shared.tail + depth ∧ queue.shared.Stored pos)
  pushes : ∀ id push, queue.pushes id = some push → queue.shared.Pushing id push.1 push.2
  popping : ∀ pc, queue.popping = some pc → queue.shared.Popping pc

namespace RequestRing

@[simp] theorem slot_setSlot_self (ring : RequestRing Req) (pos : Nat) (slot : ReqSlot Req) :
    (ring.setSlot pos slot).slot pos = slot :=
  update_self ..

variable {ring : RequestRing Req}

theorem slot_setSlot_of_ne {depth : Nat} (power : depth.isPowerOfTwo)
    (capacity : ring.capacity = depth) {pos other : Nat} (slot : ReqSlot Req)
    (different : other ≠ pos) (low : ring.tail ≤ pos) (high : pos < ring.tail + depth)
    (otherLow : ring.tail ≤ other) (otherHigh : other < ring.tail + depth) :
    (ring.setSlot pos slot).slot other = ring.slot other := by
  apply update_of_ne
  dsimp only [setSlot]
  rw [capacity, maskOffset_eq_mod power, maskOffset_eq_mod power]
  exact mod_ne_mod_of_near different (by omega) (by omega)

theorem Stored.seq {pos : Nat} (stored : ring.Stored pos) : (ring.slot pos).seq = pos + 1 := by
  obtain ⟨_, _, _, here⟩ := stored
  rw [here]

variable {after : RequestRing Req}

theorem Stored.of_slot {pos : Nat} (stored : ring.Stored pos)
    (tickets : ring.tickets <+: after.tickets) (slot : after.slot pos = ring.slot pos) :
    after.Stored pos := by
  obtain ⟨id, req, ticket, here⟩ := stored
  exact ⟨id, req, getElem?_extend tickets ticket, slot.trans here⟩

theorem Pushing.of_slot {id : Nat} {req : Req} {pc : TryPush}
    (pushing : ring.Pushing id req pc) (tickets : ring.tickets <+: after.tickets)
    (capacity : after.capacity = ring.capacity) (tail : ring.tail ≤ after.tail)
    (slot : ∀ pos, pc.ticket = some pos → pos < ring.tail + ring.capacity →
      after.slot pos = ring.slot pos) : after.Pushing id req pc := by
  cases pc with
  | claim => trivial
  | waiting pos => exact getElem?_extend tickets pushing
  | writeCallerId pos =>
    obtain ⟨ticket, inside⟩ := pushing
    exact ⟨getElem?_extend tickets ticket, by omega⟩
  | writeData pos =>
    obtain ⟨ticket, inside, callerId⟩ := pushing
    refine ⟨getElem?_extend tickets ticket, by omega, ?_⟩
    rw [slot pos rfl inside]
    exact callerId
  | publish pos =>
    obtain ⟨ticket, inside, written⟩ := pushing
    refine ⟨getElem?_extend tickets ticket, by omega, ?_⟩
    rw [slot pos rfl inside]
    exact written

theorem Popping.of_slot {pc : TryPop Req}
    (popping : ring.Popping pc) (tickets : ring.tickets <+: after.tickets)
    (tail : after.tail = ring.tail)
    (slot : ring.Stored ring.tail → after.slot ring.tail = ring.slot ring.tail) :
    after.Popping pc := by
  cases pc with
  | loadSeq => trivial
  | loadHead => trivial
  | readCallerId =>
    unfold Popping
    rw [tail]
    exact Stored.of_slot popping tickets (slot popping)
  | readData callerId =>
    obtain ⟨stored, read⟩ := popping
    unfold Popping
    rw [tail, slot stored]
    exact ⟨stored.of_slot tickets (slot stored), read⟩
  | free callerId data =>
    obtain ⟨stored, read⟩ := popping
    unfold Popping
    rw [tail, slot stored]
    exact ⟨stored.of_slot tickets (slot stored), read⟩

end RequestRing

open RequestRing

theorem held_update (queue : Queue (code Req)) (id : Nat) (moved : Option (Req × TryPush)) :
    held { queue with pushes := update queue.pushes id moved } =
      update (held queue) id (moved.bind fun push => push.2.ticket) :=
  bind_update queue.pushes id moved _

namespace Sound

variable {depth : Nat} {queue : Queue (code Req)}

theorem new (Req : Type) {depth : Nat} (power : depth.isPowerOfTwo) :
    Sound depth ((Queue.new (RequestRing.new Req depth) : Queue (code Req))) where
  capacity := rfl
  head := rfl
  tail := rfl
  order := List.nil_prefix
  ticketed := .nil
  lap pos _ high := by
    left
    have inside : pos < depth := by simpa [Queue.new, RequestRing.new] using high
    change maskOffset pos depth = pos
    rw [maskOffset_eq_mod power, Nat.mod_eq_of_lt inside]
  waiting _ _ busy := by cases busy
  ready _ _ inside := absurd inside (Nat.not_lt_zero _)
  pushes _ _ busy := by cases busy
  popping _ busy := by cases busy

theorem positive (power : depth.isPowerOfTwo) : 0 < depth := Nat.pos_of_isPowerOfTwo power

theorem ticket_of (queue : Queue (code Req)) {id : Nat} {req : Req} {pc : TryPush}
    (running : queue.pushes id = some (req, pc)) : held queue id = pc.ticket := by
  rw [held, running]
  rfl

variable (sound : Sound depth queue)
include sound

variable {id : Nat}

theorem moved {moved : Req × TryPush} (ticket : moved.2.ticket = held queue id)
    (pushing : queue.shared.Pushing id moved.1 moved.2) :
    Sound depth { queue with pushes := update queue.pushes id (some moved) } := by
  have same : held { queue with pushes := update queue.pushes id (some moved) } = held queue :=
    bind_update_same id (some moved) ticket
  exact { sound with
    ticketed := by rw [same]; exact sound.ticketed
    waiting := by rw [same]; exact sound.waiting
    ready := by rw [same]; exact sound.ready
    pushes := forall_thread_update (by rintro _ ⟨⟩; exact pushing)
      fun other push _ running => sound.pushes other push running }

theorem startPush (idle : queue.pushes id = none)
    (req : Req) : Sound depth (queue.startPush id req) :=
  sound.moved (by rw [held, idle]; rfl) trivial

variable {req : Req}

theorem claim (running : queue.pushes id = some (req, .claim)) :
    Sound depth (queue.pushed id req (tryPush id req .claim queue.shared)).2 := by
  have idle : held queue id = none := ticket_of queue running
  have head := sound.head
  have order := sound.order.length_le
  have tail := sound.tail
  have more : (queue.shared.tickets ++ [(id, req)]).length = queue.shared.tickets.length + 1 :=
    List.length_append
  have grown : queue.shared.tickets <+: queue.shared.tickets ++ [(id, req)] := List.prefix_append ..
  have now : held (queue.pushed id req (tryPush id req .claim queue.shared)).2 =
      update (held queue) id (some queue.shared.tickets.length) := by
    refine (held_update queue id (some (req, .waiting queue.shared.head))).trans ?_
    rw [head]
    rfl
  have fresh : queue.shared.tickets.length < queue.shared.tail + depth →
      (queue.shared.slot queue.shared.tickets.length).seq = queue.shared.tickets.length := by
    intro inside
    rcases sound.lap _ (by omega) inside with unused | ⟨_, _, ticket, _⟩
    · exact unused
    · rw [List.getElem?_eq_none (Nat.le_refl _)] at ticket
      cases ticket
  refine { sound with
    head := by
      change queue.shared.head + 1 = (queue.shared.tickets ++ [(id, req)]).length
      rw [more, head]
    order := sound.order.trans grown
    ticketed := by rw [now]; exact sound.ticketed.take idle req
    lap := fun pos low high =>
      (sound.lap pos low high).imp_right fun stored => stored.of_slot grown rfl
    waiting := ?waiting
    ready := ?ready
    pushes := ?pushes
    popping := fun pc busy => (sound.popping pc busy).of_slot grown rfl fun _ => rfl }
  case waiting =>
    rw [now]
    intro other pos holding
    by_cases same : other = id
    · subst same
      rw [update_self] at holding
      cases holding
      exact ⟨by change queue.shared.tail ≤ _; omega, fresh⟩
    · rw [update_of_ne same] at holding
      exact sound.waiting other pos holding
  case ready =>
    rw [now]
    intro pos low inside
    change pos < (queue.shared.tickets ++ [(id, req)]).length at inside
    rw [more] at inside
    by_cases last : pos = queue.shared.tickets.length
    · exact .inl ⟨id, by rw [update_self, last]⟩
    · rcases sound.ready pos low (by omega) with ⟨other, holding⟩ | ⟨high, stored⟩
      · refine .inl ⟨other, ?_⟩
        rwa [update_of_ne]
        rintro rfl
        rw [idle] at holding
        cases holding
      · exact .inr ⟨high, stored.of_slot grown rfl⟩
  case pushes =>
    refine forall_thread_update ?_ fun other push _ busy =>
      (sound.pushes other push busy).of_slot grown rfl (Nat.le_refl _) fun _ _ _ => rfl
    rintro _ ⟨⟩
    change (queue.shared.tickets ++ [(id, req)])[queue.shared.head]? = some (id, req)
    rw [head, List.getElem?_append_right (Nat.le_refl _), Nat.sub_self]
    rfl

theorem stay {pc after : TryPush}
    (running : queue.pushes id = some (req, pc)) (ticket : after.ticket = pc.ticket)
    (pushing : queue.shared.Pushing id req after) :
    Sound depth (queue.pushed id req (.more after, queue.shared)).2 :=
  sound.moved (ticket.trans (ticket_of queue running).symm) pushing

variable {pos : Nat}

/-- A ticket whose number the slot carries is due in the present lap. -/
theorem due (power : depth.isPowerOfTwo) (two : 2 ≤ depth) (holding : held queue id = some pos)
    (seq : (queue.shared.slot pos).seq = pos) : pos < queue.shared.tail + depth := by
  have low := (sound.waiting id pos holding).1
  let early := queue.shared.tail + (pos - queue.shared.tail) % depth
  have short := Nat.mod_lt (pos - queue.shared.tail) (positive power)
  have congruent : early % depth = pos % depth := by
    rw [Nat.add_mod_mod, Nat.add_sub_cancel' low]
  have slot : queue.shared.slot early = queue.shared.slot pos := by
    unfold slot
    rw [sound.capacity, maskOffset_eq_mod power, maskOffset_eq_mod power, congruent]
  rcases sound.lap early (Nat.le_add_right ..) (by omega) with unused | stored
  · rw [slot, seq] at unused
    omega
  · have next := stored.seq
    rw [slot, seq] at next
    rw [next] at congruent
    exact absurd congruent (mod_ne_mod_of_window (Nat.lt_succ_self early) (by omega))

theorem others_pushing (power : depth.isPowerOfTwo) (holding : held queue id = some pos)
    (inside : pos < queue.shared.tail + depth) (slot : ReqSlot Req) :
    ∀ other push, other ≠ id → queue.pushes other = some push →
      (queue.shared.setSlot pos slot).Pushing other push.1 push.2 := by
  intro other push different busy
  refine (sound.pushes other push busy).of_slot (List.prefix_refl _) rfl (Nat.le_refl _) ?_
  intro place own high
  rw [sound.capacity] at high
  have theirs : held queue other = some place := (ticket_of queue busy).trans own
  refine slot_setSlot_of_ne power sound.capacity slot ?_ (sound.waiting id pos holding).1 inside
    (sound.waiting other place theirs).1 high
  rintro rfl
  exact different (sound.ticketed.holder_unique theirs holding)

theorem write (power : depth.isPowerOfTwo)
    {pc after : TryPush} (running : queue.pushes id = some (req, pc))
    (before : pc.ticket = some pos) (ticket : after.ticket = some pos)
    (inside : pos < queue.shared.tail + depth) {slot : ReqSlot Req} (seq : slot.seq = pos)
    (pushing : (queue.shared.setSlot pos slot).Pushing id req after) :
    Sound depth (queue.pushed id req (.more after, queue.shared.setSlot pos slot)).2 := by
  have holding : held queue id = some pos := (ticket_of queue running).trans before
  obtain ⟨low, unused⟩ := sound.waiting id pos holding
  have same : held (queue.pushed id req (.more after, queue.shared.setSlot pos slot)).2 =
      held queue := bind_update_same id (some (req, after)) (ticket.trans holding.symm)
  have apart := fun other (different : other ≠ pos) =>
    slot_setSlot_of_ne power sound.capacity slot different low inside
  have kept : ∀ other, queue.shared.tail ≤ other → other < queue.shared.tail + depth →
      queue.shared.Stored other → (queue.shared.setSlot pos slot).slot other =
        queue.shared.slot other := by
    intro other otherLow otherHigh stored
    refine apart other ?_ otherLow otherHigh
    rintro rfl
    have := stored.seq
    have := unused inside
    omega
  refine { sound with
    ticketed := by rw [same]; exact sound.ticketed
    lap := ?lap
    waiting := ?waiting
    ready := ?ready
    pushes := ?pushes
    popping := ?popping }
  case lap =>
    intro other otherLow otherHigh
    rcases sound.lap other otherLow otherHigh with free | stored
    · left
      by_cases here : other = pos
      · subst here
        change ((queue.shared.setSlot other slot).slot other).seq = other
        rw [slot_setSlot_self, seq]
      · exact (congrArg ReqSlot.seq (apart other here otherLow otherHigh)).trans free
    · exact .inr (stored.of_slot (List.prefix_refl _) (kept other otherLow otherHigh stored))
  case waiting =>
    rw [same]
    intro other place busy
    refine ⟨(sound.waiting other place busy).1, fun high => ?_⟩
    by_cases here : place = pos
    · subst here
      change ((queue.shared.setSlot place slot).slot place).seq = place
      rw [slot_setSlot_self, seq]
    · exact (congrArg ReqSlot.seq (apart place here (sound.waiting other place busy).1 high)).trans
        ((sound.waiting other place busy).2 high)
  case ready =>
    rw [same]
    intro other otherLow otherInside
    exact (sound.ready other otherLow otherInside).imp_right fun ⟨high, stored⟩ =>
      ⟨high, stored.of_slot (List.prefix_refl _) (kept other otherLow high stored)⟩
  case pushes =>
    exact forall_thread_update (by rintro _ ⟨⟩; exact pushing)
      (sound.others_pushing power holding inside slot)
  case popping =>
    intro reader busy
    refine (sound.popping reader busy).of_slot (List.prefix_refl _) rfl ?_
    exact kept _ (Nat.le_refl _) (Nat.lt_add_of_pos_right (positive power))

theorem publish (power : depth.isPowerOfTwo)
    (running : queue.pushes id = some (req, .publish pos)) :
    Sound depth
      (queue.pushed id req (tryPush id req (.publish pos) queue.shared)).2 := by
  have holding : held queue id = some pos := ticket_of queue running
  obtain ⟨low, unused⟩ := sound.waiting id pos holding
  obtain ⟨ticket, inside, callerId, data⟩ := sound.pushes id _ running
  rw [sound.capacity] at inside
  let slot : ReqSlot Req := { queue.shared.slot pos with seq := pos + 1 }
  have now : held (queue.pushed id req (.done true, queue.shared.setSlot pos slot)).2 =
      update (held queue) id none := held_update queue id none
  have apart := fun other (different : other ≠ pos) =>
    slot_setSlot_of_ne power sound.capacity slot different low inside
  have stored : (queue.shared.setSlot pos slot).Stored pos := by
    refine ⟨id, req, ticket, ?_⟩
    rw [slot_setSlot_self]
    change (⟨pos + 1, (queue.shared.slot pos).callerId, (queue.shared.slot pos).data⟩ : ReqSlot Req)
      = _
    rw [callerId, data]
  have keep : ∀ other, queue.shared.tail ≤ other → other < queue.shared.tail + depth →
      queue.shared.Stored other → (queue.shared.setSlot pos slot).Stored other := by
    intro other otherLow otherHigh before
    by_cases here : other = pos
    · subst here
      exact stored
    · exact before.of_slot (List.prefix_refl _) (apart other here otherLow otherHigh)
  change Sound depth (queue.pushed id req (.done true, queue.shared.setSlot pos slot)).2
  refine { sound with
    ticketed := by rw [now]; exact sound.ticketed.accept holding ticket
    lap := ?lap
    waiting := ?waiting
    ready := ?ready
    pushes := ?pushes
    popping := ?popping }
  case lap =>
    intro other otherLow otherHigh
    by_cases here : other = pos
    · subst here
      exact .inr stored
    · rcases sound.lap other otherLow otherHigh with free | before
      · exact .inl ((congrArg ReqSlot.seq (apart other here otherLow otherHigh)).trans free)
      · exact .inr (keep other otherLow otherHigh before)
  case waiting =>
    rw [now]
    intro other place busy
    have different : other ≠ id := by
      rintro rfl
      rw [update_self] at busy
      cases busy
    rw [update_of_ne different] at busy
    refine ⟨(sound.waiting other place busy).1, fun high => ?_⟩
    refine (congrArg ReqSlot.seq (apart place ?_ (sound.waiting other place busy).1 high)).trans
      ((sound.waiting other place busy).2 high)
    rintro rfl
    exact different (sound.ticketed.holder_unique busy holding)
  case ready =>
    rw [now]
    intro other otherLow otherInside
    by_cases here : other = pos
    · subst here
      exact .inr ⟨inside, stored⟩
    · rcases sound.ready other otherLow otherInside with ⟨owner, busy⟩ | ⟨high, before⟩
      · refine .inl ⟨owner, ?_⟩
        rwa [update_of_ne]
        rintro rfl
        rw [holding] at busy
        exact here (Option.some.inj busy).symm
      · exact .inr ⟨high, keep other otherLow high before⟩
  case pushes =>
    exact forall_thread_update nofun (sound.others_pushing power holding inside slot)
  case popping =>
    intro reader busy
    refine (sound.popping reader busy).of_slot (List.prefix_refl _) rfl fun before => ?_
    refine apart _ ?_ (Nat.le_refl _) (Nat.lt_add_of_pos_right (positive power))
    rintro rfl
    have := before.seq
    have := unused inside
    omega

theorem look {pc : TryPop Req} (popping : queue.shared.Popping pc) :
    Sound depth (queue.answered (.more pc, queue.shared)).2 :=
  { sound with popping := by rintro _ ⟨⟩; exact popping }

theorem giveUp {answer : Answer Req} (nothing : answer.items = []) :
    Sound depth (queue.answered (.done answer, queue.shared)).2 := by
  have same : queue.popped ++ answer.items = queue.popped := by rw [nothing, List.append_nil]
  exact { sound with
    tail := by
      change queue.shared.tail = (queue.popped ++ answer.items).length
      rw [same]
      exact sound.tail
    order := by
      change queue.popped ++ answer.items <+: _
      rw [same]
      exact sound.order
    popping := nofun }

section

variable (power : depth.isPowerOfTwo)
include power

theorem free {callerId : Nat} {data : Req} (running : queue.popping = some (.free callerId data)) :
    Sound depth (queue.answered (tryPop (.free callerId data) queue.shared)).2 := by
  obtain ⟨stored, ownId, ownData⟩ := sound.popping _ running
  have positive := positive power
  have tail := sound.tail
  have used := stored.seq
  obtain ⟨id, req, ticket, here⟩ := stored
  rw [here] at ownId ownData
  cases ownId
  cases ownData
  let slot : ReqSlot Req :=
    { queue.shared.slot queue.shared.tail with seq := queue.shared.tail + queue.shared.capacity }
  have apart : ∀ other, queue.shared.tail < other → other < queue.shared.tail + depth →
      (queue.shared.setSlot queue.shared.tail slot).slot other = queue.shared.slot other :=
    fun other after high => slot_setSlot_of_ne power sound.capacity slot
      (Nat.ne_of_gt after) (Nat.le_refl _) (by omega) (Nat.le_of_lt after) high
  have round : ((queue.shared.setSlot queue.shared.tail slot).slot
      (queue.shared.tail + depth)).seq = queue.shared.tail + depth := by
    have same : (queue.shared.setSlot queue.shared.tail slot).slot (queue.shared.tail + depth) =
        (queue.shared.setSlot queue.shared.tail slot).slot queue.shared.tail := by
      unfold RequestRing.slot setSlot
      rw [sound.capacity, maskOffset_eq_mod power, maskOffset_eq_mod power, Nat.add_mod_right]
    rw [same, slot_setSlot_self]
    change queue.shared.tail + queue.shared.capacity = _
    rw [sound.capacity]
  have past : ∀ id pos, held queue id = some pos → queue.shared.tail < pos := by
    intro id pos holding
    obtain ⟨low, unused⟩ := sound.waiting id pos holding
    refine Nat.lt_of_le_of_ne low ?_
    rintro rfl
    have := unused (by omega)
    omega
  refine { sound with
    tail := ?tail
    order := prefix_snoc sound.order (by rw [← tail]; exact ticket)
    lap := ?lap
    waiting := ?waiting
    ready := ?ready
    pushes := ?pushes
    popping := nofun }
  case tail =>
    change queue.shared.tail + 1 = (queue.popped ++ [_]).length
    rw [List.length_append, List.length_singleton, tail]
  case lap =>
    intro pos low high
    change queue.shared.tail + 1 ≤ pos at low
    change pos < queue.shared.tail + 1 + depth at high
    by_cases last : pos = queue.shared.tail + depth
    · exact .inl (last ▸ round)
    · rcases sound.lap pos (by omega) (by omega) with unused | before
      · exact .inl ((congrArg ReqSlot.seq (apart pos low (by omega))).trans unused)
      · exact .inr (before.of_slot (List.prefix_refl _) (apart pos low (by omega)))
  case waiting =>
    intro other pos holding
    have low := past other pos holding
    refine ⟨low, fun high => ?_⟩
    change pos < queue.shared.tail + 1 + depth at high
    by_cases last : pos = queue.shared.tail + depth
    · exact last ▸ round
    · exact (congrArg ReqSlot.seq (apart pos low (by omega))).trans
        ((sound.waiting other pos holding).2 (by omega))
  case ready =>
    intro pos low inside
    change queue.shared.tail + 1 ≤ pos at low
    refine (sound.ready pos (by omega) inside).imp_right fun ⟨high, before⟩ => ⟨?_, ?_⟩
    · change pos < queue.shared.tail + 1 + depth
      omega
    · exact before.of_slot (List.prefix_refl _) (apart pos low high)
  case pushes =>
    intro other push busy
    refine (sound.pushes other push busy).of_slot (List.prefix_refl _) rfl (Nat.le_succ _) ?_
    intro pos own high
    exact apart pos (past other pos ((ticket_of queue busy).trans own))
      (by rwa [sound.capacity] at high)

theorem push {id : Nat} {req : Req} {pc : TryPush} (running : queue.pushes id = some (req, pc))
    (due : ∀ pos, pc = .waiting pos → (queue.shared.slot pos).seq = pos →
      pos < queue.shared.tail + depth) :
    Sound depth (queue.pushed id req (tryPush id req pc queue.shared)).2 := by
  have pushing := sound.pushes id _ running
  cases pc with
  | claim => exact sound.claim running
  | waiting pos =>
    unfold tryPush
    dsimp only
    split
    · rename_i seq
      have inside := due pos rfl seq
      rw [← sound.capacity] at inside
      exact sound.stay running rfl ⟨pushing, inside⟩
    · exact sound.stay running rfl pushing
  | writeCallerId pos =>
    obtain ⟨ticket, inside⟩ := pushing
    have unused := (sound.waiting id pos (ticket_of queue running)).2
    refine sound.write power running rfl rfl (by rwa [sound.capacity] at inside)
      (unused (by rwa [sound.capacity] at inside)) ⟨ticket, inside, ?_⟩
    rw [slot_setSlot_self]
  | writeData pos =>
    obtain ⟨ticket, inside, callerId⟩ := pushing
    have unused := (sound.waiting id pos (ticket_of queue running)).2
    refine sound.write power running rfl rfl (by rwa [sound.capacity] at inside)
      (unused (by rwa [sound.capacity] at inside)) ⟨ticket, inside, ?_⟩
    rw [slot_setSlot_self]
    exact ⟨callerId, rfl⟩
  | publish pos => exact sound.publish power running

theorem pop {pc : TryPop Req} (running : queue.popping = some pc) :
    Sound depth (queue.answered (tryPop pc queue.shared)).2 := by
  have popping := sound.popping pc running
  cases pc with
  | loadSeq =>
    unfold tryPop
    dsimp only
    split
    · exact sound.giveUp rfl
    · rename_i seq
      refine sound.look ?_
      rcases sound.lap queue.shared.tail (Nat.le_refl _)
        (Nat.lt_add_of_pos_right (positive power)) with unused | stored
      · exact absurd (by rw [unused]; exact Nat.ne_of_lt (Nat.lt_succ_self _)) seq
      · exact stored
  | readCallerId => exact sound.look ⟨popping, rfl⟩
  | readData callerId =>
    obtain ⟨stored, read⟩ := popping
    obtain ⟨id, req, ticket, here⟩ := stored
    have data : (queue.shared.slot queue.shared.tail).data = some req := by rw [here]
    unfold tryPop
    rw [data]
    exact sound.look ⟨⟨id, req, ticket, here⟩, read, data⟩
  | free callerId data => exact sound.free power running
  | loadHead => exact sound.giveUp rfl

/-- A step keeps the ring sound if the tickets that go on are less than a ring ahead of the tail. -/
theorem step (due : ∀ id req pos, queue.pushes id = some (req, .waiting pos) →
      (queue.shared.slot pos).seq = pos → pos < queue.shared.tail + depth)
    (action : Queue.Action (code Req)) : Sound depth (queue.step action) :=
  Queue.step_invariant sound (fun _ req _ idle => sound.startPush idle req)
    (fun id req _ _ running => sound.push power running fun pos waiting =>
      due id req pos (waiting ▸ running))
    (fun query _ => by cases query <;> exact { sound with popping := by rintro _ ⟨⟩; trivial })
    (fun _ running => sound.pop power running)

end

theorem popped_order (id : Nat) : itemsOf id queue.popped <+: itemsOf id queue.accepted := by
  refine sound.ticketed.served sound.order ?_ id
  intro other pos holding
  rw [← sound.tail]
  exact (sound.waiting other pos holding).1

end Sound

/-- With two slots or more they always are. -/
theorem sound_run {Resp : Type} {depth : Nat} (power : depth.isPowerOfTwo) (two : 2 ≤ depth)
    (maxCallers maxInflight : Nat) (actions : List (QueueMpsc.Action (code Req) Resp)) :
    let mpsc := run QueueMpsc.next (create Req Resp maxCallers depth maxInflight) actions
    Sound depth mpsc.queue ∧ mpsc.Counted depth := by
  intro mpsc
  constructor
  · exact QueueMpsc.run_queue (fun queue action sound => sound.step power
      (fun _ _ _ waiting => sound.due power two (Sound.ticket_of queue waiting)) action)
      (.new Req power) actions
  · exact run_always (fun _ action counted => counted.next (Sound.positive power) action)
      (.create _ maxCallers power maxInflight)

/-- The requests are received in the order of the tickets, each once, those of one caller in the
order of its calls, and the replies in theirs, each with the token of its call. -/
theorem fetchAdd_delivery {Resp : Type} {depth : Nat} (power : depth.isPowerOfTwo)
    (two : 2 ≤ depth) (maxCallers maxInflight : Nat)
    (actions : List (QueueMpsc.Action (code Req) Resp)) (id : Nat) :
    let mpsc := run QueueMpsc.next (create Req Resp maxCallers depth maxInflight) actions
    let queue := mpsc.queue
    let tickets := queue.shared.tickets
    let desk := mpsc.desks id
    queue.shared.head = tickets.length ∧ queue.popped <+: tickets ∧
      (∀ pos, queue.popped.length ≤ pos → pos < tickets.length →
        (∃ caller, held queue caller = some pos) ∨ queue.shared.Stored pos) ∧
      (held queue id = none → itemsOf id tickets = itemsOf id queue.accepted) ∧
      itemsOf id queue.popped <+: itemsOf id queue.accepted ∧
      desk.tokens.length = (itemsOf id queue.accepted).length ∧
      desk.respRing.received <+: desk.respRing.sent ∧
      (∀ (index : Nat) (response : Nat × Resp), desk.respRing.sent[index]? = some response →
        desk.answered[index]? = some response.1 ∧ response.1 < (itemsOf id queue.popped).length ∧
          desk.tokens[response.1]? = some response.1) ∧
      desk.answered.Nodup := by
  intro mpsc queue tickets desk
  obtain ⟨sound, counted⟩ : Sound depth mpsc.queue ∧ mpsc.Counted depth :=
    sound_run power two maxCallers maxInflight actions
  have own : desk.Counted depth _ _ := counted id
  have order := sound.popped_order id
  refine ⟨sound.head, sound.order, ?_, sound.ticketed.free id, order, ?_, own.ring.received, ?_,
    own.exchange.nodup⟩
  · intro pos low inside
    rw [← sound.tail] at low
    exact (sound.ready pos low inside).imp_right And.right
  · rw [own.tokens, List.length_range]
  · intro index response here
    exact own.reply_at order.length_le here

/-- The second ticket is ready first, and the third waits for the first slot. -/
def crossing : List (QueueMpsc.Action (code Nat) Nat) :=
  [.call 0 10, .caller 0, .call 1 20, .caller 1, .caller 1, .caller 1, .caller 1, .caller 1,
    .query .tryRecv, .server, .caller 0, .caller 0, .caller 0, .caller 0, .call 0 11, .caller 0,
    .caller 0, .query .tryRecv, .server, .server, .server, .server, .caller 0, .reply 0 0 110,
    .server, .caller 0, .server, .caller 0, .server, .tryRecvResponse 0]

theorem fetchAdd_delivery_crossing :
    let mpsc := run QueueMpsc.next (create Nat Nat 2 2 4) crossing
    mpsc.queue.shared.tickets = [(0, 10), (1, 20), (0, 11)] ∧
      mpsc.queue.accepted = [(1, 20), (0, 10)] ∧ mpsc.queue.popped = [(0, 10)] ∧
      held mpsc.queue 0 = some 2 ∧ (mpsc.desks 0).respRing.sent = [(0, 110)] ∧
      itemsOf 0 mpsc.queue.popped <+: itemsOf 0 mpsc.queue.accepted := by
  intro mpsc
  exact ⟨by decide +kernel, by decide +kernel, by decide +kernel, by decide +kernel,
    by decide +kernel,
    (fetchAdd_delivery ⟨1, rfl⟩ (Nat.le_refl 2) 2 4 crossing 0).2.2.2.2.1⟩

end FetchAdd

end Locasta.Mempc
