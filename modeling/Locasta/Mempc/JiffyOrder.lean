import Locasta.Mempc.Jiffy

namespace Locasta.Mempc

open Data Function

/-! `JiffyMpsc`: what holds in every run, and what it delivers. -/

namespace Jiffy

variable {Req : Type} {depth : Nat}

namespace JiffyQueue

variable {queue after : JiffyQueue Req}

/-- Where a producer is in the list, and what it has written. -/
def Reached (queue : JiffyQueue Req) (depth id : Nat) (item : Nat × Req) : Enqueue → Prop
  | .claim | .loadTailBuffer _ => True
  | .search pos current => current < queue.linked ∧ current * depth ≤ pos
  | .linkNext pos current => current < queue.linked ∧ current * depth + depth ≤ pos
  | .advanceTail pos current _ | .writeCallerId pos current =>
    current < queue.linked ∧ Holds depth current pos
  | .writeToken pos current =>
    current < queue.linked ∧ Holds depth current pos ∧ (queue.slotAt depth pos).callerId = id
  | .writeData pos current =>
    current < queue.linked ∧ Holds depth current pos ∧ (queue.slotAt depth pos).callerId = id ∧
      (queue.slotAt depth pos).callerToken = item.1
  | .publish pos current =>
    current < queue.linked ∧ Holds depth current pos ∧ (queue.slotAt depth pos).callerId = id ∧
      (queue.slotAt depth pos).callerToken = item.1 ∧ (queue.slotAt depth pos).data = some item.2
  | .loadNext _ current | .preallocate _ current => current < queue.linked

structure Pushing (queue : JiffyQueue Req) (depth id : Nat) (push : (Nat × Req) × Enqueue) :
    Prop where
  caller : id < 2 ^ 16
  granted : ∀ pos, push.2.ticket = some pos → queue.tickets[pos]? = some (id, push.1)
  reached : queue.Reached depth id push.1 push.2

theorem Pushing.frame {id : Nat} {push : (Nat × Req) × Enqueue}
    (pushing : Pushing queue depth id push)
    (linked : queue.linked ≤ after.linked) (tickets : queue.tickets <+: after.tickets)
    (slot : ∀ pos, push.2.unpublished = some pos →
      after.slotAt depth pos = queue.slotAt depth pos) : Pushing after depth id push where
  caller := pushing.caller
  granted pos busy := getElem?_extend tickets (pushing.granted pos busy)
  reached := by
    obtain ⟨item, pc⟩ := push
    have reached := pushing.reached
    cases pc with
    | claim | loadTailBuffer => trivial
    | search pos current | linkNext pos current | advanceTail pos current oldTail
    | writeCallerId pos current => exact ⟨Nat.lt_of_lt_of_le reached.1 linked, reached.2⟩
    | writeToken pos current | writeData pos current | publish pos current =>
      dsimp only [Reached]
      rw [slot pos rfl]
      exact ⟨Nat.lt_of_lt_of_le reached.1 linked, reached.2⟩
    | loadNext pos current | preallocate pos current => exact Nat.lt_of_lt_of_le reached linked

def Readable (queue : JiffyQueue Req) (depth : Nat) : Prop :=
  Holds depth queue.headBuffer queue.readPos ∧ (queue.slotAt depth queue.readPos).state = .set

/-- Every position from `readPos` to `pos` is published. -/
def Available (queue : JiffyQueue Req) (depth pos : Nat) : Prop :=
  ∀ other, queue.readPos ≤ other → other < pos → (queue.slotAt depth other).state = .set

def Popping (queue : JiffyQueue Req) (depth : Nat) : Dequeue Req → Prop
  | .start | .startCount => True
  | .readCallerId => queue.Readable depth
  | .readToken callerId =>
    queue.Readable depth ∧ (queue.slotAt depth queue.readPos).callerId = callerId
  | .readData callerId token =>
    queue.Readable depth ∧ (queue.slotAt depth queue.readPos).callerId = callerId ∧
      (queue.slotAt depth queue.readPos).callerToken = token
  | .markHandled callerId token data =>
    queue.Readable depth ∧ (queue.slotAt depth queue.readPos).callerId = callerId ∧
      (queue.slotAt depth queue.readPos).callerToken = token ∧
      (queue.slotAt depth queue.readPos).data = some data
  | .count pos buffer number =>
    buffer < queue.linked ∧ buffer * depth ≤ pos ∧ pos ≤ buffer * depth + depth ∧
      queue.readPos + number ≤ pos ∧ queue.Available depth pos

variable {place : Option Nat} (produced : Follows depth place queue after)
  (kept : ∀ pos, place = some pos → (queue.slotAt depth pos).state = .empty)
include produced kept

theorem Available.follows {pos : Nat}
    (available : queue.Available depth pos) : after.Available depth pos := by
  intro other unread before
  rw [produced.readPos] at unread
  have set := available other unread before
  rw [produced.slot other]
  · exact set
  · intro same
    rw [kept other same] at set
    cases set

theorem Popping.follows {pc : Dequeue Req}
    (popping : Popping queue depth pc) : Popping after depth pc := by
  have slot : queue.Readable depth →
      after.slotAt depth after.readPos = queue.slotAt depth queue.readPos := by
    intro readable
    rw [produced.readPos, produced.slot]
    intro same
    have set := readable.2
    rw [kept _ same] at set
    cases set
  have readable : queue.Readable depth → after.Readable depth := by
    intro before
    refine ⟨?_, by rw [slot before]; exact before.2⟩
    rw [produced.headBuffer, produced.readPos]
    exact before.1
  cases pc with
  | start | startCount => trivial
  | readCallerId => exact readable popping
  | readToken callerId | readData callerId token | markHandled callerId token data =>
    refine ⟨readable popping.1, ?_⟩
    rw [slot popping.1]
    exact popping.2
  | count pos buffer number =>
    obtain ⟨inside, low, high, number, available⟩ := popping
    refine ⟨Nat.lt_of_lt_of_le inside produced.linked, low, high, ?_, available.follows produced kept⟩
    rw [produced.readPos]
    exact number

end JiffyQueue

open JiffyQueue

def held (queue : Queue (code Req)) (id : Nat) : Option Nat := (queue.pushes id).bind (·.2.ticket)

/-- The positions of the pushes whose requests are not published yet. -/
def waiting (queue : Queue (code Req)) (id : Nat) : Option Nat :=
  (queue.pushes id).bind (·.2.unpublished)

theorem Enqueue.ticket_of_unpublished {pc : Enqueue} {pos : Nat} (busy : pc.unpublished = some pos) :
    pc.ticket = some pos := by
  cases pc <;> first | exact busy | cases busy

/-- The buffers agree with the tickets and with the pushes and the pop under way. -/
structure Sound (depth : Nat) (queue : Queue (code Req)) : Prop where
  kept : Kept depth queue.shared (waiting queue)
  readPos : queue.shared.readPos = queue.popped.length
  order : queue.popped <+: queue.shared.tickets
  ticketed : Ticketed queue.shared.tickets queue.accepted (held queue)
  pushing : ∀ id push, queue.pushes id = some push → queue.shared.Pushing depth id push
  popping : ∀ pc, queue.popping = some pc → queue.shared.Popping depth pc

structure Produced (depth : Nat) (place : Option Nat) (queue later : Queue (code Req)) : Prop where
  sound : Sound depth later
  follows : Follows depth place queue.shared later.shared

/-- A step of the consumer: it writes only what it has read. -/
structure Consumed (depth : Nat) (queue later : Queue (code Req)) : Prop where
  sound : Sound depth later
  forward : queue.shared.readPos ≤ later.shared.readPos
  unread : ∀ pos, later.shared.readPos ≤ pos →
    later.shared.slotAt depth pos = queue.shared.slotAt depth pos

namespace Sound

variable {queue : Queue (code Req)}

theorem new (Req : Type) (depth : Nat) :
    Sound depth (Queue.new (new Req depth) : Queue (code Req)) where
  kept := {
    chained := .new Req depth
    tail := rfl
    head := ⟨Nat.le_of_eq (Nat.zero_mul depth), Nat.zero_le _⟩
    stored := fun _ _ set => by cases set
    unwritten := fun _ _ busy => by cases busy
    fresh := fun _ _ => rfl
    ready := fun _ _ inside => absurd inside (Nat.not_lt_zero _) }
  readPos := rfl
  order := List.prefix_refl _
  ticketed := .nil
  pushing _ _ busy := by cases busy
  popping _ busy := by cases busy

theorem held_of_waiting {id pos : Nat} (busy : waiting queue id = some pos) :
    held queue id = some pos := by
  obtain ⟨push, running, unpublished⟩ := Option.bind_eq_some_iff.mp busy
  exact Option.bind_eq_some_iff.mpr ⟨push, running, Enqueue.ticket_of_unpublished unpublished⟩

theorem waiting_unique (sound : Sound depth queue) {id other pos : Nat}
    (busy : waiting queue id = some pos) (too : waiting queue other = some pos) : other = id :=
  sound.ticketed.holder_unique (held_of_waiting too) (held_of_waiting busy)

theorem producer (sound : Sound depth queue) {id : Nat} {item : Nat × Req} {pc : Enqueue}
    (running : queue.pushes id = some (item, pc)) {after : JiffyQueue Req} (moved : Option Enqueue)
    {accepted : List (Nat × Nat × Req)}
    (follows : Follows depth pc.unpublished queue.shared after)
    (kept : Kept depth after (update (waiting queue) id (moved.bind Enqueue.unpublished)))
    (ticketed : Ticketed after.tickets accepted
      (update (held queue) id (moved.bind Enqueue.ticket)))
    (pushing : ∀ later, moved = some later → after.Pushing depth id (item, later)) :
    Produced depth pc.unpublished queue ({ queue with
      shared := after
      pushes := update queue.pushes id (moved.map (item, ·))
      accepted } : Queue (code Req)) := by
  have mine : ∀ pos, pc.unpublished = some pos → waiting queue id = some pos := fun _ here =>
    Option.bind_eq_some_iff.mpr ⟨_, running, here⟩
  have pushes : ∀ other push, update queue.pushes id (moved.map (item, ·)) other = some push →
      after.Pushing depth other push := by
    refine forall_thread_update ?_ ?_
    · intro push now
      obtain ⟨later, here, rfl⟩ := Option.map_eq_some_iff.mp now
      exact pushing later here
    · intro other push different busy
      refine (sound.pushing other push busy).frame follows.linked follows.tickets ?_
      intro pos theirs
      refine follows.slot pos fun here => different ?_
      exact sound.waiting_unique (mine pos here) (Option.bind_eq_some_iff.mpr ⟨_, busy, theirs⟩)
  refine ⟨?_, follows⟩
  exact {
    kept := by
      unfold waiting
      rw [bind_update queue.pushes, Option.bind_map]
      exact kept
    readPos := follows.readPos.trans sound.readPos
    order := sound.order.trans follows.tickets
    ticketed := by
      unfold held
      rw [bind_update queue.pushes, Option.bind_map]
      exact ticketed
    pushing := pushes
    popping := fun pc busy => (sound.popping pc busy).follows follows fun pos here =>
      (sound.kept.unwritten id pos (mine pos here)).2.2 }

section Push

variable (sound : Sound depth queue) {id : Nat} {item : Nat × Req} {pc : Enqueue}
  (running : queue.pushes id = some (item, pc))

include running in
theorem held_running : held queue id = pc.ticket := by
  unfold held
  rw [running]
  rfl

include running in
theorem waiting_running : waiting queue id = pc.unpublished := by
  unfold waiting
  rw [running]
  rfl

include sound running in
theorem goOn {after : JiffyQueue Req} {later : Enqueue} (same : later.ticket = pc.ticket)
    (follows : Follows depth pc.unpublished queue.shared after)
    (tickets : after.tickets = queue.shared.tickets)
    (kept : Kept depth after (update (waiting queue) id later.unpublished))
    (reached : after.Reached depth id item later) :
    Produced depth pc.unpublished queue (queue.pushed id item (.more later, after)).2 := by
  refine sound.producer running (some later) follows kept ?_ ?_
  · have unchanged : update (held queue) id ((some later).bind Enqueue.ticket) = held queue :=
      update_eq_self_iff.mpr (same.trans (held_running running).symm)
    rw [unchanged, tickets]
    exact sound.ticketed
  · rintro _ ⟨⟩
    have before := sound.pushing id _ running
    refine ⟨before.caller, ?_, reached⟩
    intro pos mine
    rw [tickets]
    exact before.granted pos (same.symm.trans mine)

include sound running in
theorem walk {after : JiffyQueue Req} {later : Enqueue} (same : later.ticket = pc.ticket)
    (too : later.unpublished = pc.unpublished) (chained : after.Chained depth)
    (follows : Follows depth none queue.shared after)
    (tickets : after.tickets = queue.shared.tickets) (tail : after.tail = queue.shared.tail)
    (reached : after.Reached depth id item later) :
    Produced depth pc.unpublished queue (queue.pushed id item (.more later, after)).2 := by
  have unchanged : update (waiting queue) id later.unpublished = waiting queue :=
    update_eq_self_iff.mpr (too.trans (waiting_running running).symm)
  refine sound.goOn running same ?_ tickets ?_ reached
  · exact { follows with slot := fun pos _ => follows.slot pos nofun }
  · rw [unchanged]
    exact sound.kept.grow chained follows tickets tail

include sound running in
theorem finish {after : JiffyQueue Req} {pos : Nat} (mine : pc.ticket = some pos)
    (follows : Follows depth pc.unpublished queue.shared after)
    (tickets : after.tickets = queue.shared.tickets)
    (kept : Kept depth after (update (waiting queue) id none)) :
    Produced depth pc.unpublished queue (queue.pushed id item (.done true, after)).2 := by
  refine sound.producer running none follows kept ?_ nofun
  rw [tickets]
  exact sound.ticketed.accept ((held_running running).trans mine)
    ((sound.pushing id _ running).granted pos mine)

include sound running in
theorem wrote (later : Enqueue) {pos current : Nat} (mine : pc.unpublished = some pos)
    (inside : current < queue.shared.linked) (holds : Holds depth current pos)
    {slot : JiffySlot Req}
    (empty : slot.state = (queue.shared.slotAt depth pos).state)
    (same : later.ticket = some pos) (too : later.unpublished = some pos)
    (reached : ∀ after : JiffyQueue Req, after.linked = queue.shared.linked →
      after.slotAt depth pos = slot → after.Reached depth id item later) :
    Produced depth pc.unpublished queue (queue.pushed id item (.more later,
      queue.shared.setSlot current (pos - (queue.shared.buffers current).startIndex) slot)).2 := by
  have busy := (waiting_running running).trans mine
  have unchanged : update (waiting queue) id later.unpublished = waiting queue :=
    update_eq_self_iff.mpr (too.trans busy.symm)
  refine sound.goOn running (same.trans (Enqueue.ticket_of_unpublished mine).symm) ?_ rfl ?_ ?_
  · rw [mine]
    exact sound.kept.follows_setSlot inside holds slot
  · rw [unchanged]
    exact sound.kept.write busy inside holds slot
      (empty.trans (sound.kept.unwritten id pos busy).2.2)
  · refine reached _ rfl ?_
    rw [sound.kept.chained.slotAt_setSlot inside holds, update_self]

end Push

variable (sound : Sound depth queue)
include sound

theorem readPos_le : queue.shared.readPos ≤ queue.shared.tickets.length := by
  rw [sound.readPos]
  exact sound.order.length_le

theorem push {id : Nat} {item : Nat × Req} {pc : Enqueue}
    (running : queue.pushes id = some (item, pc)) :
    Produced depth pc.unpublished queue
      (queue.pushed id item (enqueue id item pc queue.shared)).2 := by
  have pushing := sound.pushing id _ running
  have reached := pushing.reached
  have chained := sound.kept.chained
  cases pc with
  | claim =>
    refine sound.producer running (some (.loadTailBuffer queue.shared.tail)) ?_ ?_ ?_ ?_
    · exact ⟨Nat.le_refl _, List.prefix_append _ _, rfl, rfl, fun _ _ => rfl⟩
    · exact sound.kept.claim (waiting_running running) item sound.readPos_le
    · have ticketed := sound.ticketed.take (held_running running) item
      rw [← sound.kept.tail] at ticketed
      exact ticketed
    · rintro _ ⟨⟩
      refine ⟨pushing.caller, ?_, trivial⟩
      rintro _ ⟨⟩
      simp [sound.kept.tail]
  | loadTailBuffer pos =>
    refine sound.walk running rfl rfl chained (.refl _) rfl rfl ?_
    dsimp only [Reached]
    split
    · exact ⟨Nat.zero_lt_of_lt chained.tailBuffer, by omega⟩
    · rename_i behind
      rw [chained.start _ chained.tailBuffer] at behind
      exact ⟨chained.tailBuffer, Nat.le_of_not_lt behind⟩
  | search pos current =>
    obtain ⟨inside, low⟩ := reached
    unfold enqueue
    dsimp only at low ⊢
    rw [chained.start current inside, chained.capacity current inside]
    split
    · rename_i holds
      split <;> exact sound.walk running rfl rfl chained (.refl _) rfl rfl ⟨inside, holds⟩
    · split
      · rename_i beyond next found
        rw [chained.next current inside] at found
        split at found
        · rename_i more
          obtain rfl := Option.some.inj found
          refine sound.walk running rfl rfl chained (.refl _) rfl rfl ⟨more, ?_⟩
          rw [Nat.succ_mul]
          omega
        · cases found
      · exact sound.walk running rfl rfl chained (.refl _) rfl rfl ⟨inside, by omega⟩
  | linkNext pos current =>
    obtain ⟨inside, low⟩ := reached
    cases linking : queue.shared.linkNext current with | mk next after =>
    obtain ⟨rfl, more, longer, follows, tickets, tail⟩ := chained.linkNext inside linking
    unfold enqueue
    dsimp only
    rw [linking]
    refine sound.walk running rfl rfl longer follows tickets tail ⟨more, ?_⟩
    rw [Nat.succ_mul]
    exact low
  | advanceTail pos current oldTail =>
    unfold enqueue
    dsimp only
    split
    · exact sound.walk running rfl rfl { chained with tailBuffer := reached.1 }
        ⟨Nat.le_refl _, List.prefix_refl _, rfl, rfl, fun _ _ => rfl⟩ rfl rfl reached
    · exact sound.walk running rfl rfl chained (.refl _) rfl rfl reached
  | writeCallerId pos current =>
    obtain ⟨inside, holds⟩ := reached
    unfold enqueue
    dsimp only
    rw [chained.slots inside holds]
    refine sound.wrote running (.writeToken pos current) rfl inside holds rfl rfl rfl
      fun after linked slot => ?_
    dsimp only [Reached]
    rw [linked, slot]
    exact ⟨inside, holds, Nat.mod_eq_of_lt pushing.caller⟩
  | writeToken pos current =>
    obtain ⟨inside, holds, callerId⟩ := reached
    unfold enqueue
    dsimp only
    rw [chained.slots inside holds]
    refine sound.wrote running (.writeData pos current) rfl inside holds rfl rfl rfl
      fun after linked slot => ?_
    dsimp only [Reached]
    rw [linked, slot]
    exact ⟨inside, holds, callerId, rfl⟩
  | writeData pos current =>
    obtain ⟨inside, holds, callerId, token⟩ := reached
    unfold enqueue
    dsimp only
    rw [chained.slots inside holds]
    refine sound.wrote running (.publish pos current) rfl inside holds rfl rfl rfl
      fun after linked slot => ?_
    dsimp only [Reached]
    rw [linked, slot]
    exact ⟨inside, holds, callerId, token, rfl⟩
  | publish pos current =>
    obtain ⟨inside, holds, callerId, token, data⟩ := reached
    have busy : waiting queue id = some pos := waiting_running running
    unfold enqueue
    dsimp only
    rw [chained.slots inside holds, callerId, token, data]
    have follows := sound.kept.follows_setSlot inside holds ⟨.set, id, item.1, some item.2⟩
    have published := sound.kept.publish busy inside holds ⟨.set, id, item.1, some item.2⟩
      (fun other too => sound.waiting_unique busy too) (pushing.granted pos rfl) rfl
    split
    · exact sound.goOn running rfl follows rfl published inside
    · exact sound.finish running rfl follows rfl published
  | loadNext pos current =>
    have idle : update (waiting queue) id none = waiting queue :=
      update_eq_self_iff.mpr (waiting_running running).symm
    unfold enqueue
    dsimp only
    split
    · exact sound.walk running rfl rfl chained (.refl _) rfl rfl reached
    · refine sound.finish running rfl (.refl _) rfl ?_
      rw [idle]
      exact sound.kept
  | preallocate pos current =>
    have idle : update (waiting queue) id none = waiting queue :=
      update_eq_self_iff.mpr (waiting_running running).symm
    cases linking : queue.shared.linkNext current with | mk next after =>
    obtain ⟨_, _, longer, follows, tickets, tail⟩ := chained.linkNext reached linking
    unfold enqueue
    dsimp only
    rw [linking]
    refine sound.finish running rfl follows tickets ?_
    rw [idle]
    exact sound.kept.grow longer follows tickets tail

theorem consumer {after : JiffyQueue Req} (moved : Option (Dequeue Req))
    (kept : Kept depth after (waiting queue)) (linked : queue.shared.linked ≤ after.linked)
    (tickets : after.tickets = queue.shared.tickets)
    (forward : queue.shared.readPos ≤ after.readPos) {popped : List (Nat × Nat × Req)}
    (readPos : after.readPos = popped.length) (order : popped <+: queue.shared.tickets)
    (unread : ∀ pos, after.readPos ≤ pos → after.slotAt depth pos = queue.shared.slotAt depth pos)
    (popping : ∀ later, moved = some later → after.Popping depth later) :
    Consumed depth queue
      ({ queue with shared := after, popping := moved, popped } : Queue (code Req)) := by
  have pushes : ∀ id push, queue.pushes id = some push → after.Pushing depth id push := by
    intro id push busy
    have whole : queue.shared.tickets <+: after.tickets := tickets ▸ List.prefix_refl _
    refine (sound.pushing id push busy).frame linked whole fun pos mine => ?_
    exact unread pos (kept.unwritten id pos (Option.bind_eq_some_iff.mpr ⟨_, busy, mine⟩)).1
  refine ⟨?_, forward, unread⟩
  exact {
    kept
    readPos
    order := by
      rw [tickets]
      exact order
    ticketed := by
      rw [tickets]
      exact sound.ticketed
    pushing := pushes
    popping }

theorem looked (moved : Option (Dequeue Req))
    (popping : ∀ later, moved = some later → queue.shared.Popping depth later) :
    Consumed depth queue ({ queue with popping := moved } : Queue (code Req)) :=
  ⟨{ sound with popping }, Nat.le_refl _, fun _ _ => rfl⟩

theorem answered_none {answer : Answer (Nat × Req)} (nothing : answer.items = []) :
    Consumed depth queue (queue.answered (.done answer, queue.shared)).2 := by
  unfold Queue.answered
  dsimp only
  rw [nothing, List.append_nil]
  exact sound.looked none nofun

theorem answered_more {later : Dequeue Req} (popping : queue.shared.Popping depth later) :
    Consumed depth queue (queue.answered (.more later, queue.shared)).2 :=
  sound.looked (some later) (by rintro _ ⟨⟩; exact popping)

theorem countFrom {pos buffer number : Nat}
    (counting : queue.shared.Popping depth (.count pos buffer number)) :
    Consumed depth queue (queue.answered (queue.shared.countFrom pos buffer number)).2 := by
  have chained := sound.kept.chained
  obtain ⟨inside, low, high, numbered, available⟩ := counting
  unfold JiffyQueue.countFrom
  dsimp only
  split
  · rename_i beyond
    rw [chained.start buffer inside, chained.bufferCapacity] at beyond
    split
    · exact sound.answered_none rfl
    · rename_i next found
      rw [chained.next buffer inside] at found
      split at found
      · rename_i more
        obtain rfl := Option.some.inj found
        refine sound.answered_more ⟨more, ?_, ?_, numbered, available⟩
        · rw [Nat.succ_mul]
          omega
        · rw [Nat.succ_mul]
          omega
      · cases found
  · rename_i within
    have holds : Holds depth buffer pos := by
      rw [chained.start buffer inside, chained.bufferCapacity] at within
      exact ⟨low, by omega⟩
    rw [chained.slots inside holds]
    split
    · rename_i set
      have wrapped := Nat.mod_le (number + 1) (2 ^ 32)
      refine sound.answered_more ⟨inside, Nat.le_succ_of_le low, holds.2, by omega, ?_⟩
      intro other unread before
      obtain rfl | earlier := Nat.eq_or_lt_of_le (Nat.le_of_lt_succ before)
      · exact set
      · exact available other unread earlier
    · exact sound.answered_none rfl

theorem startCounting :
    queue.shared.Popping depth (.count queue.shared.readPos queue.shared.headBuffer 0) :=
  ⟨sound.kept.chained.headBuffer, sound.kept.head.1, sound.kept.head.2, Nat.le_refl _,
    fun _ unread before => absurd before (Nat.not_lt_of_le unread)⟩

theorem pop {pc : Dequeue Req} (running : queue.popping = some pc) :
    Consumed depth queue (queue.answered (dequeue pc queue.shared)).2 := by
  have popping := sound.popping pc running
  have chained := sound.kept.chained
  have inside := chained.headBuffer
  cases pc with
  | start =>
    unfold dequeue
    dsimp only
    split
    · rename_i full
      split
      · exact sound.answered_none rfl
      · rename_i next found
        rw [chained.bufferCapacity] at full
        exact sound.consumer (some .start) (sound.kept.advance full found) (Nat.le_refl _) rfl
          (Nat.le_refl _) sound.readPos sound.order (fun _ _ => rfl) (by rintro _ ⟨⟩; trivial)
    · rename_i within
      have holds : Holds depth queue.shared.headBuffer queue.shared.readPos := by
        rw [chained.start _ inside, chained.bufferCapacity] at within
        exact ⟨sound.kept.head.1, by have := sound.kept.head.1; omega⟩
      rw [chained.slots inside holds]
      split
      · rename_i set
        exact sound.answered_more ⟨holds, set⟩
      · exact sound.answered_none rfl
  | readCallerId =>
    unfold dequeue
    dsimp only
    rw [chained.slots inside popping.1]
    exact sound.answered_more ⟨popping, rfl⟩
  | readToken callerId =>
    unfold dequeue
    dsimp only
    rw [chained.slots inside popping.1.1]
    exact sound.answered_more ⟨popping.1, popping.2, rfl⟩
  | readData callerId token =>
    unfold dequeue
    dsimp only
    rw [chained.slots inside popping.1.1]
    split
    · exact sound.answered_none rfl
    · rename_i data here
      exact sound.answered_more ⟨popping.1, popping.2.1, popping.2.2, here⟩
  | markHandled callerId token data =>
    obtain ⟨⟨holds, set⟩, owner, given, content⟩ := popping
    obtain ⟨id, item, ticket, slot⟩ := sound.kept.stored _ (Nat.le_refl _) set
    rw [slot] at owner given content
    obtain rfl : id = callerId := owner
    obtain rfl : item.1 = token := given
    obtain rfl : item.2 = data := Option.some.inj content
    refine sound.consumer none (sound.kept.consume holds set _) (Nat.le_refl _) rfl
      (Nat.le_succ _) ?_ ?_ ?_ nofun
    · simp [Answer.items, sound.readPos]
    · rw [sound.readPos] at ticket
      exact prefix_snoc sound.order ticket
    · intro pos read
      have apart : pos ≠ queue.shared.readPos := Nat.ne_of_gt read
      exact (congrFun (chained.slotAt_setSlot inside holds _) pos).trans (update_of_ne apart ..)
  | startCount => exact sound.countFrom sound.startCounting
  | count pos buffer number => exact sound.countFrom popping

end Sound

/-- `create` makes this many callers, and takes at most `u16::MAX`. -/
def Registered (maxCallers : Nat) (_ : Queue (code Req)) : Queue.Action (code Req) → Prop
  | .startPush id _ => id < maxCallers
  | .push _ | .startPop _ | .pop => True

instance (maxCallers : Nat) (queue : Queue (code Req)) :
    (action : Queue.Action (code Req)) → Decidable (Registered maxCallers queue action)
  | .startPush id _ => inferInstanceAs (Decidable (id < maxCallers))
  | .push _ | .startPop _ | .pop => inferInstanceAs (Decidable True)

namespace Sound

variable {queue : Queue (code Req)} {maxCallers : Nat}

theorem startPush (sound : Sound depth queue) {id : Nat} (small : id < 2 ^ 16) (item : Nat × Req)
    (idle : queue.pushes id = none) : Sound depth (queue.startPush id item) := by
  have none_held : update (held queue) id none = held queue :=
    update_eq_self_iff.mpr (by simp [held, idle])
  have none_waiting : update (waiting queue) id none = waiting queue :=
    update_eq_self_iff.mpr (by simp [waiting, idle])
  have same : waiting (queue.startPush id item) = waiting queue :=
    (bind_update queue.pushes id (some (item, Enqueue.claim)) (·.2.unpublished)).trans none_waiting
  have too : held (queue.startPush id item) = held queue :=
    (bind_update queue.pushes id (some (item, Enqueue.claim)) (·.2.ticket)).trans none_held
  exact { sound with
    kept := by
      rw [same]
      exact sound.kept
    ticketed := by
      rw [too]
      exact sound.ticketed
    pushing := by
      refine forall_thread_update ?_ fun other push _ busy => sound.pushing other push busy
      rintro _ ⟨⟩
      exact ⟨small, nofun, trivial⟩ }

theorem startPop (sound : Sound depth queue) (query : Query) :
    Sound depth (queue.startPop query) := by
  refine (sound.looked (some ((code Req).startPop query)) ?_).sound
  rintro _ ⟨⟩
  cases query <;> trivial

/-- A step of a registered producer or of the consumer keeps the queue sound. -/
theorem step (sound : Sound depth queue) (few : maxCallers < 2 ^ 16)
    (action : Queue.Action (code Req)) (registered : Registered maxCallers queue action) :
    Sound depth (queue.step action) := by
  refine Queue.step_invariant sound ?_ (fun _ _ _ _ running => (sound.push running).sound)
    (fun query _ => sound.startPop query) (fun _ running => (sound.pop running).sound)
  rintro id item rfl idle
  exact sound.startPush (Nat.lt_trans registered few) item idle

end Sound

/-! How far a thread is from its return. -/

/-- An `enqueue` with a position returns after this many of its steps. -/
def Enqueue.left (depth : Nat) : Enqueue → Nat
  | .claim => 0
  | .loadTailBuffer pos => 2 * (pos / depth) + 11
  | .search pos current => 2 * (pos / depth - current) + 10
  | .linkNext pos current => 2 * (pos / depth - current) + 9
  | .advanceTail .. => 7
  | .writeCallerId .. => 6
  | .writeToken .. => 5
  | .writeData .. => 4
  | .publish .. => 3
  | .loadNext .. => 2
  | .preallocate .. => 1

theorem Enqueue.left_pos {pc : Enqueue} {pos : Nat} (busy : pc.ticket = some pos) :
    0 < pc.left depth := by
  cases pc <;> first | cases busy; done | exact Nat.succ_pos _

theorem Enqueue.left_le {pc : Enqueue} {pos : Nat} (busy : pc.ticket = some pos) :
    pc.left depth ≤ 2 * (pos / depth) + 11 := by
  cases pc <;> cases busy <;> dsimp only [Enqueue.left] <;> omega

theorem enqueue_left {queue : JiffyQueue Req} (chained : queue.Chained depth) (positive : 0 < depth)
    {id : Nat} {item : Nat × Req} {pc : Enqueue} {pos : Nat} (busy : pc.ticket = some pos)
    (reached : queue.Reached depth id item pc) :
    (queue.enqueue id item pc).1 = .done true ∨
      ∃ later, (queue.enqueue id item pc).1 = .more later ∧ later.ticket = some pos ∧
        later.left depth < pc.left depth := by
  cases pc with
  | claim => cases busy
  | loadTailBuffer place =>
    refine .inr ⟨_, rfl, busy, ?_⟩
    dsimp only [Enqueue.left]
    omega
  | search place current =>
    cases busy
    obtain ⟨inside, low⟩ := reached
    refine .inr ?_
    dsimp only [enqueue]
    rw [chained.start current inside, chained.capacity current inside]
    split
    · split
      · exact ⟨_, rfl, rfl, by dsimp only [Enqueue.left]; omega⟩
      · exact ⟨_, rfl, rfl, by dsimp only [Enqueue.left]; omega⟩
    · have beyond : current + 1 ≤ pos / depth := by
        rw [Nat.le_div_iff_mul_le positive, Nat.succ_mul]
        omega
      split
      · rename_i next found
        rw [chained.next current inside] at found
        split at found
        · obtain rfl := Option.some.inj found
          exact ⟨_, rfl, rfl, by dsimp only [Enqueue.left]; omega⟩
        · cases found
      · exact ⟨_, rfl, rfl, by dsimp only [Enqueue.left]; omega⟩
  | linkNext place current =>
    cases busy
    obtain ⟨inside, low⟩ := reached
    have beyond : current + 1 ≤ pos / depth := by
      rw [Nat.le_div_iff_mul_le positive, Nat.succ_mul]
      exact low
    cases linking : queue.linkNext current with | mk next after =>
    obtain ⟨rfl, _⟩ := chained.linkNext inside linking
    dsimp only [enqueue]
    rw [linking]
    exact .inr ⟨_, rfl, rfl, by dsimp only [Enqueue.left]; omega⟩
  | advanceTail place current oldTail | writeCallerId place current | writeToken place current
  | writeData place current => exact .inr ⟨_, rfl, busy, by dsimp only [Enqueue.left]; omega⟩
  | publish place current =>
    dsimp only [enqueue]
    split
    · exact .inr ⟨_, rfl, busy, by dsimp only [Enqueue.left]; omega⟩
    · exact .inl rfl
  | loadNext place current =>
    dsimp only [enqueue]
    split
    · exact .inr ⟨_, rfl, busy, by dsimp only [Enqueue.left]; omega⟩
    · exact .inl rfl
  | preallocate place current => exact .inl rfl

theorem JiffyQueue.Chained.starts {queue : JiffyQueue Req} (chained : queue.Chained depth) :
    ∀ (count fuel buffer : Nat), buffer + (count + 1) = queue.linked → count + 1 ≤ fuel →
      queue.starts fuel buffer = (List.range' buffer (count + 1)).map (· * depth)
  | count, fuel + 1, buffer, whole, enough => by
      have inside : buffer < queue.linked := by omega
      unfold JiffyQueue.starts
      rw [chained.start buffer inside, chained.next buffer inside, List.range'_succ, List.map_cons]
      cases count with
      | zero =>
        rw [if_neg (by omega)]
        rfl
      | succ count =>
        rw [if_pos (by omega)]
        exact congrArg _ (chained.starts count fuel (buffer + 1) (by omega) (by omega))

namespace Sound

variable {queue : Queue (code Req)} {maxCallers : Nat}

/-- An `enqueue` that has its position returns, whatever the others do in between. -/
theorem enqueue_returns (sound : Sound depth queue) (few : maxCallers < 2 ^ 16)
    (positive : 0 < depth)
    {id pos : Nat} {item : Nat × Req} {pc : Enqueue} (running : queue.pushes id = some (item, pc))
    (busy : pc.ticket = some pos) {more : List (Queue.Action (code Req))}
    (registered : Along Queue.step (Registered maxCallers) queue more)
    (enough : 2 * (pos / depth) + 11 ≤ more.countP (Queue.Action.isPush id)) :
    ∃ first, first <+: more ∧
      itemsOf id (run Queue.step queue first).accepted = itemsOf id queue.accepted ++ [item] := by
  let left (later : Queue (code Req)) : Nat := ((later.pushes id).map (·.2.left depth)).getD 0
  let waits (later : Queue (code Req)) : Prop := Sound depth later ∧ ∃ pc,
    later.pushes id = some (item, pc) ∧ pc.ticket = some pos ∧
      itemsOf id later.accepted = itemsOf id queue.accepted
  have own : ∀ (later : Queue (code Req)) (action : Queue.Action (code Req)), waits later →
      Registered maxCallers later action → action.isPush id = true →
      itemsOf id (later.step action).accepted = itemsOf id queue.accepted ++ [item] ∨
        waits (later.step action) ∧ left (later.step action) < left later := by
    rintro later action ⟨sound, pc, running, busy, same⟩ registered mine
    have after := sound.step few action registered
    cases action with
    | startPush | startPop | pop => cases mine
    | push other =>
      obtain rfl : other = id := of_decide_eq_true mine
      have stepped : later.step (.push other) =
          (later.pushed other item (later.shared.enqueue other item pc)).2 := by
        simp only [Queue.step, Queue.push, running]
      rw [stepped] at after ⊢
      have progress :=
        enqueue_left sound.kept.chained positive busy (sound.pushing other _ running).reached
      cases came : later.shared.enqueue other item pc with | mk outcome shared =>
      rw [came] at after progress
      obtain rfl | ⟨further, rfl, still, nearer⟩ := progress
      · left
        simp [Queue.pushed, same]
      · right
        refine ⟨⟨after, further, update_self .., still, same⟩, ?_⟩
        simp only [left, Queue.pushed, update_self, running]
        exact nearer
  have others : ∀ (later : Queue (code Req)) (action : Queue.Action (code Req)), waits later →
      Registered maxCallers later action → action.isPush id = false →
      waits (later.step action) ∧ left (later.step action) ≤ left later := by
    rintro later action ⟨sound, pc, running, busy, same⟩ registered foreign
    obtain ⟨still, accepted⟩ := Queue.step_keeps_push running foreign
    refine ⟨⟨sound.step few action registered, pc, still, busy, accepted.trans same⟩, ?_⟩
    simp only [left, still, running]
    exact Nat.le_refl _
  refine @run_reaches _ _ Queue.step (Registered maxCallers) waits
    (fun later => itemsOf id later.accepted = itemsOf id queue.accepted ++ [item])
    _ left ?_ own others
    _ _ ⟨sound, pc, running, busy, rfl⟩ registered ?_
  · rintro later ⟨_, pc, running, busy, _⟩
    simp only [left, running]
    exact Enqueue.left_pos busy
  · simp only [left, running]
    exact Nat.le_trans (Enqueue.left_le busy) enough

end Sound

/-- A `try_dequeue` returns after this many of its steps. -/
def Dequeue.left (depth : Nat) (queue : JiffyQueue Req) : Dequeue Req → Nat
  | .start => if queue.headBuffer * depth + depth ≤ queue.readPos then 6 else 5
  | .readCallerId => 4
  | .readToken _ => 3
  | .readData .. => 2
  | .markHandled .. => 1
  | .startCount | .count .. => 0

theorem Dequeue.left_le {queue : JiffyQueue Req} (pc : Dequeue Req) : pc.left depth queue ≤ 6 := by
  cases pc with
  | start =>
    dsimp only [Dequeue.left]
    split <;> omega
  | _ => dsimp only [Dequeue.left]; omega

theorem Dequeue.left_follows {queue after : JiffyQueue Req} {place : Option Nat}
    (follows : Follows depth place queue after) (pc : Dequeue Req) :
    pc.left depth after = pc.left depth queue := by
  cases pc <;> simp only [Dequeue.left, follows.headBuffer, follows.readPos]

theorem dequeue_left {queue : JiffyQueue Req} {waiting : Nat → Option Nat}
    (kept : Kept depth queue waiting) (positive : 0 < depth) {pc : Dequeue Req}
    (trying : 0 < pc.left depth queue) :
    (∃ answer, (queue.dequeue pc).1 = .done answer) ∨
      ∃ later, (queue.dequeue pc).1 = .more later ∧ 0 < later.left depth (queue.dequeue pc).2 ∧
        later.left depth (queue.dequeue pc).2 < pc.left depth queue := by
  have chained := kept.chained
  cases pc with
  | start =>
    dsimp only [dequeue]
    split
    · rename_i full
      rw [chained.start _ chained.headBuffer, chained.bufferCapacity] at full
      split
      · exact .inl ⟨_, rfl⟩
      · rename_i next found
        rw [chained.next _ chained.headBuffer] at found
        split at found
        · obtain rfl := Option.some.inj found
          have head := kept.head
          refine .inr ⟨_, rfl, ?_⟩
          dsimp only [Dequeue.left]
          rw [if_neg (by rw [Nat.succ_mul]; omega), if_pos (by omega)]
          omega
        · cases found
    · split
      · refine .inr ⟨_, rfl, ?_⟩
        dsimp only [Dequeue.left]
        split <;> omega
      · exact .inl ⟨_, rfl⟩
  | readCallerId => exact .inr ⟨_, rfl, by dsimp only [Dequeue.left]; omega⟩
  | readToken callerId => exact .inr ⟨_, rfl, by dsimp only [Dequeue.left]; omega⟩
  | readData callerId token =>
    dsimp only [dequeue]
    split
    · exact .inl ⟨_, rfl⟩
    · exact .inr ⟨_, rfl, by dsimp only [Dequeue.left]; omega⟩
  | markHandled callerId token data => exact .inl ⟨_, rfl⟩
  | startCount | count pos buffer number => exact absurd trying (Nat.lt_irrefl 0)

theorem counted_answer {queue : Queue (code Req)} {pos buffer number : Nat}
    {answer : Answer (Nat × Req)}
    (counted : (queue.answered (queue.shared.countFrom pos buffer number)).1 = some answer) :
    answer = .count number ∧
      (queue.answered (queue.shared.countFrom pos buffer number)).2.shared = queue.shared ∧
      (queue.answered (queue.shared.countFrom pos buffer number)).2.popped = queue.popped := by
  have stopped : queue.shared.countFrom pos buffer number = (.done (.count number), queue.shared) := by
    unfold countFrom at counted ⊢
    dsimp only at counted ⊢
    split at counted
    · split at counted
      · rename_i full _ _
        rw [if_pos full]
      · cases counted
    · rename_i within
      split at counted
      · cases counted
      · rename_i unset
        rw [if_neg within, if_neg unset]
  rw [stopped] at counted ⊢
  cases counted
  exact ⟨rfl, rfl, List.append_nil _⟩

namespace Sound

variable {queue : Queue (code Req)} {maxCallers : Nat}

variable (sound : Sound depth queue)
include sound

/-- `try_dequeue` finds nothing only where nothing is published. -/
theorem empty_unpublished (positive : 0 < depth) (nothing : queue.pop.1 = some .empty) :
    (queue.shared.slotAt depth queue.shared.readPos).state ≠ .set := by
  intro set
  have chained := sound.kept.chained
  have head := sound.kept.head
  unfold Queue.pop at nothing
  split at nothing
  · cases nothing
  · rename_i pc running
    have popping := sound.popping pc running
    cases pc with
    | start =>
      dsimp only [code, dequeue] at nothing
      split at nothing
      · rename_i full
        rw [chained.start _ chained.headBuffer, chained.bufferCapacity] at full
        rw [chained.next _ chained.headBuffer] at nothing
        split at nothing
        · rename_i last
          split at last
          · cases last
          · have beyond : queue.shared.linked ≤ queue.shared.readPos / depth := by
              refine Nat.le_trans (show _ ≤ queue.shared.headBuffer + 1 by omega) ?_
              rw [Nat.le_div_iff_mul_le positive, Nat.succ_mul]
              omega
            unfold slotAt at set
            rw [chained.unlinked _ beyond] at set
            cases set
        · cases nothing
      · rename_i within
        rw [chained.start _ chained.headBuffer, chained.bufferCapacity] at within
        rw [chained.slots chained.headBuffer ⟨head.1, by omega⟩, if_pos set] at nothing
        cases nothing
    | readCallerId | readToken callerId | markHandled callerId token data => cases nothing
    | readData callerId token =>
      obtain ⟨id, item, _, slot⟩ := sound.kept.stored _ (Nat.le_refl _) set
      dsimp only [code, dequeue] at nothing
      rw [chained.slots chained.headBuffer popping.1.1, slot] at nothing
      cases nothing
    | startCount | count pos buffer number =>
      cases (counted_answer nothing).1

theorem count_available {number : Nat} {later : Queue (code Req)}
    (counted : queue.pop = (some (.count number), later)) :
    later.shared = queue.shared ∧ later.popped = queue.popped ∧
      queue.shared.Available depth (queue.popped.length + number) := by
  have chained := sound.kept.chained
  have counting : ∀ pos buffer sofar, queue.shared.Popping depth (.count pos buffer sofar) →
      queue.answered (queue.shared.countFrom pos buffer sofar) = (some (.count number), later) →
      later.shared = queue.shared ∧ later.popped = queue.popped ∧
        queue.shared.Available depth (queue.popped.length + number) := by
    intro pos buffer sofar popping came
    obtain ⟨same, shared, popped⟩ := counted_answer (congrArg Prod.fst came)
    cases same
    rw [came] at shared popped
    refine ⟨shared, popped, fun other unread before => ?_⟩
    obtain ⟨_, _, _, numbered, available⟩ := popping
    rw [sound.readPos] at numbered
    exact available other unread (Nat.lt_of_lt_of_le before numbered)
  unfold Queue.pop at counted
  split at counted
  · cases counted
  · rename_i pc running
    have popping := sound.popping pc running
    cases pc with
    | start =>
      dsimp only [code, dequeue] at counted
      split at counted
      · split at counted <;> cases counted
      · split at counted <;> cases counted
    | readCallerId | readToken callerId | markHandled callerId token data => cases counted
    | readData callerId token =>
      dsimp only [code, dequeue] at counted
      split at counted <;> cases counted
    | startCount => exact counting _ _ _ sound.startCounting counted
    | count pos buffer sofar => exact counting _ _ _ popping counted

theorem step_available {pos : Nat}
    (available : queue.shared.Available depth pos) (action : Queue.Action (code Req)) :
    (queue.step action).shared.Available depth pos := by
  refine @Queue.step_invariant _ (code Req) (fun later => later.shared.Available depth pos) _ _
    available (fun _ _ _ _ => available) ?_ (fun _ _ => available) ?_
  · intro id item pc _ running
    refine available.follows (sound.push running).follows fun place mine => ?_
    exact (sound.kept.unwritten id place ((waiting_running running).trans mine)).2.2
  · intro pc running other unread before
    have consumed := sound.pop running
    have set := available other (Nat.le_trans consumed.forward unread) before
    exact (congrArg JiffySlot.state (consumed.unread other unread)).trans set

/-- A `try_dequeue` returns, whatever the others do in between. -/
theorem dequeue_returns (few : maxCallers < 2 ^ 16)
    (positive : 0 < depth) {pc : Dequeue Req} (running : queue.popping = some pc)
    (trying : 0 < pc.left depth queue.shared) {more : List (Queue.Action (code Req))}
    (registered : Along Queue.step (Registered maxCallers) queue more)
    (enough : 6 ≤ more.countP Queue.Action.isPop) :
    ∃ first, first <+: more ∧ (run Queue.step queue first).popping = none := by
  let left (later : Queue (code Req)) : Nat := (later.popping.map (·.left depth later.shared)).getD 0
  let tries (later : Queue (code Req)) : Prop := Sound depth later ∧ 0 < left later
  have own : ∀ (later : Queue (code Req)) (action : Queue.Action (code Req)), tries later →
      Registered maxCallers later action → action.isPop = true →
      (later.step action).popping = none ∨
        tries (later.step action) ∧ left (later.step action) < left later := by
    rintro later action ⟨sound, trying⟩ registered mine
    have after := sound.step few action registered
    cases action with
    | startPush | push | startPop => cases mine
    | pop =>
      cases running : later.popping with
      | none => simp [left, running] at trying
      | some pc =>
        have stepped : later.step .pop = (later.answered (later.shared.dequeue pc)).2 := by
          simp only [Queue.step, Queue.pop, running]
        simp only [left, running] at trying ⊢
        rw [stepped] at after ⊢
        have progress := dequeue_left sound.kept positive trying
        cases came : later.shared.dequeue pc with | mk outcome shared =>
        rw [came] at after progress
        obtain ⟨answer, rfl⟩ | ⟨further, rfl, still, nearer⟩ := progress
        · exact .inl rfl
        · exact .inr ⟨⟨after, still⟩, nearer⟩
  have others : ∀ (later : Queue (code Req)) (action : Queue.Action (code Req)), tries later →
      Registered maxCallers later action → action.isPop = false →
      tries (later.step action) ∧ left (later.step action) ≤ left later := by
    rintro later action ⟨sound, trying⟩ registered foreign
    have same : left (later.step action) = left later := by
      cases action with
      | startPush id item =>
        simp only [Queue.step]
        split <;> rfl
      | push id =>
        simp only [Queue.step, Queue.push]
        split
        · rfl
        · rename_i item pc running
          have kept : (later.pushed id item (later.shared.enqueue id item pc)).2.popping =
              later.popping := by
            obtain ⟨progress, shared⟩ := later.shared.enqueue id item pc
            cases progress <;> rfl
          simp only [left, kept, Dequeue.left_follows (sound.push running).follows]
      | startPop query =>
        simp only [Queue.step]
        split
        · rename_i idle
          simp [left, Option.isNone_iff_eq_none.mp idle] at trying
        · rfl
      | pop => cases foreign
    exact ⟨⟨sound.step few action registered, by rw [same]; exact trying⟩, Nat.le_of_eq same⟩
  refine @run_reaches _ _ Queue.step (Registered maxCallers) tries
    (fun later => later.popping = none) _ left (fun _ holds => holds.2) own others
    _ _ ⟨sound, ?_⟩ registered ?_
  · simp only [left, running]
    exact trying
  · simp only [left, running]
    exact Nat.le_trans (Dequeue.left_le pc) enough

/-- While published requests are left, no `try_dequeue` comes back without one. -/
theorem available_dequeued (few : maxCallers < 2 ^ 16)
    (positive : 0 < depth) {pos : Nat} (available : queue.shared.Available depth pos)
    {more : List (Queue.Action (code Req))}
    (registered : Along Queue.step (Registered maxCallers) queue more) :
    Along Queue.step (fun now action => action = .pop → now.pop.1 = some .empty →
      pos ≤ now.popped.length) queue more := by
  have preserved : ∀ (now : Queue (code Req)) (action : Queue.Action (code Req)),
      Sound depth now ∧ now.shared.Available depth pos → Registered maxCallers now action →
      Sound depth (now.step action) ∧ (now.step action).shared.Available depth pos :=
    fun _ action holds registered =>
      ⟨holds.1.step few action registered, holds.1.step_available holds.2 action⟩
  refine along_of_invariant preserved ?_ ⟨sound, available⟩ registered
  rintro now action ⟨sound, available⟩ _ rfl nothing
  by_contra early
  refine sound.empty_unpublished positive nothing (available _ (Nat.le_refl _) ?_)
  rw [sound.readPos]
  exact Nat.lt_of_not_le early

end Sound

theorem sound_run (Req : Type) (ringDepth : Nat) {maxCallers : Nat} (few : maxCallers < 2 ^ 16)
    {actions : List (Queue.Action (code Req))}
    (registered : Along Queue.step (Registered maxCallers) (Queue.new (new Req ringDepth))
      actions) :
    Sound ringDepth (run Queue.step (Queue.new (new Req ringDepth)) actions) := by
  have preserved : ∀ (queue : Queue (code Req)) (action : Queue.Action (code Req)),
      Sound ringDepth queue → Registered maxCallers queue action →
      Sound ringDepth (queue.step action) :=
    fun _ action sound registered => sound.step few action registered
  exact run_invariant preserved (.new Req ringDepth) registered

/-- Requests are returned in the order of their positions, which are those of the calls;
`find_or_create_buffer` finds its buffer in a bounded number of steps; `try_dequeue` finds nothing
only where a caller is still writing; what `count_available` answers can be dequeued. -/
theorem jiffy_exactly_once {maxCallers ringDepth : Nat} (few : maxCallers < 2 ^ 16)
    (deep : 4 ≤ ringDepth) (actions : List (Queue.Action (code Req)))
    (registered : Along Queue.step (Registered maxCallers) (Queue.new (new Req ringDepth))
      actions) :
    let queue : Queue (code Req) :=
      run Queue.step (Queue.new (new Req ringDepth)) actions
    (∀ fuel, queue.shared.linked ≤ fuel →
      queue.shared.starts fuel 0 = (List.range queue.shared.linked).map (· * ringDepth)) ∧
    (∀ id item pos current, queue.pushes id = some (item, .writeCallerId pos current) →
      current < queue.shared.linked ∧ (queue.shared.buffers current).startIndex ≤ pos ∧
        pos < (queue.shared.buffers current).startIndex + ringDepth) ∧
    (∀ id item pc pos, queue.pushes id = some (item, pc) → pc.ticket = some pos →
      ∀ more, Along Queue.step (Registered maxCallers) queue more →
        2 * (pos / ringDepth) + 11 ≤ more.countP (Queue.Action.isPush id) →
        ∃ first, first <+: more ∧
          itemsOf id (run Queue.step queue first).accepted = itemsOf id queue.accepted ++ [item]) ∧
    queue.popped <+: queue.shared.tickets ∧
    Ticketed queue.shared.tickets queue.accepted (held queue) ∧
    (∀ pos, queue.popped.length ≤ pos → pos < queue.shared.tickets.length →
      (queue.shared.slotAt ringDepth pos).state = .set ∨ ∃ id, waiting queue id = some pos) ∧
    (queue.pop.1 = some .empty → queue.popped.length = queue.shared.tickets.length ∨
      ∃ id, waiting queue id = some queue.popped.length) ∧
    (∀ pc, queue.popping = some pc → 0 < pc.left ringDepth queue.shared →
      ∀ more, Along Queue.step (Registered maxCallers) queue more →
        6 ≤ more.countP Queue.Action.isPop →
        ∃ first, first <+: more ∧ (run Queue.step queue first).popping = none) ∧
    ∀ number later, queue.pop = (some (.count number), later) →
      ∀ more, Along Queue.step (Registered maxCallers) later more →
        Along Queue.step (fun now action => action = .pop → now.pop.1 = some .empty →
          later.popped.length + number ≤ now.popped.length) later more := by
  intro queue
  have positive : 0 < ringDepth := by omega
  have sound : Sound ringDepth queue := sound_run Req ringDepth few registered
  have chained := sound.kept.chained
  refine ⟨?_, ?_, ?_, sound.order, sound.ticketed, ?_, ?_, ?_, ?_⟩
  · intro fuel enough
    have some := chained.headBuffer
    obtain ⟨count, whole⟩ := Nat.exists_eq_add_of_lt (Nat.zero_lt_of_lt some)
    rw [Nat.zero_add] at whole
    rw [whole] at enough ⊢
    rw [List.range_eq_range']
    exact chained.starts count fuel 0 (by omega) enough
  · intro id item pos current busy
    obtain ⟨inside, holds⟩ := (sound.pushing id _ busy).reached
    rw [chained.start current inside]
    exact ⟨inside, holds⟩
  · intro id item pc pos running busy more registered enough
    exact sound.enqueue_returns few positive running busy registered enough
  · intro pos unread inside
    exact sound.kept.ready pos (sound.readPos ▸ unread) inside
  · intro nothing
    have unset := sound.empty_unpublished positive nothing
    obtain last | inside := Nat.eq_or_lt_of_le sound.order.length_le
    · exact .inl last
    · obtain set | busy := sound.kept.ready _ (Nat.le_refl _) (sound.readPos ▸ inside)
      · exact absurd set unset
      · exact .inr (sound.readPos ▸ busy)
  · intro pc running trying more registered enough
    exact sound.dequeue_returns few positive running trying registered enough
  · intro number later counted more registered
    obtain ⟨shared, popped, available⟩ := sound.count_available counted
    have after : Sound ringDepth queue.pop.2 := sound.step few .pop trivial
    rw [counted] at after
    rw [← shared, ← popped] at available
    exact after.available_dequeued few positive available registered

/-- Two callers fill the first buffer, and the first of them goes on in the next one. -/
def twoBuffers : List (Queue.Action (code Nat)) :=
  let call (id token req count : Nat) : List (Queue.Action (code Nat)) :=
    .startPush id (token, req) :: List.replicate count (.push id)
  call 0 0 10 7 ++ call 1 0 20 9 ++ call 0 1 11 7 ++ call 1 1 21 7 ++ call 0 2 12 9 ++
    .startPop .countAvailable :: List.replicate 6 .pop

theorem jiffy_exactly_once_twoBuffers :
    let queue := run Queue.step (Queue.new (new Nat 4)) twoBuffers
    queue.accepted = [(0, 0, 10), (1, 0, 20), (0, 1, 11), (1, 1, 21), (0, 2, 12)] ∧
      queue.pop.1 = some (.count 5) ∧
      queue.shared.starts 2 0 = (List.range queue.shared.linked).map (· * 4) :=
  ⟨by decide +kernel, by decide +kernel,
    (@jiffy_exactly_once Nat 2 4 (by decide) (by decide) twoBuffers (by decide +kernel)).1 2
      (by decide +kernel)⟩

end Jiffy

end Locasta.Mempc
