import Locasta.Mempc.Bbq

namespace Locasta.Mempc

open Data Function

/-! The invariant of the ring of blocks.

The four blocks from `ctail` on hold the tickets that were not read; the counters of each agree
with the tickets as long as no producer allocates in a block that was emptied behind its back.
-/

namespace Bbq

variable {Req : Type}

def TryPush.ticket (size : Nat) : TryPush → Option Nat
  | .loadPhead | .loadVersion _ | .allocate _ | .advance _ => none
  | .writeCallerId phead pos | .writeData phead pos | .loadCommitted phead pos
  | .storeCommitted phead pos => some (phead * size + pos)

def held (size : Nat) (queue : Queue (code Req)) (id : Nat) : Option Nat :=
  (queue.pushes id).bind fun push => TryPush.ticket size push.2

/-- The consumer has emptied the counters of its block and not released it yet. -/
def TryPop.resetting : TryPop → Bool
  | .resetCommitted _ | .storeVersion _ => true
  | _ => false

def first (queue : Queue (code Req)) : Nat :=
  if queue.popping.any TryPop.resetting then queue.shared.ctail + 1 else queue.shared.ctail

/-- The block was not emptied since `phead` was read, and the counter does not wrap around. -/
def TryPush.Timely (queue : Queue (code Req)) : TryPush → Prop
  | .allocate phead => first queue ≤ phead ∧ (queue.shared.block phead).allocated + 1 < 2 ^ 32
  | _ => True

instance (queue : Queue (code Req)) : (pc : TryPush) → Decidable (pc.Timely queue)
  | .allocate _ => inferInstanceAs (Decidable (_ ∧ _))
  | .loadPhead | .loadVersion _ | .advance _ | .writeCallerId .. | .writeData ..
  | .loadCommitted .. | .storeCommitted .. => isTrue trivial

def Timely (queue : Queue (code Req)) : Queue.Action (code Req) → Prop
  | .push id => ∀ push ∈ queue.pushes id, push.2.Timely queue
  | _ => True

instance (queue : Queue (code Req)) :
    (action : Queue.Action (code Req)) → Decidable (Timely queue action)
  | .push id => inferInstanceAs (Decidable (∀ push ∈ queue.pushes id, push.2.Timely queue))
  | .startPush .. | .startPop _ | .pop => isTrue trivial

/-- The counters of a block agree with the tickets. -/
structure RequestRing.Live (ring : RequestRing Req) (shift phead : Nat) : Prop where
  allocated : (phead * 2 ^ shift + 2 ^ shift ≤ ring.tickets.length ∧
      2 ^ shift ≤ (ring.block phead).allocated) ∨
    (ring.tickets.length < phead * 2 ^ shift + 2 ^ shift ∧
      (ring.block phead).allocated = ring.tickets.length - phead * 2 ^ shift)
  committed_le : (ring.block phead).committed ≤ 2 ^ shift
  committed : (ring.block phead).committed ≤ ring.tickets.length - phead * 2 ^ shift
  stored : ∀ pos < (ring.block phead).committed, ∃ id req,
    ring.tickets[phead * 2 ^ shift + pos]? = some (id, req) ∧ ring.entry phead pos = ⟨id, some req⟩

/-- The entry that a producer has is its own, and not committed yet. -/
structure RequestRing.Own (ring : RequestRing Req) (shift first id : Nat) (req : Req)
    (phead pos : Nat) : Prop where
  ticket : ring.tickets[phead * 2 ^ shift + pos]? = some (id, req)
  inside : pos < 2 ^ shift
  low : first ≤ phead
  high : phead < ring.ctail + 4
  pending : (ring.block phead).committed ≤ pos

def RequestRing.Pushing (ring : RequestRing Req) (shift first id : Nat) (req : Req) : TryPush → Prop
  | .loadPhead => True
  | .loadVersion phead => phead ≤ ring.phead
  | .allocate phead => phead ≤ ring.phead ∧ phead < ring.ctail + 4
  | .advance phead => phead * 2 ^ shift + 2 ^ shift ≤ ring.tickets.length
  | .writeCallerId phead pos => ring.Own shift first id req phead pos
  | .writeData phead pos =>
    ring.Own shift first id req phead pos ∧ (ring.entry phead pos).callerId = id
  | .loadCommitted phead pos =>
    ring.Own shift first id req phead pos ∧ ring.entry phead pos = ⟨id, some req⟩
  | .storeCommitted phead pos =>
    ring.Own shift first id req phead pos ∧ ring.entry phead pos = ⟨id, some req⟩ ∧
      (ring.block phead).committed = pos

def RequestRing.Popping (ring : RequestRing Req) (shift : Nat) : TryPop → Prop
  | .loadAllocated _ | .loadCommitted _ => True
  | .resetAllocated _ => ring.consumerEntryIdx = 2 ^ shift
  | .resetCommitted _ =>
    ring.consumerEntryIdx = 2 ^ shift ∧ (ring.block ring.ctail).allocated = 0
  | .storeVersion _ =>
    ring.consumerEntryIdx = 2 ^ shift ∧ (ring.block ring.ctail).allocated = 0 ∧
      (ring.block ring.ctail).committed = 0
  | .readCallerId => ring.consumerEntryIdx < ring.cachedCommitted
  | .readData callerId =>
    ring.consumerEntryIdx < ring.cachedCommitted ∧
      (ring.entry ring.ctail ring.consumerEntryIdx).callerId = callerId

namespace RequestRing

variable {ring after : RequestRing Req} {shift : Nat}

theorem Live.of_same {phead : Nat} (live : ring.Live shift phead)
    (tickets : after.tickets = ring.tickets) (block : after.block phead = ring.block phead)
    (entries : ∀ pos < (ring.block phead).committed, after.entry phead pos = ring.entry phead pos) :
    after.Live shift phead where
  allocated := by rw [tickets, block]; exact live.allocated
  committed_le := by rw [block]; exact live.committed_le
  committed := by rw [tickets, block]; exact live.committed
  stored pos inside := by
    rw [block] at inside
    rw [tickets, entries pos inside]
    exact live.stored pos inside

theorem Pushing.of_kept {first begin id : Nat} {req : Req} {pc : TryPush}
    (pushing : ring.Pushing shift first id req pc) (tickets : ring.tickets <+: after.tickets)
    (phead : ring.phead ≤ after.phead) (ctail : ring.ctail ≤ after.ctail)
    (kept : ∀ phead pos, ring.Own shift first id req phead pos →
      begin ≤ phead ∧ after.entry phead pos = ring.entry phead pos ∧
        (after.block phead).committed ≤ pos ∧
        ((ring.block phead).committed = pos → (after.block phead).committed = pos)) :
    after.Pushing shift begin id req pc := by
  have own : ∀ phead pos, ring.Own shift first id req phead pos →
      after.Own shift begin id req phead pos := by
    intro phead pos own
    obtain ⟨low, _, pending, _⟩ := kept phead pos own
    have high := own.high
    exact ⟨getElem?_extend tickets own.ticket, own.inside, low, by omega, pending⟩
  have longer := tickets.length_le
  cases pc with
  | loadPhead => trivial
  | loadVersion p => exact Nat.le_trans pushing phead
  | allocate p => exact ⟨Nat.le_trans pushing.1 phead, by have := pushing.2; omega⟩
  | advance p => exact Nat.le_trans pushing longer
  | writeCallerId p pos => exact own p pos pushing
  | writeData p pos =>
    refine ⟨own p pos pushing.1, ?_⟩
    rw [(kept p pos pushing.1).2.1]
    exact pushing.2
  | loadCommitted p pos =>
    refine ⟨own p pos pushing.1, ?_⟩
    rw [(kept p pos pushing.1).2.1]
    exact pushing.2
  | storeCommitted p pos =>
    obtain ⟨mine, entry, committed⟩ := pushing
    obtain ⟨_, same, _, equal⟩ := kept p pos mine
    exact ⟨own p pos mine, same.trans entry, equal committed⟩

theorem Popping.of_same {pc : TryPop} (popping : ring.Popping shift pc)
    (idx : after.consumerEntryIdx = ring.consumerEntryIdx)
    (cached : after.cachedCommitted = ring.cachedCommitted)
    (block : pc.resetting = true → after.block after.ctail = ring.block ring.ctail)
    (entry : ring.consumerEntryIdx < ring.cachedCommitted →
      after.entry after.ctail ring.consumerEntryIdx = ring.entry ring.ctail ring.consumerEntryIdx) :
    after.Popping shift pc := by
  cases pc with
  | loadAllocated query => trivial
  | loadCommitted query => trivial
  | resetAllocated query => exact idx.trans popping
  | resetCommitted query =>
    unfold Popping
    rw [idx, block rfl]
    exact popping
  | storeVersion query =>
    unfold Popping
    rw [idx, block rfl]
    exact popping
  | readCallerId =>
    unfold Popping
    rw [idx, cached]
    exact popping
  | readData callerId =>
    unfold Popping
    rw [idx, cached, entry popping.1]
    exact popping

end RequestRing

open RequestRing

theorem held_update (size : Nat) (queue : Queue (code Req)) (id : Nat)
    (moved : Option (Req × TryPush)) :
    held size { queue with pushes := update queue.pushes id moved } =
      update (held size queue) id (moved.bind fun push => push.2.ticket size) :=
  bind_update queue.pushes id moved _

/-- The blocks from the consumer's on agree with the tickets. -/
structure Sound (shift : Nat) (queue : Queue (code Req)) : Prop where
  blockSize : queue.shared.blockSize = 2 ^ shift
  places : queue.shared.blockSizeShift = shift
  order : queue.popped <+: queue.shared.tickets
  popped : queue.popped.length = queue.shared.ctail * 2 ^ shift + queue.shared.consumerEntryIdx
  idx_le : queue.shared.consumerEntryIdx ≤ queue.shared.cachedCommitted
  cached_le : queue.shared.cachedCommitted ≤ 2 ^ shift
  cached : first queue = queue.shared.ctail →
    queue.shared.cachedCommitted ≤ (queue.shared.block queue.shared.ctail).committed
  reached : queue.shared.phead * 2 ^ shift ≤ queue.shared.tickets.length
  within : queue.shared.tickets.length ≤ queue.shared.phead * 2 ^ shift + 2 ^ shift
  room : queue.shared.tickets.length ≤ queue.shared.ctail * 2 ^ shift + 4 * 2 ^ shift
  version : ∀ phead, queue.shared.ctail ≤ phead → phead < queue.shared.ctail + 4 →
    (queue.shared.block phead).version = lap phead
  live : ∀ phead, first queue ≤ phead → phead < queue.shared.ctail + 4 →
    queue.shared.Live shift phead
  ticketed : Ticketed queue.shared.tickets queue.accepted (held (2 ^ shift) queue)
  ready : ∀ number, queue.popped.length ≤ number → number < queue.shared.tickets.length →
    (∃ id, held (2 ^ shift) queue id = some number) ∨
      ∃ phead pos, number = phead * 2 ^ shift + pos ∧ first queue ≤ phead ∧
        phead < queue.shared.ctail + 4 ∧ pos < (queue.shared.block phead).committed
  pushes : ∀ id push, queue.pushes id = some push →
    queue.shared.Pushing shift (first queue) id push.1 push.2
  popping : ∀ pc, queue.popping = some pc → queue.shared.Popping shift pc

namespace Sound

variable {shift : Nat} {queue : Queue (code Req)}

theorem new (Req : Type) {shift ringDepth : Nat} (depth : ringDepth = 4 * 2 ^ shift)
    (width : shift < 32) :
    Sound shift (Queue.new (RequestRing.new Req ringDepth) : Queue (code Req)) := by
  have quarter : ringDepth / 4 % 2 ^ 32 = 2 ^ shift := by
    rw [depth, Nat.mul_div_cancel_left _ (by decide),
      Nat.mod_eq_of_lt (Nat.pow_lt_pow_right (by decide) width)]
  have positive := Nat.two_pow_pos shift
  exact {
    blockSize := quarter
    places := (congrArg (trailingZeros 32) quarter).trans (trailingZeros_two_pow width)
    order := List.nil_prefix
    popped := (Nat.zero_mul _).symm
    idx_le := Nat.le_refl _
    cached_le := Nat.zero_le _
    cached := fun _ => Nat.zero_le _
    reached := (Nat.zero_mul _).le
    within := Nat.zero_le _
    room := Nat.zero_le _
    version := fun phead _ high => by
      have zero : phead / 4 = 0 := Nat.div_eq_of_lt (by simpa [Queue.new, RequestRing.new] using high)
      rw [lap, Nat.shiftRight_eq_div_pow]
      change 0 = phead / 4 % 2 ^ 32
      rw [zero, Nat.zero_mod]
    live := fun phead _ _ => {
      allocated := .inr ⟨Nat.lt_of_lt_of_le positive (Nat.le_add_left ..), (Nat.zero_sub _).symm⟩
      committed_le := Nat.zero_le _
      committed := Nat.zero_le _
      stored := fun _ inside => absurd inside (Nat.not_lt_zero _) }
    ticketed := .nil
    ready := fun _ _ inside => absurd inside (Nat.not_lt_zero _)
    pushes := fun _ _ busy => by cases busy
    popping := fun _ busy => by cases busy }

theorem ticket_of (size : Nat) {id : Nat} {req : Req} {pc : TryPush}
    (running : queue.pushes id = some (req, pc)) : held size queue id = pc.ticket size := by
  rw [held, running]
  rfl

theorem first_cases (queue : Queue (code Req)) :
    first queue = queue.shared.ctail ∨ first queue = queue.shared.ctail + 1 := by
  unfold first
  split
  · exact .inr rfl
  · exact .inl rfl

section

variable {pc : TryPop} (busy : queue.popping = some pc)
include busy

theorem first_of_resetting (resetting : pc.resetting = true) :
    first queue = queue.shared.ctail + 1 := by
  unfold first
  rw [busy, Option.any_some, resetting]
  rfl

theorem first_of_steady (steady : pc.resetting = false) : first queue = queue.shared.ctail := by
  unfold first
  rw [busy, Option.any_some, steady]
  rfl

theorem block_ctail (resetting : pc.resetting = true)
    {phead : Nat} (low : first queue ≤ phead) (high : phead < queue.shared.ctail + 4)
    (block : BbqBlock) : (queue.shared.setBlock phead block).block queue.shared.ctail =
      queue.shared.block queue.shared.ctail := by
  have := first_of_resetting busy resetting
  exact block_setBlock_of_ne queue.shared _ (by omega) (by omega) (by omega)

end

theorem ctail_le {other : Nat} (low : first queue ≤ other) : queue.shared.ctail ≤ other := by
  rcases first_cases queue with same | same <;> omega

section

variable (sound : Sound shift queue)
include sound

variable {id : Nat}

theorem own_of_held {number : Nat} (holding : held (2 ^ shift) queue id = some number) :
    ∃ req phead pos, number = phead * 2 ^ shift + pos ∧
      queue.shared.Own shift (first queue) id req phead pos := by
  cases running : queue.pushes id with
  | none =>
    rw [held, running] at holding
    cases holding
  | some push =>
    obtain ⟨req, pc⟩ := push
    have pushing := sound.pushes id _ running
    rw [ticket_of _ running] at holding
    cases pc with
    | loadPhead => cases holding
    | loadVersion phead => cases holding
    | allocate phead => cases holding
    | advance phead => cases holding
    | writeCallerId phead pos =>
      cases holding
      exact ⟨req, phead, pos, rfl, pushing⟩
    | writeData phead pos =>
      cases holding
      exact ⟨req, phead, pos, rfl, pushing.1⟩
    | loadCommitted phead pos =>
      cases holding
      exact ⟨req, phead, pos, rfl, pushing.1⟩
    | storeCommitted phead pos =>
      cases holding
      exact ⟨req, phead, pos, rfl, pushing.1⟩

theorem moved {moved : Option (Req × TryPush)}
    (ticket : (moved.bind fun push => push.2.ticket (2 ^ shift)) = held (2 ^ shift) queue id)
    (pushing : ∀ push, moved = some push →
      queue.shared.Pushing shift (first queue) id push.1 push.2) :
    Sound shift { queue with pushes := update queue.pushes id moved } := by
  have same : held (2 ^ shift) { queue with pushes := update queue.pushes id moved } =
      held (2 ^ shift) queue := bind_update_same id moved ticket
  exact { sound with
    ticketed := by rw [same]; exact sound.ticketed
    ready := by rw [same]; exact sound.ready
    pushes := forall_thread_update pushing
      fun other push _ running => sound.pushes other push running }

theorem startPush (idle : queue.pushes id = none)
    (req : Req) : Sound shift (queue.startPush id req) := by
  refine sound.moved (by rw [held, idle]; rfl) ?_
  rintro _ ⟨⟩
  trivial

variable {req : Req} {pc : TryPush}

theorem stay {after : TryPush} (running : queue.pushes id = some (req, pc))
    (ticket : after.ticket (2 ^ shift) = pc.ticket (2 ^ shift))
    (pushing : queue.shared.Pushing shift (first queue) id req after) :
    Sound shift (queue.pushed id req (.more after, queue.shared)).2 := by
  refine sound.moved (ticket.trans (ticket_of _ running).symm) ?_
  rintro _ ⟨⟩
  exact pushing

theorem refuse
    (running : queue.pushes id = some (req, pc)) (ticket : pc.ticket (2 ^ shift) = none) :
    Sound shift (queue.pushed id req (.done false, queue.shared)).2 :=
  sound.moved (ticket.symm.trans (ticket_of _ running).symm) nofun

variable {phead : Nat}

/-- A block whose version is that of its lap is one of the four from `ctail` on. -/
theorem near_of_version (reached : phead ≤ queue.shared.phead)
    (version : (queue.shared.block phead).version = lap phead) :
    phead < queue.shared.ctail + 4 := by
  have positive := Nat.two_pow_pos shift
  have below : phead ≤ queue.shared.ctail + 4 := by
    apply Nat.le_trans reached
    apply le_of_block positive
    have := sound.reached
    have := sound.room
    rw [Nat.add_mul]
    omega
  refine Nat.lt_of_le_of_ne below ?_
  rintro rfl
  have same : queue.shared.block (queue.shared.ctail + 4) = queue.shared.block queue.shared.ctail := by
    unfold block
    rw [maskOffset_four, maskOffset_four, Nat.add_mod_right]
  rw [same, sound.version _ (Nat.le_refl _) (by omega)] at version
  unfold lap at version
  omega

theorem loadVersion (running : queue.pushes id = some (req, .loadVersion phead)) : Sound shift
      (queue.pushed id req (tryPush id req (.loadVersion phead) queue.shared)).2 := by
  have reached : phead ≤ queue.shared.phead := sound.pushes id _ running
  unfold tryPush
  dsimp only
  split
  · exact sound.refuse running rfl
  · rename_i version
    refine sound.stay running rfl ⟨reached, sound.near_of_version reached ?_⟩
    simpa using version

/-- A counter of a block moves, and the tickets grow with it or stay. -/
theorem allocating {ring : RequestRing Req} {allocated : Nat} {tickets : List (Nat × Req)}
    {after : TryPush} (low : first queue ≤ phead) (high : phead < queue.shared.ctail + 4)
    (grown : queue.shared.tickets <+: tickets)
    (set : ring = { queue.shared.setBlock phead { queue.shared.block phead with allocated } with
      tickets })
    (within : tickets.length ≤ queue.shared.phead * 2 ^ shift + 2 ^ shift)
    (room : tickets.length ≤ queue.shared.ctail * 2 ^ shift + 4 * 2 ^ shift)
    (counts : ∀ other, first queue ≤ other → other < queue.shared.ctail + 4 →
      (other * 2 ^ shift + 2 ^ shift ≤ tickets.length ∧ 2 ^ shift ≤ (ring.block other).allocated) ∨
        (tickets.length < other * 2 ^ shift + 2 ^ shift ∧
          (ring.block other).allocated = tickets.length - other * 2 ^ shift))
    {holder : Nat → Option Nat}
    (now : held (2 ^ shift) (queue.pushed id req (.more after, ring)).2 = holder)
    (ticketed : Ticketed tickets queue.accepted holder)
    (keeps : ∀ other number, held (2 ^ shift) queue other = some number →
      holder other = some number)
    (gives : ∀ number, queue.shared.tickets.length ≤ number → number < tickets.length →
      ∃ other, holder other = some number)
    (pushing : ring.Pushing shift (first queue) id req after) :
    Sound shift (queue.pushed id req (.more after, ring)).2 := by
  subst set
  have lowest : queue.shared.ctail ≤ phead := ctail_le low
  have longer := grown.length_le
  let ring := queue.shared.setBlock phead { queue.shared.block phead with allocated }
  have fields : ∀ other, queue.shared.ctail ≤ other → other < queue.shared.ctail + 4 →
      (ring.block other).committed = (queue.shared.block other).committed ∧
        (ring.block other).version = (queue.shared.block other).version := by
    intro other otherLow otherHigh
    by_cases here : other = phead
    · subst here
      rw [block_setBlock_self]
      exact ⟨rfl, rfl⟩
    · rw [block_setBlock_of_ne _ _ here (by omega) (by omega)]
      exact ⟨rfl, rfl⟩
  refine { sound with
    order := sound.order.trans grown
    cached := ?cached
    reached := Nat.le_trans sound.reached longer
    within := within
    room := room
    version := ?version, live := ?live
    ticketed := by rw [now]; exact ticketed
    ready := ?ready, pushes := ?pushes, popping := ?popping }
  case popping =>
    intro pc busy
    change queue.popping = some pc at busy
    refine (sound.popping pc busy).of_same rfl rfl (fun resetting => ?_) fun _ => rfl
    exact block_ctail busy resetting low high _
  case cached =>
    intro steady
    exact Nat.le_trans (sound.cached steady)
      (fields queue.shared.ctail (Nat.le_refl _) (by omega)).1.ge
  case version =>
    intro other otherLow otherHigh
    exact (fields other otherLow otherHigh).2.trans (sound.version other otherLow otherHigh)
  case live =>
    intro other otherLow otherHigh
    have live := sound.live other otherLow otherHigh
    have committed := (fields other (ctail_le otherLow) otherHigh).1
    exact {
      allocated := counts other otherLow otherHigh
      committed_le := committed.le.trans live.committed_le
      committed := (committed.le.trans live.committed).trans (Nat.sub_le_sub_right longer _)
      stored := fun place inside => by
        change place < (ring.block other).committed at inside
        rw [committed] at inside
        obtain ⟨owner, item, ticket, entry⟩ := live.stored place inside
        exact ⟨owner, item, getElem?_extend grown ticket, entry⟩ }
  case ready =>
    rw [now]
    intro number late inside
    by_cases old : number < queue.shared.tickets.length
    · rcases sound.ready number late old with ⟨other, holding⟩ | ⟨p, pos, rfl, pLow, pHigh, done⟩
      · exact .inl ⟨other, keeps other number holding⟩
      · exact .inr ⟨p, pos, rfl, pLow, pHigh, (fields p (ctail_le pLow) pHigh).1 ▸ done⟩
    · exact .inl (gives number (Nat.not_lt.mp old) inside)
  case pushes =>
    refine forall_thread_update (by rintro _ ⟨⟩; exact pushing) fun other push _ busy => ?_
    refine (sound.pushes other push busy).of_kept grown (Nat.le_refl _) (Nat.le_refl _)
      fun p place own => ?_
    have committed := (fields p (ctail_le own.low) own.high).1
    exact ⟨own.low, rfl, committed ▸ own.pending, fun equal => committed.trans equal⟩

theorem overflow {allocated : Nat}
    (running : queue.pushes id = some (req, .allocate phead)) (low : first queue ≤ phead)
    (full : phead * 2 ^ shift + 2 ^ shift ≤ queue.shared.tickets.length)
    (enough : 2 ^ shift ≤ allocated) :
    Sound shift (queue.pushed id req (.more (.advance phead), queue.shared.setBlock phead
      { queue.shared.block phead with allocated })).2 := by
  have high : phead < queue.shared.ctail + 4 := (sound.pushes id _ running).2
  have lowest : queue.shared.ctail ≤ phead := ctail_le low
  have same : held (2 ^ shift) (queue.pushed id req (.more (.advance phead),
      queue.shared.setBlock phead { queue.shared.block phead with allocated })).2 =
      held (2 ^ shift) queue :=
    bind_update_same id (some (req, TryPush.advance phead)) (ticket_of _ running).symm
  refine sound.allocating low high (List.prefix_refl _) rfl sound.within sound.room ?_ same
    sound.ticketed (fun _ _ holding => holding) (fun _ late inside => by omega) full
  intro other otherLow otherHigh
  by_cases here : other = phead
  · subst here
    rw [block_setBlock_self]
    exact .inl ⟨full, enough⟩
  · have otherLowest : queue.shared.ctail ≤ other := ctail_le otherLow
    rw [block_setBlock_of_ne _ _ here (by omega) (by omega)]
    exact (sound.live other otherLow otherHigh).allocated

theorem grant (running : queue.pushes id = some (req, .allocate phead)) (low : first queue ≤ phead)
    (reached : phead * 2 ^ shift ≤ queue.shared.tickets.length)
    (left : queue.shared.tickets.length < phead * 2 ^ shift + 2 ^ shift)
    (pos : (queue.shared.block phead).allocated = queue.shared.tickets.length - phead * 2 ^ shift) :
    Sound shift (queue.pushed id req (.more (.writeCallerId phead (queue.shared.block phead).allocated),
      { queue.shared.setBlock phead { queue.shared.block phead with
          allocated := (queue.shared.block phead).allocated + 1 } with
        tickets := queue.shared.tickets ++ [(id, req)] })).2 := by
  obtain ⟨behind, high⟩ := sound.pushes id _ running
  have lowest : queue.shared.ctail ≤ phead := ctail_le low
  have idle : held (2 ^ shift) queue id = none := ticket_of _ running
  have more : (queue.shared.tickets ++ [(id, req)]).length = queue.shared.tickets.length + 1 :=
    List.length_append
  let after : RequestRing Req :=
    { queue.shared.setBlock phead { queue.shared.block phead with
        allocated := (queue.shared.block phead).allocated + 1 } with
      tickets := queue.shared.tickets ++ [(id, req)] }
  have own : after.block phead = { queue.shared.block phead with
      allocated := (queue.shared.block phead).allocated + 1 } :=
    block_setBlock_self queue.shared phead _
  have number : phead * 2 ^ shift + (queue.shared.block phead).allocated =
      queue.shared.tickets.length := by omega
  have now : held (2 ^ shift) (queue.pushed id req
      (.more (.writeCallerId phead (queue.shared.block phead).allocated), after)).2 =
      update (held (2 ^ shift) queue) id (some queue.shared.tickets.length) := by
    refine (held_update (2 ^ shift) queue id (some (req, .writeCallerId phead _))).trans ?_
    exact congrArg (fun place => update (held (2 ^ shift) queue) id (some place)) number
  refine sound.allocating low high (List.prefix_append ..) rfl ?within ?room ?counts now
    (sound.ticketed.take idle req) ?keeps ?gives ?pushing
  case within =>
    have := Nat.mul_le_mul_right (2 ^ shift) behind
    omega
  case room =>
    have := block_le high (2 ^ shift)
    have four : (queue.shared.ctail + 4) * 2 ^ shift =
      queue.shared.ctail * 2 ^ shift + 4 * 2 ^ shift := Nat.add_mul ..
    omega
  case counts =>
    intro other otherLow otherHigh
    change (_ ∧ _ ≤ (after.block other).allocated) ∨ (_ ∧ (after.block other).allocated = _)
    by_cases here : other = phead
    · subst here
      rw [own]
      dsimp only
      omega
    · have otherLowest : queue.shared.ctail ≤ other := ctail_le otherLow
      have same : after.block other = queue.shared.block other :=
        block_setBlock_of_ne queue.shared _ here (by omega) (by omega)
      rw [same]
      rcases Nat.lt_or_gt_of_ne here with before | later
      · have := block_le before (2 ^ shift)
        rcases (sound.live other otherLow otherHigh).allocated with ⟨full, enough⟩ | ⟨short, _⟩
        · exact .inl ⟨by omega, enough⟩
        · omega
      · have := block_le later (2 ^ shift)
        rcases (sound.live other otherLow otherHigh).allocated with ⟨full, _⟩ | ⟨short, equal⟩
        · omega
        · exact .inr ⟨by omega, by omega⟩
  case keeps =>
    intro other place holding
    rwa [update_of_ne]
    rintro rfl
    rw [idle] at holding
    cases holding
  case gives =>
    intro place late inside
    exact ⟨id, by rw [update_self, show place = queue.shared.tickets.length by omega]⟩
  case pushing =>
    refine ⟨?_, by omega, low, high, ?_⟩
    · change (queue.shared.tickets ++ [(id, req)])[phead * 2 ^ shift + _]? = _
      rw [number, List.getElem?_append_right (Nat.le_refl _), Nat.sub_self]
      rfl
    · change (after.block phead).committed ≤ _
      rw [own, pos]
      exact (sound.live phead low high).committed

theorem allocate (running : queue.pushes id = some (req, .allocate phead))
    (timely : first queue ≤ phead ∧ (queue.shared.block phead).allocated + 1 < 2 ^ 32) :
    Sound shift
      (queue.pushed id req (tryPush id req (.allocate phead) queue.shared)).2 := by
  obtain ⟨low, small⟩ := timely
  obtain ⟨behind, high⟩ := sound.pushes id _ running
  have live := sound.live phead low high
  have reached : phead * 2 ^ shift ≤ queue.shared.tickets.length :=
    Nat.le_trans (Nat.mul_le_mul_right _ behind) sound.reached
  unfold tryPush
  dsimp only
  rw [Nat.mod_eq_of_lt small]
  split
  · rename_i enough
    change (queue.shared.block phead).allocated ≥ queue.shared.blockSize at enough
    rw [sound.blockSize] at enough
    refine sound.overflow running low ?_ (Nat.le_succ_of_le enough)
    rcases live.allocated with ⟨full, _⟩ | ⟨short, equal⟩ <;> omega
  · rename_i room
    change ¬ (queue.shared.block phead).allocated ≥ queue.shared.blockSize at room
    rw [sound.blockSize] at room
    rcases live.allocated with ⟨_, enough⟩ | ⟨left, equal⟩
    · omega
    · exact sound.grant running low reached left equal

theorem advance (running : queue.pushes id = some (req, .advance phead)) : Sound shift
      (queue.pushed id req (tryPush id req (.advance phead) queue.shared)).2 := by
  have full : phead * 2 ^ shift + 2 ^ shift ≤ queue.shared.tickets.length :=
    sound.pushes id _ running
  unfold tryPush
  dsimp only
  split
  · rename_i same
    have later : Sound shift (queue.pushed id req (.more .loadPhead, queue.shared)).2 :=
      sound.stay running rfl trivial
    have within := sound.within
    have positive := Nat.two_pow_pos shift
    have next : (phead + 1) * 2 ^ shift = phead * 2 ^ shift + 2 ^ shift := Nat.succ_mul ..
    rw [same] at within
    refine { later with reached := ?_, within := ?_, live := ?_, pushes := ?_, popping := ?_ }
    · change (phead + 1) * 2 ^ shift ≤ queue.shared.tickets.length
      omega
    · change queue.shared.tickets.length ≤ (phead + 1) * 2 ^ shift + 2 ^ shift
      omega
    · intro p low high
      exact (later.live p low high).of_same rfl rfl fun _ _ => rfl
    · intro other push busy
      refine (later.pushes other push busy).of_kept (List.prefix_refl _) ?_ (Nat.le_refl _)
        fun p pos own => ⟨own.low, rfl, own.pending, fun equal => equal⟩
      change queue.shared.phead ≤ phead + 1
      omega
    · intro pc busy
      exact (later.popping pc busy).of_same rfl rfl (fun _ => rfl) fun _ => rfl
  · exact sound.stay running rfl trivial

theorem write {pos : Nat} {after : TryPush} (running : queue.pushes id = some (req, pc))
    (before : pc.ticket (2 ^ shift) = some (phead * 2 ^ shift + pos))
    (ticket : after.ticket (2 ^ shift) = some (phead * 2 ^ shift + pos))
    (own : queue.shared.Own shift (first queue) id req phead pos) {entry : BbqEntry Req}
    (pushing : (queue.shared.setEntry phead pos entry).Pushing shift (first queue) id req after) :
    Sound shift (queue.pushed id req (.more after, queue.shared.setEntry phead pos entry)).2 := by
  have holding : held (2 ^ shift) queue id = some (phead * 2 ^ shift + pos) :=
    (ticket_of _ running).trans before
  have same : held (2 ^ shift) (queue.pushed id req
      (.more after, queue.shared.setEntry phead pos entry)).2 = held (2 ^ shift) queue :=
    bind_update_same id (some (req, after)) (ticket.trans holding.symm)
  have apart : ∀ other place, place < 2 ^ shift → queue.shared.ctail ≤ other →
      other < queue.shared.ctail + 4 → other * 2 ^ shift + place ≠ phead * 2 ^ shift + pos →
      (queue.shared.setEntry phead pos entry).entry other place = queue.shared.entry other place :=
    fun other place inside otherLow otherHigh different =>
      entry_setEntry_of_ne sound.places entry own.inside inside different
        (ctail_le own.low) own.high otherLow otherHigh
  have kept : ∀ other, first queue ≤ other → other < queue.shared.ctail + 4 →
      ∀ place < (queue.shared.block other).committed,
      (queue.shared.setEntry phead pos entry).entry other place =
        queue.shared.entry other place := by
    intro other otherLow otherHigh place done
    have live := sound.live other otherLow otherHigh
    have inside := Nat.lt_of_lt_of_le done live.committed_le
    refine apart other place inside (ctail_le otherLow) otherHigh fun equal => ?_
    have there : other = phead := by
      have first := le_of_block own.inside (by omega : other * 2 ^ shift ≤ phead * 2 ^ shift + pos)
      have second := le_of_block inside (by omega : phead * 2 ^ shift ≤ other * 2 ^ shift + place)
      omega
    subst there
    have := own.pending
    omega
  refine { sound with
    live := fun other otherLow otherHigh =>
      (sound.live other otherLow otherHigh).of_same rfl rfl (kept other otherLow otherHigh)
    ticketed := by rw [same]; exact sound.ticketed
    ready := by rw [same]; exact sound.ready
    pushes := ?pushes
    popping := ?popping }
  case pushes =>
    refine forall_thread_update (by rintro _ ⟨⟩; exact pushing) fun other push different busy => ?_
    refine (sound.pushes other push busy).of_kept (List.prefix_refl _) (Nat.le_refl _)
      (Nat.le_refl _) fun p place theirs => ⟨theirs.low, ?_, theirs.pending, fun equal => equal⟩
    refine apart p place theirs.inside (ctail_le theirs.low) theirs.high fun equal => ?_
    have tickets := theirs.ticket
    rw [equal, own.ticket] at tickets
    cases tickets
    exact different rfl
  case popping =>
    intro reader busy
    refine (sound.popping reader busy).of_same rfl rfl (fun _ => rfl) fun unread => ?_
    rcases first_cases queue with steady | resetting
    · exact kept _ steady.le (Nat.lt_add_of_pos_right (by decide)) _
        (Nat.lt_of_lt_of_le unread (sound.cached steady))
    · have inside := Nat.lt_of_lt_of_le unread sound.cached_le
      refine apart _ _ inside (Nat.le_refl _) (Nat.lt_add_of_pos_right (by decide)) ?_
      change queue.shared.ctail * 2 ^ shift + queue.shared.consumerEntryIdx ≠ _
      have := own.low
      have := block_le (show queue.shared.ctail < phead by omega) (2 ^ shift)
      omega

theorem commit {pos : Nat} (running : queue.pushes id = some (req, .storeCommitted phead pos)) :
    Sound shift
      (queue.pushed id req (tryPush id req (.storeCommitted phead pos) queue.shared)).2 := by
  obtain ⟨own, entry, committed⟩ := sound.pushes id _ running
  have holding : held (2 ^ shift) queue id = some (phead * 2 ^ shift + pos) := ticket_of _ running
  have low := own.low
  have high := own.high
  have lowest : queue.shared.ctail ≤ phead := ctail_le low
  have taken := (List.getElem?_eq_some_iff.mp own.ticket).1
  let after := queue.shared.setBlock phead { queue.shared.block phead with committed := pos + 1 }
  have here : after.block phead = { queue.shared.block phead with committed := pos + 1 } :=
    block_setBlock_self ..
  have others : ∀ other, other ≠ phead → queue.shared.ctail ≤ other →
      other < queue.shared.ctail + 4 → after.block other = queue.shared.block other :=
    fun other different otherLow otherHigh =>
      block_setBlock_of_ne queue.shared _ different (by omega) (by omega)
  have grows : ∀ other, queue.shared.ctail ≤ other → other < queue.shared.ctail + 4 →
      (queue.shared.block other).committed ≤ (after.block other).committed := by
    intro other otherLow otherHigh
    by_cases same : other = phead
    · subst same
      rw [here]
      dsimp only
      omega
    · rw [others other same otherLow otherHigh]
  have now : held (2 ^ shift) (queue.pushed id req (.done true, after)).2 =
      update (held (2 ^ shift) queue) id none := held_update (2 ^ shift) queue id none
  change Sound shift (queue.pushed id req (.done true, after)).2
  refine { sound with
    cached := fun steady => Nat.le_trans (sound.cached steady) (grows _ (Nat.le_refl _) (by omega))
    version := ?version, live := ?live
    ticketed := by rw [now]; exact sound.ticketed.accept holding own.ticket
    ready := ?ready, pushes := ?pushes, popping := ?popping }
  case version =>
    intro other otherLow otherHigh
    change (after.block other).version = _
    by_cases same : other = phead
    · subst same
      rw [here]
      exact sound.version other otherLow otherHigh
    · rw [others other same otherLow otherHigh]
      exact sound.version other otherLow otherHigh
  case live =>
    intro other otherLow otherHigh
    have live := sound.live other otherLow otherHigh
    by_cases same : other = phead
    · subst same
      exact {
        allocated := by
          change (_ ∧ _ ≤ (after.block other).allocated) ∨ (_ ∧ (after.block other).allocated = _)
          rw [here]
          exact live.allocated
        committed_le := by
          change (after.block other).committed ≤ _
          rw [here]
          exact own.inside
        committed := by
          change (after.block other).committed ≤ queue.shared.tickets.length - other * 2 ^ shift
          rw [here]
          dsimp only
          omega
        stored := fun place inside => by
          change place < (after.block other).committed at inside
          rw [here] at inside
          dsimp only at inside
          by_cases last : place = pos
          · subst last
            exact ⟨id, req, own.ticket, entry⟩
          · exact live.stored place (by omega) }
    · exact live.of_same rfl (others other same (ctail_le otherLow) otherHigh) fun _ _ => rfl
  case ready =>
    rw [now]
    intro number late inside
    by_cases last : number = phead * 2 ^ shift + pos
    · refine .inr ⟨phead, pos, last, low, high, ?_⟩
      change pos < (after.block phead).committed
      rw [here]
      exact Nat.lt_succ_self pos
    · rcases sound.ready number late inside with ⟨other, theirs⟩ | ⟨p, place, equal, pLow, pHigh, done⟩
      · refine .inl ⟨other, ?_⟩
        rwa [update_of_ne]
        rintro rfl
        rw [holding] at theirs
        exact last (Option.some.inj theirs).symm
      · exact .inr ⟨p, place, equal, pLow, pHigh,
          Nat.lt_of_lt_of_le done (grows p (ctail_le pLow) pHigh)⟩
  case pushes =>
    refine forall_thread_update nofun fun other push different busy => ?_
    refine (sound.pushes other push busy).of_kept (List.prefix_refl _) (Nat.le_refl _)
      (Nat.le_refl _) fun p place theirs => ?_
    have pending := theirs.pending
    by_cases same : p = phead
    · subst same
      have apart : place ≠ pos := by
        rintro rfl
        have tickets := theirs.ticket
        rw [own.ticket] at tickets
        cases tickets
        exact different rfl
      refine ⟨theirs.low, rfl, ?_, fun equal => absurd (equal.symm.trans committed) apart⟩
      change (after.block p).committed ≤ place
      rw [here]
      dsimp only
      omega
    · have block := others p same (ctail_le theirs.low) theirs.high
      refine ⟨theirs.low, rfl, ?_, fun equal => ?_⟩
      · exact Nat.le_trans (congrArg BbqBlock.committed block).le pending
      · exact (congrArg BbqBlock.committed block).trans equal
  case popping =>
    intro pc busy
    change queue.popping = some pc at busy
    refine (sound.popping pc busy).of_same rfl rfl (fun resetting => ?_) fun _ => rfl
    exact block_ctail busy resetting low high _

theorem push (running : queue.pushes id = some (req, pc)) (timely : Timely queue (.push id)) :
    Sound shift (queue.pushed id req (tryPush id req pc queue.shared)).2 := by
  have pushing := sound.pushes id _ running
  cases pc with
  | loadPhead => exact sound.stay running rfl (Nat.le_refl queue.shared.phead)
  | loadVersion phead => exact sound.loadVersion running
  | allocate phead => exact sound.allocate running (timely _ running)
  | advance phead => exact sound.advance running
  | writeCallerId phead pos =>
    refine sound.write running rfl rfl pushing ⟨⟨pushing.ticket, pushing.inside, pushing.low,
      pushing.high, pushing.pending⟩, ?_⟩
    rw [entry_setEntry_self]
  | writeData phead pos =>
    obtain ⟨own, callerId⟩ := pushing
    refine sound.write running rfl rfl own ⟨⟨own.ticket, own.inside, own.low, own.high,
      own.pending⟩, ?_⟩
    rw [entry_setEntry_self]
    exact congrArg (BbqEntry.mk · (some req)) callerId
  | loadCommitted phead pos =>
    unfold tryPush
    dsimp only
    split
    · rename_i turn
      exact sound.stay running rfl ⟨pushing.1, pushing.2, turn⟩
    · exact sound.stay running rfl pushing
  | storeCommitted phead pos => exact sound.commit running

theorem look {pc after : TryPop} (running : queue.popping = some pc)
    (steady : pc.resetting = false) (later : after.resetting = false)
    (popping : queue.shared.Popping shift after) :
    Sound shift (queue.answered (.more after, queue.shared)).2 := by
  have same : first (queue.answered (.more after, queue.shared)).2 = first queue :=
    (first_of_steady rfl later).trans (first_of_steady running steady).symm
  exact { sound with
    cached := by rw [same]; exact sound.cached
    live := by rw [same]; exact sound.live
    ready := by rw [same]; exact sound.ready
    pushes := by rw [same]; exact sound.pushes
    popping := by rintro _ ⟨⟩; exact popping }

theorem giveUp {pc : TryPop} (running : queue.popping = some pc)
    (steady : pc.resetting = false) {answer : Answer Req} (nothing : answer.items = []) :
    Sound shift (queue.answered (.done answer, queue.shared)).2 := by
  have same : first (queue.answered (.done answer, queue.shared)).2 = first queue :=
    (show first _ = queue.shared.ctail from rfl).trans (first_of_steady running steady).symm
  have popped : (queue.answered (.done answer, queue.shared)).2.popped = queue.popped := by
    change queue.popped ++ answer.items = queue.popped
    rw [nothing, List.append_nil]
  exact { sound with
    order := by rw [popped]; exact sound.order
    popped := by rw [popped]; exact sound.popped
    cached := by rw [same]; exact sound.cached
    live := by rw [same]; exact sound.live
    ready := by rw [same, popped]; exact sound.ready
    pushes := by rw [same]; exact sound.pushes
    popping := by rintro _ ⟨⟩ }

theorem note {query : Query} (running : queue.popping = some (.loadCommitted query)) :
    Sound shift { queue with
      shared := { queue.shared with
        cachedCommitted := (queue.shared.block queue.shared.ctail).committed } } := by
  have steady := first_of_steady running rfl
  have live := sound.live queue.shared.ctail steady.le (Nat.lt_add_of_pos_right (by decide))
  exact { sound with
    idx_le := Nat.le_trans sound.idx_le (sound.cached steady)
    cached_le := live.committed_le
    cached := fun _ => Nat.le_refl _
    live := fun phead low high =>
      (sound.live phead low high).of_same rfl rfl fun _ _ => rfl
    pushes := fun id push busy => (sound.pushes id push busy).of_kept (List.prefix_refl _)
      (Nat.le_refl _) (Nat.le_refl _) fun _ _ own => ⟨own.low, rfl, own.pending, fun equal => equal⟩
    popping := by
      intro pc busy
      obtain rfl : TryPop.loadCommitted query = pc :=
        Option.some.inj (running.symm.trans busy)
      trivial }

theorem take {callerId : Nat} {data : Req} (running : queue.popping = some (.readData callerId))
    (here : (queue.shared.entry queue.shared.ctail queue.shared.consumerEntryIdx).data = some data) :
    Sound shift (queue.answered (.done (.item callerId data), { queue.shared with
      consumerEntryIdx := queue.shared.consumerEntryIdx + 1 })).2 := by
  obtain ⟨unread, caller⟩ := sound.popping _ running
  have steady := first_of_steady running rfl
  have live := sound.live queue.shared.ctail steady.le (Nat.lt_add_of_pos_right (by decide))
  have counted := sound.popped
  obtain ⟨id, req, ticket, entry⟩ := live.stored _ (Nat.lt_of_lt_of_le unread (sound.cached steady))
  rw [entry] at here caller
  cases here
  cases caller
  rw [← sound.popped] at ticket
  let after : Queue (code Req) := (queue.answered (.done (.item id data), { queue.shared with
    consumerEntryIdx := queue.shared.consumerEntryIdx + 1 })).2
  have same : first after = first queue :=
    (show first after = queue.shared.ctail from rfl).trans steady.symm
  have longer : after.popped.length = queue.popped.length + 1 := List.length_append
  exact { sound with
    order := prefix_snoc sound.order ticket
    popped := by
      change after.popped.length = queue.shared.ctail * 2 ^ shift + (queue.shared.consumerEntryIdx + 1)
      omega
    idx_le := unread
    cached := by rw [same]; exact sound.cached
    live := by
      rw [same]
      exact fun phead low high => (sound.live phead low high).of_same rfl rfl fun _ _ => rfl
    ready := by
      rw [same, longer]
      exact fun number late inside => sound.ready number (by omega) inside
    pushes := by
      rw [same]
      exact fun id push busy => (sound.pushes id push busy).of_kept (List.prefix_refl _)
        (Nat.le_refl _) (Nat.le_refl _)
        fun _ _ own => ⟨own.low, rfl, own.pending, fun equal => equal⟩
    popping := by rintro _ ⟨⟩ }

variable (read : queue.shared.consumerEntryIdx = 2 ^ shift)
include read

theorem beyond
    {id phead pos : Nat} {req : Req} (own : queue.shared.Own shift (first queue) id req phead pos) :
    queue.shared.ctail + 1 ≤ phead := by
  have low := own.low
  rcases first_cases queue with steady | resetting
  · refine Nat.lt_of_le_of_ne (steady ▸ low) ?_
    rintro rfl
    have := sound.cached steady
    have := sound.idx_le
    have := own.pending
    have := own.inside
    omega
  · exact resetting ▸ low

theorem ready_beyond {number : Nat} (late : queue.popped.length ≤ number)
    (inside : number < queue.shared.tickets.length) :
    (∃ id, held (2 ^ shift) queue id = some number) ∨
      ∃ phead pos, number = phead * 2 ^ shift + pos ∧ queue.shared.ctail + 1 ≤ phead ∧
        phead < queue.shared.ctail + 4 ∧ pos < (queue.shared.block phead).committed := by
  refine (sound.ready number late inside).imp_right ?_
  rintro ⟨phead, pos, rfl, low, high, done⟩
  refine ⟨phead, pos, rfl, ?_, high, done⟩
  have live := sound.live phead low high
  have := live.committed_le
  have counted := sound.popped
  refine Nat.lt_of_le_of_ne (ctail_le low) ?_
  rintro rfl
  omega

theorem recycle {after : TryPop} {block : BbqBlock} (resetting : after.resetting = true)
    (version : block.version = (queue.shared.block queue.shared.ctail).version)
    (popping : (queue.shared.setBlock queue.shared.ctail block).Popping shift after) :
    Sound shift
      (queue.answered (.more after, queue.shared.setBlock queue.shared.ctail block)).2 := by
  have now : first (queue.answered (.more after, queue.shared.setBlock queue.shared.ctail block)).2 =
      queue.shared.ctail + 1 := first_of_resetting rfl resetting
  have others : ∀ other, queue.shared.ctail + 1 ≤ other → other < queue.shared.ctail + 4 →
      (queue.shared.setBlock queue.shared.ctail block).block other = queue.shared.block other :=
    fun other low high =>
      block_setBlock_of_ne queue.shared block (by omega) (by omega) (by omega)
  have before : first queue ≤ queue.shared.ctail + 1 := by
    rcases first_cases queue with same | same <;> omega
  refine { sound with
    cached := ?cached, version := ?version, live := ?live, ready := ?ready, pushes := ?pushes
    popping := by rintro _ ⟨⟩; exact popping }
  case cached =>
    rw [now]
    exact fun same => absurd same (Nat.succ_ne_self _)
  case version =>
    intro other low high
    change ((queue.shared.setBlock queue.shared.ctail block).block other).version = _
    by_cases here : other = queue.shared.ctail
    · subst here
      rw [block_setBlock_self, version]
      exact sound.version _ low high
    · rw [others other (Nat.lt_of_le_of_ne low (Ne.symm here)) high]
      exact sound.version _ low high
  case live =>
    rw [now]
    exact fun other low high => (sound.live other (Nat.le_trans before low) high).of_same rfl
      (others other low high) fun _ _ => rfl
  case ready =>
    rw [now]
    intro number late inside
    refine (sound.ready_beyond read late inside).imp_right ?_
    rintro ⟨phead, pos, rfl, low, high, done⟩
    exact ⟨phead, pos, rfl, low, high, others phead low high ▸ done⟩
  case pushes =>
    rw [now]
    intro id push busy
    refine (sound.pushes id push busy).of_kept (List.prefix_refl _) (Nat.le_refl _) (Nat.le_refl _)
      fun phead pos own => ?_
    have low := sound.beyond read own
    have same := others phead low own.high
    exact ⟨low, rfl, same ▸ own.pending, fun equal => same ▸ equal⟩

end

theorem lap_next (phead : Nat) : lap (phead + 4) = (lap phead + 1) % 2 ^ 32 := by
  unfold lap
  omega

theorem release (sound : Sound shift queue) {query : Query} {after : TryPop}
    (running : queue.popping = some (.storeVersion query)) (steady : after.resetting = false)
    (popping : ∀ ring : RequestRing Req, ring.Popping shift after) :
    Sound shift (queue.answered (.more after,
      { queue.shared.setBlock queue.shared.ctail { queue.shared.block queue.shared.ctail with
          version := (lap queue.shared.ctail + 1) % 2 ^ 32 } with
        ctail := queue.shared.ctail + 1, consumerEntryIdx := 0, cachedCommitted := 0 })).2 := by
  obtain ⟨read, allocated, committed⟩ := sound.popping _ running
  have before := first_of_resetting running rfl
  let ring : RequestRing Req :=
    { queue.shared.setBlock queue.shared.ctail { queue.shared.block queue.shared.ctail with
        version := (lap queue.shared.ctail + 1) % 2 ^ 32 } with
      ctail := queue.shared.ctail + 1, consumerEntryIdx := 0, cachedCommitted := 0 }
  have now : first (queue.answered (.more after, ring)).2 = queue.shared.ctail + 1 :=
    first_of_steady rfl steady
  have others : ∀ other, queue.shared.ctail + 1 ≤ other → other < queue.shared.ctail + 4 →
      ring.block other = queue.shared.block other :=
    fun other low high =>
      block_setBlock_of_ne queue.shared _ (by omega) (by omega) (by omega)
  have last : ring.block (queue.shared.ctail + 4) = { queue.shared.block queue.shared.ctail with
      version := (lap queue.shared.ctail + 1) % 2 ^ 32 } := by
    have cell : maskOffset (queue.shared.ctail + 4) 4 = maskOffset queue.shared.ctail 4 := by
      rw [maskOffset_four, maskOffset_four, Nat.add_mod_right]
    unfold block
    rw [cell]
    exact update_self ..
  have positive := Nat.two_pow_pos shift
  have room := sound.room
  have counted := sound.popped
  have next : (queue.shared.ctail + 1) * 2 ^ shift = queue.shared.ctail * 2 ^ shift + 2 ^ shift :=
    Nat.succ_mul ..
  have four : (queue.shared.ctail + 4) * 2 ^ shift = queue.shared.ctail * 2 ^ shift + 4 * 2 ^ shift :=
    Nat.add_mul ..
  refine { sound with
    popped := ?popped
    idx_le := Nat.le_refl _
    cached_le := Nat.zero_le _
    cached := fun _ => Nat.zero_le _
    room := ?room, version := ?version, live := ?live, ready := ?ready, pushes := ?pushes
    popping := by rintro _ ⟨⟩; exact popping ring }
  case popped =>
    change queue.popped.length = (queue.shared.ctail + 1) * 2 ^ shift + 0
    omega
  case room =>
    change queue.shared.tickets.length ≤ (queue.shared.ctail + 1) * 2 ^ shift + 4 * 2 ^ shift
    omega
  case version =>
    intro other low high
    change queue.shared.ctail + 1 ≤ other at low
    change other < queue.shared.ctail + 1 + 4 at high
    change (ring.block other).version = _
    by_cases here : other = queue.shared.ctail + 4
    · subst here
      rw [last, lap_next]
    · rw [others other low (by omega)]
      exact sound.version other (by omega) (by omega)
  case live =>
    rw [now]
    intro other low high
    change other < queue.shared.ctail + 1 + 4 at high
    by_cases here : other = queue.shared.ctail + 4
    · subst here
      have empty : (ring.block (queue.shared.ctail + 4)).committed = 0 := by rw [last, committed]
      exact {
        allocated := .inr ⟨by change queue.shared.tickets.length < _; omega, by
          change (ring.block (queue.shared.ctail + 4)).allocated = queue.shared.tickets.length - _
          rw [last, allocated]
          omega⟩
        committed_le := empty.le.trans (Nat.zero_le _)
        committed := empty.le.trans (Nat.zero_le _)
        stored := fun pos inside => by
          change pos < (ring.block (queue.shared.ctail + 4)).committed at inside
          omega }
    · exact (sound.live other (by omega) (by omega)).of_same rfl (others other low (by omega))
        fun _ _ => rfl
  case ready =>
    rw [now]
    intro number late inside
    refine (sound.ready_beyond read late inside).imp_right ?_
    rintro ⟨phead, pos, rfl, low, high, done⟩
    refine ⟨phead, pos, rfl, low, ?_, others phead low high ▸ done⟩
    change phead < queue.shared.ctail + 1 + 4
    omega
  case pushes =>
    rw [now]
    intro id push busy
    refine (sound.pushes id push busy).of_kept (List.prefix_refl _) (Nat.le_refl _)
      (Nat.le_succ queue.shared.ctail) fun phead pos own => ?_
    have low := sound.beyond read own
    have same := others phead low own.high
    exact ⟨low, rfl, same ▸ own.pending, fun equal => same ▸ equal⟩

theorem popping_afterAdvance (ring : RequestRing Req) (shift : Nat) (query : Query) :
    (ring.afterAdvance query).resetting = false ∧ ring.Popping shift (ring.afterAdvance query) := by
  unfold afterAdvance
  cases query with
  | poll => exact ⟨rfl, trivial⟩
  | tryRecv =>
    dsimp only
    split
    · exact ⟨rfl, trivial⟩
    · rename_i unread
      exact ⟨rfl, Nat.lt_of_not_le unread⟩

variable (sound : Sound shift queue)
include sound

theorem pop {pc : TryPop} (running : queue.popping = some pc) :
    Sound shift (queue.answered (tryPop pc queue.shared)).2 := by
  have popping := sound.popping pc running
  cases pc with
  | loadAllocated query =>
    obtain ⟨steady, known⟩ := popping_afterAdvance queue.shared shift query
    unfold tryPop
    dsimp only
    split
    · exact sound.look running rfl steady known
    · split
      · exact sound.look running rfl steady known
      · refine sound.look running rfl rfl ?_
        have := sound.idx_le
        have := sound.cached_le
        have := sound.blockSize
        change queue.shared.consumerEntryIdx = 2 ^ shift
        omega
  | resetAllocated query =>
    refine sound.recycle popping rfl rfl ⟨popping, ?_⟩
    change ((queue.shared.setBlock queue.shared.ctail _).block queue.shared.ctail).allocated = 0
    rw [block_setBlock_self]
  | resetCommitted query =>
    obtain ⟨read, allocated⟩ := popping
    refine sound.recycle read rfl rfl ?_
    refine ⟨read, ?_⟩
    change ((queue.shared.setBlock queue.shared.ctail _).block queue.shared.ctail).allocated = 0 ∧
      ((queue.shared.setBlock queue.shared.ctail _).block queue.shared.ctail).committed = 0
    rw [block_setBlock_self]
    exact ⟨allocated, rfl⟩
  | storeVersion query =>
    cases query with
    | poll => exact sound.release running rfl fun _ => trivial
    | tryRecv => exact sound.release running rfl fun _ => trivial
  | loadCommitted query =>
    have noted := sound.note running
    unfold tryPop
    cases query with
    | poll => exact noted.giveUp running rfl rfl
    | tryRecv =>
      dsimp only
      split
      · exact noted.giveUp running rfl rfl
      · rename_i unread
        exact noted.look running rfl rfl (Nat.lt_of_not_le unread)
  | readCallerId => exact sound.look running rfl rfl ⟨popping, rfl⟩
  | readData callerId =>
    unfold tryPop
    dsimp only
    split
    · exact sound.giveUp running rfl rfl
    · rename_i data here
      exact sound.take running here

theorem startPop (idle : queue.popping = none) (query : Query) :
    Sound shift (queue.startPop query) := by
  have same : first (queue.startPop query) = first queue := by
    unfold first
    rw [idle]
    rfl
  exact { sound with
    cached := by rw [same]; exact sound.cached
    live := by rw [same]; exact sound.live
    ready := by rw [same]; exact sound.ready
    pushes := by rw [same]; exact sound.pushes
    popping := by rintro _ ⟨⟩; trivial }

/-- A step keeps the queue sound unless it allocates in a block that was emptied since. -/
theorem step {action : Queue.Action (code Req)}
    (timely : Timely queue action) : Sound shift (queue.step action) :=
  Queue.step_invariant sound (fun _ req _ idle => sound.startPush idle req)
    (fun _ _ _ here running => sound.push running (here ▸ timely))
    (fun query idle => sound.startPop idle query) (fun _ running => sound.pop running)

/-- The requests come out in the order of the tickets, so those of one caller in the order of its
calls. -/
theorem popped_order (id : Nat) : itemsOf id queue.popped <+: itemsOf id queue.accepted := by
  refine sound.ticketed.served sound.order ?_ id
  intro other number holding
  obtain ⟨req, phead, pos, rfl, own⟩ := sound.own_of_held holding
  have counted := sound.popped
  have idx := sound.idx_le
  have cached := sound.cached_le
  rcases Nat.eq_or_lt_of_le (ctail_le own.low) with here | later
  · subst here
    have steady : first queue = queue.shared.ctail := Nat.le_antisymm own.low (ctail_le (Nat.le_refl _))
    have := sound.cached steady
    have := own.pending
    omega
  · have := block_le later (2 ^ shift)
    omega

end Sound

end Bbq

end Locasta.Mempc
