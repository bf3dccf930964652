import Locasta.Mempc.BbqSound

namespace Locasta.Mempc

open Data Function QueueMpsc

/-! `BbqMpsc`: the order of each caller's requests, and the tokens of the responses. -/

namespace Bbq

variable {Req : Type}

/-- From 2^34 entries on, the block size is cut to 0: no push gets an entry and no pop a request. -/
structure Barren (queue : Queue (code Req)) : Prop where
  blockSize : queue.shared.blockSize = 0
  tickets : queue.shared.tickets = []
  committed : ∀ phead, (queue.shared.block phead).committed = 0
  cached : queue.shared.cachedCommitted = 0
  accepted : queue.accepted = []
  popped : queue.popped = []
  pushes : ∀ id push, queue.pushes id = some push → push.2.ticket 0 = none
  popping : queue.popping ≠ some .readCallerId ∧ ∀ callerId, queue.popping ≠ some (.readData callerId)

namespace Barren

variable {queue : Queue (code Req)}

theorem new (Req : Type) {ringDepth : Nat} (cut : ringDepth / 4 % 2 ^ 32 = 0) :
    Barren (Queue.new (RequestRing.new Req ringDepth) : Queue (code Req)) where
  blockSize := cut
  tickets := rfl
  committed _ := rfl
  cached := rfl
  accepted := rfl
  popped := rfl
  pushes _ _ busy := by cases busy
  popping := ⟨nofun, fun _ => nofun⟩

theorem committed_setBlock {ring : RequestRing Req}
    (committed : ∀ phead, (ring.block phead).committed = 0) (phead : Nat) {block : BbqBlock}
    (empty : block.committed = 0) (other : Nat) :
    ((ring.setBlock phead block).block other).committed = 0 := by
  unfold RequestRing.setBlock RequestRing.block
  dsimp only
  by_cases same : maskOffset other 4 = maskOffset phead 4
  · rw [same, update_self]
    exact empty
  · rw [update_of_ne same]
    exact committed other

theorem push (barren : Barren queue) {id : Nat} {req : Req} {pc : TryPush}
    (running : queue.pushes id = some (req, pc)) :
    Barren (queue.pushed id req (RequestRing.tryPush id req pc queue.shared)).2 := by
  have none_held := barren.pushes id _ running
  have more : ∀ {after : TryPush}, after.ticket 0 = none → ∀ other push,
      update queue.pushes id (some (req, after)) other = some push →
      push.2.ticket 0 = none :=
    fun fact => forall_thread_update (by rintro _ ⟨⟩; exact fact)
      fun other push _ busy => barren.pushes other push busy
  cases pc with
  | loadPhead => exact { barren with pushes := more rfl }
  | loadVersion phead =>
    unfold RequestRing.tryPush
    dsimp only
    split
    · exact { barren with
        pushes := forall_thread_update nofun fun other push _ busy => barren.pushes other push busy }
    · exact { barren with pushes := more rfl }
  | allocate phead =>
    unfold RequestRing.tryPush
    dsimp only
    split
    · exact { barren with
        committed := committed_setBlock barren.committed phead (barren.committed phead)
        pushes := more rfl }
    · rename_i room
      exact absurd (barren.blockSize.le.trans (Nat.zero_le _)) room
  | advance phead =>
    unfold RequestRing.tryPush
    dsimp only
    split
    · exact { barren with pushes := more rfl }
    · exact { barren with pushes := more rfl }
  | writeCallerId phead pos => cases none_held
  | writeData phead pos => cases none_held
  | loadCommitted phead pos => cases none_held
  | storeCommitted phead pos => cases none_held

theorem pop (barren : Barren queue) {pc : TryPop} (running : queue.popping = some pc) :
    Barren (queue.answered (RequestRing.tryPop pc queue.shared)).2 := by
  have empty := barren.committed queue.shared.ctail
  have emptied : ∀ block : BbqBlock, block.committed = 0 → ∀ other,
      ((queue.shared.setBlock queue.shared.ctail block).block other).committed = 0 :=
    fun _ => committed_setBlock barren.committed queue.shared.ctail
  cases pc with
  | loadAllocated query =>
    unfold RequestRing.tryPop
    dsimp only
    rw [if_neg (by rw [barren.blockSize]; exact Nat.not_lt_zero _),
      if_neg (by rw [barren.blockSize]; exact Nat.not_lt_zero _)]
    exact { barren with popping := ⟨nofun, fun _ => nofun⟩ }
  | resetAllocated query =>
    exact { barren with committed := emptied _ empty, popping := ⟨nofun, fun _ => nofun⟩ }
  | resetCommitted query =>
    exact { barren with committed := emptied _ rfl, popping := ⟨nofun, fun _ => nofun⟩ }
  | storeVersion query =>
    cases query <;>
      exact { barren with
        committed := emptied _ empty, cached := rfl, popping := ⟨nofun, fun _ => nofun⟩ }
  | loadCommitted query =>
    unfold RequestRing.tryPop
    cases query with
    | poll =>
      exact { barren with
        cached := empty
        popped := (List.append_nil _).trans barren.popped
        popping := ⟨nofun, fun _ => nofun⟩ }
    | tryRecv =>
      dsimp only
      rw [if_pos (by rw [empty]; exact Nat.zero_le _)]
      exact { barren with
        cached := empty
        popped := (List.append_nil _).trans barren.popped
        popping := ⟨nofun, fun _ => nofun⟩ }
  | readCallerId => exact absurd running barren.popping.1
  | readData callerId => exact absurd running (barren.popping.2 callerId)

/-- With blocks of no entries nothing is pushed or popped. -/
theorem step (barren : Barren queue) (action : Queue.Action (code Req)) :
    Barren (queue.step action) :=
  Queue.step_invariant barren (fun _ _ _ _ => { barren with
      pushes := forall_thread_update (by rintro _ ⟨⟩; rfl)
        fun other push _ busy => barren.pushes other push busy })
    (fun _ _ _ _ running => barren.push running)
    (fun _ _ => { barren with popping := ⟨nofun, fun _ => nofun⟩ })
    (fun _ running => barren.pop running)

end Barren

/-- The request of a ticket can be read. -/
def RequestRing.Stored (ring : RequestRing Req) (number : Nat) : Prop :=
  ∃ phead pos id req, number = phead * ring.blockSize + pos ∧ ring.ctail ≤ phead ∧
    pos < (ring.block phead).committed ∧ ring.tickets[number]? = some (id, req) ∧
    ring.entry phead pos = ⟨id, some req⟩

/-- The requests come out in the order of the tickets, which is for each caller the order of its
calls. -/
structure Ordered (queue : Queue (code Req)) : Prop where
  order : queue.popped <+: queue.shared.tickets
  waiting : ∀ number, queue.popped.length ≤ number → number < queue.shared.tickets.length →
    (∃ id, held queue.shared.blockSize queue id = some number) ∨ queue.shared.Stored number
  free : ∀ id, held queue.shared.blockSize queue id = none →
    itemsOf id queue.shared.tickets = itemsOf id queue.accepted
  callers : ∀ id, itemsOf id queue.popped <+: itemsOf id queue.accepted

theorem Sound.ordered {shift : Nat} {queue : Queue (code Req)} (sound : Sound shift queue) :
    Ordered queue where
  order := sound.order
  waiting number late inside := by
    unfold RequestRing.Stored
    rw [sound.blockSize]
    refine (sound.ready number late inside).imp_right ?_
    rintro ⟨phead, pos, rfl, low, high, done⟩
    obtain ⟨id, req, ticket, entry⟩ := (sound.live phead low high).stored pos done
    exact ⟨phead, pos, id, req, rfl, ctail_le low, done, ticket, entry⟩
  free := by
    rw [sound.blockSize]
    exact sound.ticketed.free
  callers := sound.popped_order

theorem Barren.ordered {queue : Queue (code Req)} (barren : Barren queue) : Ordered queue where
  order := by
    rw [barren.popped]
    exact List.nil_prefix
  waiting number _ inside := by
    rw [barren.tickets] at inside
    exact absurd inside (Nat.not_lt_zero number)
  free id _ := by rw [barren.tickets, barren.accepted]
  callers id := by
    rw [barren.popped]
    exact List.nil_prefix

def TimelyStep {Resp : Type} (mpsc : QueueMpsc (code Req) Resp)
    (action : QueueMpsc.Action (code Req) Resp) : Prop :=
  ∀ step ∈ mpsc.queueAction action, Timely mpsc.queue step

/-- Along every timely run the requests come out in the order of their tickets. -/
theorem ordered_run {Resp : Type} {ringDepth : Nat} (power : ringDepth.isPowerOfTwo)
    (four : 4 ≤ ringDepth) (maxCallers maxInflight : Nat)
    {actions : List (QueueMpsc.Action (code Req) Resp)}
    (timely : Along next TimelyStep (create Req Resp maxCallers ringDepth maxInflight)
      actions) :
    Ordered (run next (create Req Resp maxCallers ringDepth maxInflight) actions).queue := by
  obtain ⟨shift, depth⟩ : ∃ shift, ringDepth = 4 * 2 ^ shift := by
    obtain ⟨exponent, rfl⟩ := power
    have two : 2 ≤ exponent := (Nat.pow_le_pow_iff_right (by decide : 1 < 2)).mp four
    refine ⟨exponent - 2, ?_⟩
    rw [show (4 : Nat) = 2 ^ 2 from rfl, ← Nat.pow_add, Nat.add_sub_cancel' two]
  by_cases width : shift < 32
  · exact (run_queue_guarded (fun _ _ sound timely => sound.step timely)
      (.new Req depth width) timely : Sound shift _).ordered
  · have cut : ringDepth / 4 % 2 ^ 32 = 0 := by
      rw [depth, Nat.mul_div_cancel_left _ (by decide)]
      exact Nat.mod_eq_zero_of_dvd (Nat.pow_dvd_pow 2 (Nat.le_of_not_lt width))
    exact (run_queue (fun _ action barren => barren.step action) (.new Req cut) actions :
      Barren _).ordered

/-- If every allocation is timely, the requests of each caller are received in the order of its
calls, each once, and the replies in theirs, each with the token of its call. -/
theorem bbq_delivery {Resp : Type} {ringDepth : Nat} (power : ringDepth.isPowerOfTwo)
    (four : 4 ≤ ringDepth) (maxCallers maxInflight : Nat)
    (actions : List (QueueMpsc.Action (code Req) Resp))
    (timely : Along next TimelyStep (create Req Resp maxCallers ringDepth maxInflight)
      actions) (id : Nat) :
    let mpsc := run next (create Req Resp maxCallers ringDepth maxInflight) actions
    let queue := mpsc.queue
    let tickets := queue.shared.tickets
    let desk := mpsc.desks id
    queue.popped <+: tickets ∧ (∀ number, queue.popped.length ≤ number → number < tickets.length →
        (∃ caller, held queue.shared.blockSize queue caller = some number) ∨
          queue.shared.Stored number) ∧
      (held queue.shared.blockSize queue id = none →
        itemsOf id tickets = itemsOf id queue.accepted) ∧
      itemsOf id queue.popped <+: itemsOf id queue.accepted ∧
      desk.tokens.length = (itemsOf id queue.accepted).length ∧
      desk.respRing.received <+: desk.respRing.sent ∧
      (∀ (index : Nat) (response : Nat × Resp), desk.respRing.sent[index]? = some response →
        desk.answered[index]? = some response.1 ∧ response.1 < (itemsOf id queue.popped).length ∧
          desk.tokens[response.1]? = some response.1) ∧
      desk.answered.Nodup := by
  intro mpsc queue tickets desk
  have ordered : Ordered queue := ordered_run power four maxCallers maxInflight timely
  have counted : mpsc.Counted ringDepth :=
    run_always (fun _ action counted => counted.next (by omega) action)
      (.create _ maxCallers power maxInflight)
  have own : desk.Counted ringDepth _ _ := counted id
  have order := ordered.callers id
  refine ⟨ordered.order, ordered.waiting, ordered.free id, order, ?_, own.ring.received, ?_,
    own.exchange.nodup⟩
  · rw [own.tokens, List.length_range]
  · intro index response here
    exact own.reply_at order.length_le here

instance {Resp : Type} (mpsc : QueueMpsc (code Req) Resp)
    (action : QueueMpsc.Action (code Req) Resp) : Decidable (TimelyStep mpsc action) :=
  inferInstanceAs (Decidable (∀ step ∈ mpsc.queueAction action, Timely mpsc.queue step))

def goOn (id count : Nat) : List (QueueMpsc.Action (code Nat) Nat) :=
  List.replicate count (.caller id)

def serve (query : Query) : List (QueueMpsc.Action (code Nat) Nat) :=
  .query query :: List.replicate 8 .server

/-- Two callers share the blocks, and one of them is passed between its two reads. -/
def passing : List (QueueMpsc.Action (code Nat) Nat) :=
  .call 0 100 :: goOn 0 2 ++ .call 1 200 :: goOn 1 7 ++ goOn 0 11 ++ .call 1 201 :: goOn 1 11 ++
    serve .tryRecv ++ serve .poll ++ serve .tryRecv ++ [.reply 0 0 300, .server, .server, .server] ++
    serve .tryRecv

theorem bbq_delivery_passing :
    let mpsc := run next (create Nat Nat 2 4 4) passing
    Along next TimelyStep (create Nat Nat 2 4 4) passing ∧
      mpsc.queue.accepted = [(1, 200), (0, 100), (1, 201)] ∧
      mpsc.queue.popped = [(1, 200), (0, 100), (1, 201)] ∧
      (mpsc.desks 0).respRing.sent = [(0, 300)] ∧
      itemsOf 1 mpsc.queue.popped <+: itemsOf 1 mpsc.queue.accepted := by
  have timely : Along next TimelyStep (create Nat Nat 2 4 4) passing := by decide +kernel
  have power : Nat.isPowerOfTwo 4 := ⟨2, rfl⟩
  have order := (bbq_delivery power (Nat.le_refl 4) 2 4 passing timely 1).2.2.2.1
  exact ⟨timely, by decide +kernel, by decide +kernel, by decide +kernel, order⟩

/-- An entry has one producer at a time, and none while its last request is unread. -/
theorem entries_owned_alone {Resp : Type} {shift : Nat} (width : shift < 32)
    (maxCallers maxInflight : Nat) (actions : List (QueueMpsc.Action (code Req) Resp))
    (timely : Along next TimelyStep (create Req Resp maxCallers (4 * 2 ^ shift) maxInflight)
      actions) :
    let queue := (run next (create Req Resp maxCallers (4 * 2 ^ shift) maxInflight) actions).queue
    queue.shared.tickets.length ≤ queue.popped.length + 4 * 2 ^ shift ∧
      ∀ id number, held (2 ^ shift) queue id = some number →
        queue.popped.length ≤ number ∧ number < queue.popped.length + 4 * 2 ^ shift ∧
        ∀ other, held (2 ^ shift) queue other = some number → id = other := by
  intro queue
  have sound : Sound shift queue :=
    run_queue_guarded (fun _ _ sound timely => sound.step timely) (.new Req rfl width) timely
  have popped := sound.popped
  have room := sound.room
  refine ⟨by omega, fun id number holding => ?_⟩
  have inside := sound.ticketed.lt_length holding
  refine ⟨?_, by omega, fun other => sound.ticketed.holder_unique holding⟩
  obtain ⟨req, phead, pos, rfl, own⟩ := sound.own_of_held holding
  have read := sound.idx_le
  have pending := own.pending
  rcases Nat.eq_or_lt_of_le (Sound.ctail_le own.low) with same | later
  · have steady : first queue = queue.shared.ctail := by
      have low := own.low
      rcases Sound.first_cases queue with here | here <;> omega
    have committed := sound.cached steady
    rw [same] at committed popped
    omega
  · have before := block_le later (2 ^ shift)
    have most := sound.cached_le
    omega

theorem entries_owned_alone_passing :
    let queue := (run next (create Nat Nat 2 (4 * 2 ^ 0) 4) passing).queue
    queue.shared.tickets.length ≤ queue.popped.length + 4 * 2 ^ 0 :=
  (entries_owned_alone (by decide) 2 4 passing (by decide +kernel)).1

/-- Before caller 0 allocates in block 0, it is filled and recycled. -/
def overtaken : List (QueueMpsc.Action (code Nat) Nat) :=
  .call 0 100 :: goOn 0 2 ++ .call 1 200 :: goOn 1 7 ++ .call 1 201 :: goOn 1 11 ++
    serve .tryRecv ++ serve .poll ++ goOn 0 5 ++ .call 0 101 :: goOn 0 11 ++
    serve .tryRecv ++ serve .tryRecv ++ [.reply 0 0 300, .server, .server, .server] ++
    [.tryRecvResponse 0, .caller 0, .caller 0]

/-- The request of the second call is received before that of the first. -/
theorem overtaken_call_breaks_order :
    let mpsc := run next (create Nat Nat 2 4 4) overtaken
    itemsOf 0 mpsc.queue.accepted = [100, 101] ∧ (mpsc.desks 0).tokens = [0, 1] ∧
      itemsOf 0 mpsc.queue.popped = [101] ∧ (mpsc.desks 0).respRing.received = [(0, 300)] ∧
      ¬ itemsOf 0 mpsc.queue.popped <+: itemsOf 0 mpsc.queue.accepted := by
  decide +kernel

end Bbq

end Locasta.Mempc
