import Locasta.Data.FlagRing
import Locasta.Data.Queue
import Locasta.Mempc.Onesided

namespace Locasta.Mempc

open Data

/-! Channels whose callers share one request queue and have a ring of responses each.

`FetchAddMpsc` and `BbqMpsc` differ in the code of the request queue only. Neither side is dropped.
A request carries no token: both sides count the requests of each caller.
-/

/-- What a function of the interface returned. -/
inductive Outcome (Req Resp : Type) where
  | call (id : Nat) (result : Except (CallError Req) Nat)
  | tryRecvResponse (id : Nat) (result : Option (Nat × Resp))
  | tryRecv (result : Option (ReplyToken × Req))
  | poll (count : Nat)
  | reply

def ResponseRing.new (Resp : Type) (capacity : Nat) : FlagRing (Nat × Resp) :=
  .new (Nat × Resp) (maskOffset · capacity)

/-- What there is for one caller: its own fields, its response ring and its share of the server's
fields. -/
structure Desk (Resp : Type) where
  sendCount : Nat
  inflight : Nat
  maxInflight : Nat
  respRing : FlagRing (Nat × Resp)
  recvCount : Nat
  /-- The tokens of the received requests that were not replied to. -/
  handles : List Nat
  /-- The reply that is under way: which of the handles, with the token and the response. -/
  replying : Option (Nat × Nat × Resp)
  /-- Auxiliary: what the accepted calls returned, and the tokens that were replied to. -/
  tokens : List Nat
  answered : List Nat

namespace Desk

variable {Resp : Type}

def new (respRing : FlagRing (Nat × Resp)) (maxInflight : Nat) : Desk Resp where
  sendCount := 0
  inflight := 0
  maxInflight
  respRing
  recvCount := 0
  handles := []
  replying := none
  tokens := []
  answered := []

/-- The end of `call`, once `try_push` returned `Ok`. -/
def accept (desk : Desk Resp) : Desk Resp :=
  { desk with
    sendCount := desk.sendCount + 1
    inflight := desk.inflight + 1
    tokens := desk.tokens ++ [desk.sendCount] }

/-- `try_recv_response` up to the flag. -/
def startResponse (desk : Desk Resp) : Bool × Desk Resp :=
  ((desk.respRing.startPop).1, { desk with respRing := desk.respRing.startPop.2 })

def response (desk : Desk Resp) : Option (Nat × Resp) × Desk Resp :=
  match desk.respRing.pop with
  | (none, respRing) => (none, { desk with respRing })
  | (some value, respRing) =>
    (some value, { desk with respRing, inflight := desk.inflight - 1 })

def receive (desk : Desk Resp) : Desk Resp :=
  { desk with recvCount := desk.recvCount + 1, handles := desk.handles ++ [desk.recvCount] }

def startReply (desk : Desk Resp) (index token : Nat) (resp : Resp) : Desk Resp :=
  { desk with replying := some (index, token, resp) }

/-- The next access of `reply`, and whether it was the last. A full ring is tried again. -/
def reply (desk : Desk Resp) : Bool × Desk Resp :=
  match desk.replying with
  | none => (false, desk)
  | some (index, token, resp) =>
    match desk.respRing.writer with
    | .idle => (false, { desk with respRing := (desk.respRing.startPush (token, resp)).2 })
    | _ =>
      match desk.respRing.push with
      | (false, respRing) => (false, { desk with respRing })
      | (true, respRing) =>
        (true, { desk with
          respRing
          handles := desk.handles.eraseIdx index
          replying := none
          answered := desk.answered ++ [token] })

/-- The tokens of both sides are the numbers of the caller's requests. -/
structure Counted (depth accepted popped : Nat) (desk : Desk Resp) : Prop where
  ring : desk.respRing.Sound depth
  sendCount : desk.sendCount = accepted
  tokens : desk.tokens = List.range accepted
  recvCount : desk.recvCount = popped
  exchange : Exchange popped popped desk.respRing.received.length desk.handles desk.answered
  replies : desk.respRing.sent.map Prod.fst = desk.answered
  handle : ∀ index token resp, desk.replying = some (index, token, resp) →
    desk.handles[index]? = some token
  pending : ∀ value, desk.respRing.writer.pending = some value →
    ∃ index, desk.replying = some (index, value)

namespace Counted

variable {depth accepted popped : Nat} {desk : Desk Resp}

theorem new (Resp : Type) {depth : Nat} {index : Nat → Nat}
    (places : ∀ pos, index pos = pos % depth)
    (maxInflight : Nat) : Counted depth 0 0 (new (.new (Nat × Resp) index) maxInflight) where
  ring := .new places
  sendCount := rfl
  tokens := rfl
  recvCount := rfl
  exchange := .nil
  replies := rfl
  handle _ _ _ busy := by cases busy
  pending _ busy := by cases busy

variable (counted : Counted depth accepted popped desk)
include counted

theorem accept : Counted depth (accepted + 1) popped desk.accept :=
  { counted with
    sendCount := congrArg (· + 1) counted.sendCount
    tokens := by
      change desk.tokens ++ [desk.sendCount] = _
      rw [counted.tokens, counted.sendCount, List.range_succ] }

theorem startResponse (positive : 0 < depth) :
    Counted depth accepted popped desk.startResponse.2 := by
  obtain ⟨sent, received, writer⟩ := desk.respRing.startPop_writer
  unfold Desk.startResponse
  exact { counted with
    ring := counted.ring.startPop positive
    exchange := by dsimp only; rw [received]; exact counted.exchange
    replies := by dsimp only; rw [sent]; exact counted.replies
    pending := by dsimp only; rw [writer]; exact counted.pending }

theorem respRing_pop :
    Exchange popped popped desk.respRing.pop.2.received.length desk.handles desk.answered := by
  have sound := counted.ring.pop
  have sent := desk.respRing.pop_writer.1
  have length := congrArg List.length counted.replies
  rw [List.length_map] at length
  refine { counted.exchange with returned_le := ?_ }
  rw [← length, ← sent]
  exact sound.received.length_le

theorem response : Counted depth accepted popped desk.response.2 := by
  have ring := counted.ring.pop
  have exchange := counted.respRing_pop
  obtain ⟨sent, writer⟩ := desk.respRing.pop_writer
  unfold Desk.response
  split
  all_goals
    rename_i result
    rw [result] at ring exchange sent writer
    exact { counted with
      ring
      exchange
      replies := by dsimp only; rw [sent]; exact counted.replies
      pending := by dsimp only; rw [writer]; exact counted.pending }

theorem receive : Counted depth accepted (popped + 1) desk.receive :=
  { counted with
    recvCount := congrArg (· + 1) counted.recvCount
    exchange := by
      change Exchange _ _ _ (desk.handles ++ [desk.recvCount]) _
      rw [counted.recvCount]
      exact counted.exchange.request.deliver (Nat.lt_succ_self _)
    handle := fun index token resp busy =>
      getElem?_extend (List.prefix_append ..) (counted.handle index token resp busy) }

variable {index : Nat}

theorem startReply {token : Nat}
    (idle : desk.respRing.writer = .idle) (here : desk.handles[index]? = some token) (resp : Resp) :
    Counted depth accepted popped (desk.startReply index token resp) :=
  { counted with
    handle := by
      rintro _ _ _ ⟨⟩
      exact here
    pending := by
      intro value busy
      change desk.respRing.writer.pending = some value at busy
      rw [idle] at busy
      cases busy }

theorem pushing {token : Nat} {resp : Resp} (busy : desk.replying = some (index, token, resp))
    (idle : desk.respRing.writer = .idle) (positive : 0 < depth) :
    Counted depth accepted popped
      { desk with respRing := (desk.respRing.startPush (token, resp)).2 } := by
  obtain ⟨received, sent, _⟩ := desk.respRing.startPush_reader (token, resp)
  refine { counted with
    ring := counted.ring.startPush positive _
    exchange := ?_
    replies := ?_
    pending := ?_ } <;> dsimp only
  · rw [received]
    exact counted.exchange
  · rw [sent]
    exact counted.replies
  · intro value on
    unfold FlagRing.startPush at on
    split at on
    · rw [idle] at on
      cases on
    · cases on
      exact ⟨index, busy⟩

theorem reply (positive : 0 < depth) : Counted depth accepted popped desk.reply.2 := by
  have ring := counted.ring.push
  have received := desk.respRing.push_reader.1
  unfold Desk.reply
  split
  · exact counted
  · rename_i index token resp busy
    split
    · rename_i idle
      exact counted.pushing busy idle positive
    · rcases desk.respRing.push_cases with ⟨result, sent, writer⟩ | ⟨value, result, on, sent, writer⟩
      · split
        · rename_i respRing outcome
          rw [outcome] at ring received sent writer
          exact { counted with
            ring
            exchange := by dsimp only; rw [received]; exact counted.exchange
            replies := by dsimp only; rw [sent]; exact counted.replies
            pending := by dsimp only; rw [writer]; exact counted.pending }
        · rename_i outcome
          rw [outcome] at result
          cases result
      · split
        · rename_i outcome
          rw [outcome] at result
          cases result
        · rename_i respRing outcome
          rw [outcome] at ring received sent writer
          obtain ⟨_, same⟩ := counted.pending value on
          rw [busy] at same
          cases same
          exact { counted with
            ring
            exchange := by
              rw [received]
              exact counted.exchange.reply (counted.handle _ _ _ busy)
            replies := by
              rw [sent, List.map_append, counted.replies]
              rfl
            handle := fun _ _ _ later => by cases later
            pending := fun value later => by
              rw [writer] at later
              cases later }

theorem reply_at (order : popped ≤ accepted) {response : Nat × Resp}
    (here : desk.respRing.sent[index]? = some response) :
    desk.answered[index]? = some response.1 ∧ response.1 < popped ∧
      desk.tokens[response.1]? = some response.1 := by
  have answered : desk.answered[index]? = some response.1 := by
    rw [← counted.replies, List.getElem?_map, here]
    rfl
  have inside := counted.exchange.lt_of_mem_answered (List.mem_of_getElem? answered)
  refine ⟨answered, inside, ?_⟩
  rw [counted.tokens, List.getElem?_range (Nat.lt_of_lt_of_le inside order)]

end Counted

end Desk

structure QueueMpsc {Req : Type} (code : QueueCode Req) (Resp : Type) where
  numCallers : Nat
  queue : Queue code
  desks : Nat → Desk Resp
  /-- The caller whose reply the server is in. -/
  replying : Option Nat

namespace QueueMpsc

variable {Req Resp : Type} {code : QueueCode Req}

def create (Resp : Type) (shared : code.Shared) (maxCallers ringDepth maxInflight : Nat) :
    QueueMpsc code Resp where
  numCallers := maxCallers
  queue := .new shared
  desks _ := .new (ResponseRing.new Resp ringDepth) maxInflight
  replying := none

inductive Action (code : QueueCode Req) (Resp : Type) where
  | call (id : Nat) (req : Req)
  | tryRecvResponse (id : Nat)
  /-- The caller goes on with what it is in. -/
  | caller (id : Nat)
  /-- `try_recv` or `poll` -/
  | query (query : code.Query)
  | reply (id index : Nat) (resp : Resp)
  /-- The server goes on with what it is in. -/
  | server

def setDesk (mpsc : QueueMpsc code Resp) (id : Nat) (desk : Desk Resp) : QueueMpsc code Resp :=
  { mpsc with desks := Function.update mpsc.desks id desk }

def callerIdle (mpsc : QueueMpsc code Resp) (id : Nat) : Bool :=
  decide (id < mpsc.numCallers) && (mpsc.queue.pushes id).isNone &&
    (mpsc.desks id).respRing.reader.isIdle

def serverIdle (mpsc : QueueMpsc code Resp) : Bool :=
  mpsc.queue.popping.isNone && mpsc.replying.isNone

/-- `call` up to the first access. -/
def startCall (mpsc : QueueMpsc code Resp) (id : Nat) (req : Req) :
    Option (Outcome Req Resp) × QueueMpsc code Resp :=
  let desk := mpsc.desks id
  if desk.inflight ≥ desk.maxInflight then
    (some (.call id (.error (.inflightExceeded req))), mpsc)
  else (none, { mpsc with queue := mpsc.queue.startPush id req })

def call (mpsc : QueueMpsc code Resp) (id : Nat) (req : Req) :
    Option (Outcome Req Resp) × QueueMpsc code Resp :=
  let desk := mpsc.desks id
  match mpsc.queue.push id with
  | (none, queue) => (none, { mpsc with queue })
  | (some false, queue) => (some (.call id (.error (.full req))), { mpsc with queue })
  | (some true, queue) =>
    (some (.call id (.ok desk.sendCount)), { mpsc with queue }.setDesk id desk.accept)

def startResponse (mpsc : QueueMpsc code Resp) (id : Nat) :
    Option (Outcome Req Resp) × QueueMpsc code Resp :=
  match (mpsc.desks id).startResponse with
  | (true, desk) => (none, mpsc.setDesk id desk)
  | (false, desk) => (some (.tryRecvResponse id none), mpsc.setDesk id desk)

def response (mpsc : QueueMpsc code Resp) (id : Nat) :
    Option (Outcome Req Resp) × QueueMpsc code Resp :=
  let (value, desk) := (mpsc.desks id).response
  (value.map fun value => .tryRecvResponse id (some value), mpsc.setDesk id desk)

def receive (mpsc : QueueMpsc code Resp) : Option (Outcome Req Resp) × QueueMpsc code Resp :=
  match mpsc.queue.pop with
  | (none, queue) => (none, { mpsc with queue })
  | (some .empty, queue) => (some (.tryRecv none), { mpsc with queue })
  | (some (.count number), queue) => (some (.poll number), { mpsc with queue })
  | (some (.item callerId data), queue) =>
    let desk := mpsc.desks callerId
    (some (.tryRecv (some ({ callerId, slotToken := desk.recvCount }, data))),
      { mpsc with queue }.setDesk callerId desk.receive)

def startReply (mpsc : QueueMpsc code Resp) (id index : Nat) (resp : Resp) :
    QueueMpsc code Resp :=
  let desk := mpsc.desks id
  match desk.handles[index]?, desk.respRing.writer with
  | some token, .idle =>
    { mpsc.setDesk id (desk.startReply index token resp) with replying := some id }
  | _, _ => mpsc

def reply (mpsc : QueueMpsc code Resp) (id : Nat) :
    Option (Outcome Req Resp) × QueueMpsc code Resp :=
  match (mpsc.desks id).reply with
  | (false, desk) => (none, mpsc.setDesk id desk)
  | (true, desk) => (some .reply, { mpsc.setDesk id desk with replying := none })

def step (mpsc : QueueMpsc code Resp) :
    Action code Resp → Option (Outcome Req Resp) × QueueMpsc code Resp
  | .call id req => if mpsc.callerIdle id then mpsc.startCall id req else (none, mpsc)
  | .tryRecvResponse id => if mpsc.callerIdle id then mpsc.startResponse id else (none, mpsc)
  | .caller id =>
    match mpsc.queue.pushes id with
    | some (req, _) => mpsc.call id req
    | none => mpsc.response id
  | .query query =>
    (none, if mpsc.serverIdle then { mpsc with queue := mpsc.queue.startPop query } else mpsc)
  | .reply id index resp => (none, if mpsc.serverIdle then mpsc.startReply id index resp else mpsc)
  | .server =>
    match mpsc.replying with
    | some id => mpsc.reply id
    | none => mpsc.receive

def next (mpsc : QueueMpsc code Resp) (action : Action code Resp) : QueueMpsc code Resp :=
  (mpsc.step action).2

/-! Towards the queue a step of the channel is a step of the queue or none. -/

/-- The step that the request queue takes. -/
def queueAction (mpsc : QueueMpsc code Resp) : Action code Resp → Option (Queue.Action code)
  | .call id req =>
    let desk := mpsc.desks id
    if mpsc.callerIdle id ∧ desk.inflight < desk.maxInflight then some (.startPush id req)
    else none
  | .tryRecvResponse _ => none
  | .caller id => if (mpsc.queue.pushes id).isSome then some (.push id) else none
  | .query query => if mpsc.serverIdle then some (.startPop query) else none
  | .reply .. => none
  | .server => if mpsc.replying.isSome then none else some .pop

theorem queue_call (mpsc : QueueMpsc code Resp) (id : Nat) (req : Req) :
    (mpsc.call id req).2.queue = (mpsc.queue.push id).2 := by
  unfold call
  split <;>
  · rename_i result
    exact (congrArg Prod.snd result).symm

theorem queue_receive (mpsc : QueueMpsc code Resp) : mpsc.receive.2.queue = mpsc.queue.pop.2 := by
  unfold receive
  split <;>
  · rename_i result
    exact (congrArg Prod.snd result).symm

theorem queue_next (mpsc : QueueMpsc code Resp) (action : Action code Resp) :
    (mpsc.next action).queue = (mpsc.queueAction action).elim mpsc.queue mpsc.queue.step := by
  unfold next step queueAction
  cases action with
  | call id req =>
    by_cases idle : mpsc.callerIdle id = true
    · have free : (mpsc.queue.pushes id).isNone = true := by
        simp only [callerIdle, Bool.and_eq_true] at idle
        exact idle.1.2
      unfold startCall
      by_cases admitted : (mpsc.desks id).inflight < (mpsc.desks id).maxInflight
      · simp [idle, admitted, Nat.not_le.mpr admitted, Queue.step, free]
      · simp [idle, admitted, Nat.le_of_not_lt admitted]
    · simp [idle]
  | tryRecvResponse id =>
    dsimp only
    split
    · unfold startResponse
      split <;> rfl
    · rfl
  | caller id =>
    dsimp only
    cases busy : mpsc.queue.pushes id with
    | none => rfl
    | some push => exact mpsc.queue_call id push.1
  | query query =>
    by_cases idle : mpsc.serverIdle = true
    · have free : mpsc.queue.popping.isNone = true := by
        simp only [serverIdle, Bool.and_eq_true] at idle
        exact idle.1
      simp [idle, Queue.step, free]
    · simp [idle]
  | reply id index resp =>
    dsimp only
    split
    · unfold startReply
      dsimp only
      split <;> rfl
    · rfl
  | server =>
    cases mpsc.replying with
    | none => exact mpsc.queue_receive
    | some id =>
      dsimp only
      unfold reply
      split <;> rfl

variable {invariant : Queue code → Prop}

theorem next_queue {mpsc : QueueMpsc code Resp}
    (holds : invariant mpsc.queue) {action : Action code Resp}
    (preserved : ∀ step, mpsc.queueAction action = some step →
      invariant (mpsc.queue.step step)) : invariant (mpsc.next action).queue := by
  rw [queue_next]
  cases taken : mpsc.queueAction action with
  | none => exact holds
  | some step => exact preserved step taken

theorem run_queue (preserved : ∀ queue action, invariant queue → invariant (queue.step action))
    {mpsc : QueueMpsc code Resp} (initial : invariant mpsc.queue)
    (actions : List (Action code Resp)) : invariant (run next mpsc actions).queue := by
  have kept : ∀ (mpsc : QueueMpsc code Resp) (action : Action code Resp), invariant mpsc.queue →
      invariant (mpsc.next action).queue :=
    fun mpsc _ holds => next_queue holds fun step _ => preserved mpsc.queue step holds
  exact run_always kept initial

theorem run_queue_guarded {guard : Queue code → Queue.Action code → Prop}
    (preserved : ∀ queue action, invariant queue → guard queue action →
      invariant (queue.step action))
    {mpsc : QueueMpsc code Resp} (initial : invariant mpsc.queue)
    {actions : List (Action code Resp)}
    (guarded : Along next (fun mpsc action => ∀ step ∈ mpsc.queueAction action,
      guard mpsc.queue step) mpsc actions) : invariant (run next mpsc actions).queue := by
  have kept : ∀ (mpsc : QueueMpsc code Resp) (action : Action code Resp), invariant mpsc.queue →
      (∀ step ∈ mpsc.queueAction action, guard mpsc.queue step) →
      invariant (mpsc.next action).queue :=
    fun mpsc _ holds allowed => next_queue holds fun step taken =>
      preserved mpsc.queue step holds (allowed step taken)
  exact run_invariant kept initial guarded

/-! Both sides count the same requests, whatever the queue does with them. -/

def Counted (depth : Nat) (mpsc : QueueMpsc code Resp) : Prop :=
  ∀ id, (mpsc.desks id).Counted depth (itemsOf id mpsc.queue.accepted).length
    (itemsOf id mpsc.queue.popped).length

namespace Counted

variable {depth : Nat} {mpsc : QueueMpsc code Resp}

theorem create (shared : code.Shared) (maxCallers : Nat) (power : depth.isPowerOfTwo)
    (maxInflight : Nat) : Counted depth (create Resp shared maxCallers depth maxInflight) :=
  fun _ => .new Resp (maskOffset_eq_mod power) maxInflight

variable (counted : Counted depth mpsc)
include counted

theorem setDesk {id : Nat} {desk : Desk Resp}
    (here : desk.Counted depth (itemsOf id mpsc.queue.accepted).length
      (itemsOf id mpsc.queue.popped).length) : Counted depth (mpsc.setDesk id desk) := by
  intro other
  by_cases same : other = id
  · subst same
    simpa [QueueMpsc.setDesk] using here
  · simpa [QueueMpsc.setDesk, same] using counted other

theorem call (id : Nat) (req : Req) : Counted depth (mpsc.call id req).2 := by
  obtain ⟨popped, ⟨result, item, accepted⟩ | ⟨result, accepted⟩⟩ := mpsc.queue.push_logs id
  · unfold QueueMpsc.call
    split
    · rename_i outcome
      rw [outcome] at result
      cases result
    · rename_i outcome
      rw [outcome] at result
      cases result
    · rename_i queue outcome
      rw [outcome] at popped accepted
      intro other
      dsimp only [QueueMpsc.setDesk]
      rw [popped, accepted, itemsOf_append, List.length_append]
      by_cases same : other = id
      · subst same
        rw [Function.update_self, itemsOf_self]
        exact (counted other).accept
      · rw [Function.update_of_ne same, itemsOf_other (Ne.symm same)]
        exact counted other
  · unfold QueueMpsc.call
    split
    · rename_i queue outcome
      rw [outcome] at popped accepted
      intro other
      rw [popped, accepted]
      exact counted other
    · rename_i queue outcome
      rw [outcome] at popped accepted
      intro other
      dsimp only
      rw [popped, accepted]
      exact counted other
    · rename_i outcome
      rw [outcome] at result
      exact absurd rfl result

theorem receive : Counted depth mpsc.receive.2 := by
  obtain ⟨accepted, popped⟩ := mpsc.queue.pop_logs
  unfold QueueMpsc.receive
  split
  case h_4 callerId data queue outcome =>
    rw [outcome] at accepted popped
    intro other
    dsimp only [QueueMpsc.setDesk]
    rw [accepted, popped]
    change Desk.Counted depth _ (itemsOf other (_ ++ [(callerId, data)])).length _
    rw [itemsOf_append, List.length_append]
    by_cases same : other = callerId
    · subst same
      rw [Function.update_self, itemsOf_self]
      exact (counted other).receive
    · rw [Function.update_of_ne same, itemsOf_other (Ne.symm same)]
      exact counted other
  all_goals
    rename_i outcome
    rw [outcome] at accepted popped
    intro other
    rw [accepted, popped]
    change Desk.Counted depth _ (itemsOf other (_ ++ [])).length _
    rw [List.append_nil]
    exact counted other

/-- The desks count as the request queue has accepted and served. -/
theorem next (positive : 0 < depth) (action : Action code Resp) :
    Counted depth (mpsc.next action) := by
  unfold QueueMpsc.next QueueMpsc.step
  cases action with
  | call id req =>
    dsimp only
    split
    · unfold startCall
      dsimp only
      split <;> exact counted
    · exact counted
  | tryRecvResponse id =>
    dsimp only
    split
    · have later := counted.setDesk ((counted id).startResponse positive)
      unfold startResponse
      split <;>
      · rename_i result
        rw [result] at later
        exact later
    · exact counted
  | caller id =>
    dsimp only
    split
    · exact counted.call id _
    · exact counted.setDesk (counted id).response
  | query query =>
    dsimp only
    split <;> exact counted
  | reply id index resp =>
    dsimp only
    split
    · unfold startReply
      dsimp only
      split
      · rename_i token handle idle
        exact counted.setDesk ((counted id).startReply idle handle resp)
      · exact counted
    · exact counted
  | server =>
    dsimp only
    split
    · rename_i id _
      have later := counted.setDesk ((counted id).reply positive)
      unfold QueueMpsc.reply
      split <;>
      · rename_i result
        rw [result] at later
        exact later
    · exact counted.receive

end Counted

end QueueMpsc

end Locasta.Mempc
