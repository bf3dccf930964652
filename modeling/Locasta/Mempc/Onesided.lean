import Locasta.Mempc.Lane

namespace Locasta.Mempc

open Data Function

/-! `OnesidedMpsc`: any number of callers and one server.

A thread takes one access to a ring at a time; what it computes in between belongs to the access
before. No side is dropped, so `is_connected` holds throughout.
-/

inductive CallError (Req : Type) where
  | full (req : Req)
  | inflightExceeded (req : Req)
  | disconnected (req : Req)

inductive CallerPc where
  | idle
  | calling
  | receiving
deriving DecidableEq

structure OnesidedCaller where
  inflight : Nat
  maxInflight : Nat
  pc : CallerPc
  /-- Auxiliary: what the accepted calls returned. -/
  tokens : List Nat

def OnesidedCaller.new (maxInflight : Nat) : OnesidedCaller where
  inflight := 0
  maxInflight
  pc := .idle
  tokens := []

inductive ServerPc where
  | idle
  /-- The loop of `try_recv` has `left` turns to go. -/
  | scanning (left : Nat)
  | receiving (callerId : Nat)
  | replying (callerId : Nat)

structure OnesidedServer where
  numCallers : Nat
  scanPos : Nat
  pc : ServerPc

structure ReplyToken where
  callerId : Nat
  slotToken : Nat

inductive Returned (Req Resp : Type) where
  | call (id : Nat) (result : Except (CallError Req) Nat)
  | tryRecvResponse (id : Nat) (result : Option (Nat × Resp))
  | tryRecv (result : Option (ReplyToken × Req))
  | reply

structure Mpsc (Req Resp : Type) where
  lanes : Nat → Lane Req Resp
  callers : Nat → OnesidedCaller
  server : OnesidedServer

namespace Mpsc

variable {Req Resp : Type}

def create (Req Resp : Type) (maxCallers ringDepth maxInflight : Nat) : Mpsc Req Resp where
  lanes _ := .new Req Resp ringDepth
  callers _ := .new maxInflight
  server := { numCallers := maxCallers, scanPos := 0, pc := .idle }

inductive Action (Req Resp : Type) where
  | call (id : Nat) (req : Req)
  | tryRecvResponse (id : Nat)
  /-- The caller goes on with what it is in. -/
  | caller (id : Nat)
  | tryRecv
  | reply (id index : Nat) (resp : Resp)
  /-- The server goes on with what it is in. -/
  | server

def setLane (system : Mpsc Req Resp) (id : Nat) (lane : Lane Req Resp) : Mpsc Req Resp :=
  { system with lanes := update system.lanes id lane }

def setCaller (system : Mpsc Req Resp) (id : Nat) (caller : OnesidedCaller) : Mpsc Req Resp :=
  { system with callers := update system.callers id caller }

def setServer (system : Mpsc Req Resp) (pc : ServerPc) : Mpsc Req Resp :=
  { system with server := { system.server with pc } }

/-- `call` up to the first write. -/
def startCall (system : Mpsc Req Resp) (id : Nat) (req : Req) :
    Option (Returned Req Resp) × Mpsc Req Resp :=
  let caller := system.callers id
  if caller.inflight ≥ caller.maxInflight then
    (some (.call id (.error (.inflightExceeded req))), system)
  else
    (none, (system.setLane id ((system.lanes id).startCall req)).setCaller id
      { caller with pc := .calling })

def finishCall (system : Mpsc Req Resp) (id : Nat) : Option (Returned Req Resp) × Mpsc Req Resp :=
  let caller := system.callers id
  match (system.lanes id).finishCall with
  | (none, _) => (none, system)
  | (some slotIdx, lane) =>
    (some (.call id (.ok slotIdx)), (system.setLane id lane).setCaller id
      { caller with
        inflight := caller.inflight + 1, pc := .idle, tokens := caller.tokens ++ [slotIdx] })

def recvResponse (system : Mpsc Req Resp) (id : Nat) : Option (Returned Req Resp) × Mpsc Req Resp :=
  let caller := system.callers id
  match (system.lanes id).recvResponse with
  | (.busy, lane) => (none, (system.setLane id lane).setCaller id { caller with pc := .receiving })
  | (.got _ response, lane) =>
    (some (.tryRecvResponse id (some (response.token, response.data))),
      (system.setLane id lane).setCaller id
        { caller with inflight := caller.inflight - 1, pc := .idle })
  | (.empty, _) | (.uninit, _) =>
    (some (.tryRecvResponse id none), system.setCaller id { caller with pc := .idle })

def scan (system : Mpsc Req Resp) (left : Nat) : Option (Returned Req Resp) × Mpsc Req Resp :=
  let callerId := system.server.scanPos
  let next := if callerId + 1 ≥ system.server.numCallers then 0 else callerId + 1
  let system := { system with server := { system.server with scanPos := next } }
  match (system.lanes callerId).recvRequest with
  | (.busy, lane) => (none, (system.setLane callerId lane).setServer (.receiving callerId))
  | (_, lane) => (none, (system.setLane callerId lane).setServer (.scanning left))

/-- The end of `try_recv`, once a message was found. -/
def receive (system : Mpsc Req Resp) (callerId : Nat) :
    Option (Returned Req Resp) × Mpsc Req Resp :=
  match (system.lanes callerId).recvRequest with
  | (.got slotIdx data, lane) =>
    (some (.tryRecv (some ({ callerId, slotToken := slotIdx }, data))),
      (system.setLane callerId lane).setServer .idle)
  | (_, lane) => (none, (system.setLane callerId lane).setServer .idle)

def step (system : Mpsc Req Resp) : Action Req Resp → Option (Returned Req Resp) × Mpsc Req Resp
  | .call id req =>
    if id < system.server.numCallers ∧ (system.callers id).pc = .idle then
      system.startCall id req
    else (none, system)
  | .tryRecvResponse id =>
    if id < system.server.numCallers ∧ (system.callers id).pc = .idle then
      system.recvResponse id
    else (none, system)
  | .caller id =>
    match (system.callers id).pc with
    | .idle => (none, system)
    | .calling => system.finishCall id
    | .receiving => system.recvResponse id
  | .tryRecv =>
    match system.server.pc with
    | .idle => (none, system.setServer (.scanning system.server.numCallers))
    | _ => (none, system)
  | .reply id index resp =>
    match system.server.pc with
    | .idle =>
      if index < (system.lanes id).handles.length then
        (none, (system.setLane id ((system.lanes id).startReply index resp)).setServer
          (.replying id))
      else (none, system)
    | _ => (none, system)
  | .server =>
    match system.server.pc with
    | .idle => (none, system)
    | .scanning 0 => (some (.tryRecv none), system.setServer .idle)
    | .scanning (left + 1) => system.scan left
    | .receiving callerId => system.receive callerId
    | .replying callerId =>
      (some .reply, (system.setLane callerId (system.lanes callerId).finishReply).setServer .idle)

def next (system : Mpsc Req Resp) (action : Action Req Resp) : Mpsc Req Resp :=
  (system.step action).2

/-! What the steps do, as seen by what is built on top. -/

def Action.ofServer : Action Req Resp → Bool
  | .tryRecv | .reply .. | .server => true
  | .call .. | .tryRecvResponse _ | .caller _ => false

theorem served_setLane {system : Mpsc Req Resp} {id : Nat} {lane : Lane Req Resp}
    (served : (system.lanes id).Served lane) (other : Nat) :
    (system.lanes other).Served ((system.setLane id lane).lanes other) := by
  by_cases same : other = id
  · subst same
    simpa [setLane] using served
  · simpa [setLane, same] using Lane.Served.refl (system.lanes other)

theorem served_recvRequest {system : Mpsc Req Resp} {id : Nat} {result : TryRecv Req}
    {lane : Lane Req Resp} (received : (system.lanes id).recvRequest = (result, lane)) (other : Nat) :
    (system.lanes other).Served ((system.setLane id lane).lanes other) := by
  have served := (system.lanes id).served_recvRequest
  rw [received] at served
  exact served_setLane served other

/-- An action of the server leaves the callers as they are. -/
theorem served_next (system : Mpsc Req Resp) {action : Action Req Resp}
    (server : action.ofServer = true) (id : Nat) :
    (system.lanes id).Served ((system.next action).lanes id) ∧
      (system.next action).callers = system.callers := by
  unfold next step
  cases action with
  | call id req => cases server
  | tryRecvResponse id => cases server
  | caller id => cases server
  | tryRecv =>
    dsimp only
    split <;> exact ⟨.refl _, rfl⟩
  | reply lane index resp =>
    dsimp only
    split
    · split
      · exact ⟨served_setLane ((system.lanes lane).served_startReply index resp) id, rfl⟩
      · exact ⟨.refl _, rfl⟩
    · exact ⟨.refl _, rfl⟩
  | server =>
    dsimp only
    split
    · exact ⟨.refl _, rfl⟩
    · exact ⟨.refl _, rfl⟩
    · unfold scan
      dsimp only
      split
      all_goals
        rename_i result
        exact ⟨served_recvRequest result id, rfl⟩
    · unfold receive
      split
      all_goals
        rename_i result
        exact ⟨served_recvRequest result id, rfl⟩
    · rename_i callerId _
      exact ⟨served_setLane (system.lanes callerId).served_finishReply id, rfl⟩

theorem recvResponse_cases (system : Mpsc Req Resp) (id : Nat) :
    (∃ slotIdx response lane, (system.lanes id).recvResponse = (.got slotIdx response, lane) ∧
        system.recvResponse id = (some (.tryRecvResponse id (some (response.token, response.data))),
            (system.setLane id lane).setCaller id
              { system.callers id with
                inflight := (system.callers id).inflight - 1, pc := .idle })) ∨
      (∃ lane, (system.lanes id).recvResponse = (.busy, lane) ∧
        system.recvResponse id = (none, (system.setLane id lane).setCaller id
          { system.callers id with pc := .receiving })) ∨
      system.recvResponse id = (some (.tryRecvResponse id none),
        system.setCaller id { system.callers id with pc := .idle }) := by
  unfold recvResponse
  split
  · rename_i lane result
    exact .inr (.inl ⟨lane, result, rfl⟩)
  · rename_i slotIdx response lane result
    exact .inl ⟨slotIdx, response, lane, result, rfl⟩
  · exact .inr (.inr rfl)
  · exact .inr (.inr rfl)

/-- A caller and its rings: the counter is the number of calls without a response. -/
structure CallerSound (depth maxInflight : Nat) (lane : Lane Req Resp) (caller : OnesidedCaller) :
    Prop where
  rings : lane.Sound depth
  limit : caller.maxInflight = maxInflight
  inflight : caller.inflight + lane.responses.received.length = lane.requests.sent.length
  most : caller.inflight ≤ maxInflight
  calling : caller.pc = .calling → caller.inflight < maxInflight
  tokens : caller.tokens = (List.range lane.requests.sent.length).map (· % depth)

namespace CallerSound

variable {depth maxInflight : Nat} {lane : Lane Req Resp} {caller : OnesidedCaller}

theorem new (Req Resp : Type) (depth maxInflight : Nat) :
    CallerSound depth maxInflight (.new Req Resp depth) (.new maxInflight) where
  rings := .new Req Resp depth
  limit := rfl
  inflight := rfl
  most := Nat.zero_le _
  calling later := by cases later
  tokens := rfl

variable (sound : CallerSound depth maxInflight lane caller)
include sound

theorem server {after : Lane Req Resp} (rings : after.Sound depth) (served : lane.Served after) :
    CallerSound depth maxInflight after caller :=
  { sound with
    rings
    inflight := by rw [served.sent, served.returned]; exact sound.inflight
    tokens := by rw [served.sent]; exact sound.tokens }

theorem pause {pc : CallerPc}
    (other : pc ≠ .calling) : CallerSound depth maxInflight lane { caller with pc } :=
  { sound with calling := fun same => absurd same other }

variable (sized : Spsc.IsDepth depth)
include sized

theorem startCall
    (fits : maxInflight ≤ depth) (admitted : caller.inflight < maxInflight) (req : Req) :
    CallerSound depth maxInflight (lane.startCall req) { caller with pc := .calling } where
  rings := by
    have inflight := sound.inflight
    exact sound.rings.startCall sized (by omega) req
  limit := sound.limit
  inflight := sound.inflight
  most := sound.most
  calling _ := admitted
  tokens := sound.tokens

variable {after : Lane Req Resp}

theorem finishCall (calling : caller.pc = .calling) {slotIdx : Nat}
    (finished : lane.finishCall = (some slotIdx, after)) :
    CallerSound depth maxInflight after
      { caller with
        inflight := caller.inflight + 1, pc := .idle, tokens := caller.tokens ++ [slotIdx] } := by
  have rings := sound.rings.finishCall sized
  have admitted := sound.calling calling
  have inflight := sound.inflight
  have slot := sound.rings.requests.txSlot sized
  rw [finished] at rings
  unfold Lane.finishCall Spsc.finishSend at finished
  cases started : lane.requests.writing with
  | none =>
    rw [started] at finished
    cases finished
  | some req =>
    rw [started] at finished
    cases finished
    have more : (lane.requests.sent ++ [req]).length = lane.requests.sent.length + 1 :=
      List.length_append
    refine ⟨rings, sound.limit, ?_, admitted, (fun later => by cases later), ?_⟩
    · dsimp only
      omega
    · rw [sound.tokens, slot, more, List.range_succ, List.map_append]
      rfl

theorem busyResponse
    (busy : lane.recvResponse = (.busy, after)) : CallerSound depth maxInflight after caller := by
  have rings := sound.rings.recvResponse sized
  have result : lane.responses.tryRecv.1 = .busy := congrArg Prod.fst busy
  have returned : lane.recvResponse.2.responses.received = lane.responses.received :=
    Spsc.received_tryRecv fun _ _ got => by rw [result] at got; cases got
  have requests : after.requests = lane.requests :=
    congrArg (fun outcome => outcome.2.requests) busy.symm
  rw [busy] at rings returned
  exact { sound with
    rings
    inflight := by rw [requests, returned]; exact sound.inflight
    tokens := by rw [requests]; exact sound.tokens }

theorem recvResponse {slotIdx : Nat} {response : Response Resp}
    (received : lane.recvResponse = (.got slotIdx response, after)) :
    CallerSound depth maxInflight after
      { caller with inflight := caller.inflight - 1, pc := .idle } := by
  have rings := sound.rings.recvResponse sized
  have inflight := sound.inflight
  have most := sound.most
  rw [received] at rings
  have returned := rings.returned_le
  have order := rings.exchange.delivered_le
  rcases (sound.rings.responses.tryRecv sized).2 with
    ⟨_, _, result⟩ | ⟨_, _, result⟩ | ⟨_, value, _, result⟩
  · rw [Lane.recvResponse, result] at received
    cases received
  · rw [Lane.recvResponse, result] at received
    cases received
  · rw [Lane.recvResponse, result] at received
    cases received
    have more : (lane.responses.received ++ [response]).length =
        lane.responses.received.length + 1 := List.length_append
    dsimp only at returned order
    refine ⟨rings, sound.limit, ?_, ?_, (fun later => by cases later), sound.tokens⟩
    · dsimp only
      omega
    · dsimp only
      omega

end CallerSound

def Sound (depth maxInflight : Nat) (system : Mpsc Req Resp) : Prop :=
  ∀ id, CallerSound depth maxInflight (system.lanes id) (system.callers id)

namespace Sound

variable {depth maxInflight : Nat} {system : Mpsc Req Resp}

theorem create (Req Resp : Type) (maxCallers depth maxInflight : Nat) :
    Sound depth maxInflight (create Req Resp maxCallers depth maxInflight) :=
  fun _ => .new Req Resp depth maxInflight

variable (sound : Sound depth maxInflight system)
include sound

theorem set {id : Nat} {lane : Lane Req Resp}
    {caller : OnesidedCaller} (here : CallerSound depth maxInflight lane caller) :
    Sound depth maxInflight ((system.setLane id lane).setCaller id caller) := by
  intro other
  by_cases same : other = id
  · subst same
    simpa [Mpsc.setLane, Mpsc.setCaller] using here
  · simpa [Mpsc.setLane, Mpsc.setCaller, same] using sound other

theorem setCaller {id : Nat} {caller : OnesidedCaller}
    (here : CallerSound depth maxInflight (system.lanes id) caller) :
    Sound depth maxInflight (system.setCaller id caller) := by
  intro other
  by_cases same : other = id
  · subst same
    simpa [Mpsc.setCaller] using here
  · simpa [Mpsc.setCaller, same] using sound other

theorem setLane {id : Nat} {lane : Lane Req Resp}
    (rings : lane.Sound depth) (served : (system.lanes id).Served lane) :
    Sound depth maxInflight (system.setLane id lane) := by
  intro other
  by_cases same : other = id
  · subst same
    simpa [Mpsc.setLane] using (sound other).server rings served
  · simpa [Mpsc.setLane, same] using sound other

variable (sized : Spsc.IsDepth depth)
include sized

theorem recvRequest
    (id : Nat) : Sound depth maxInflight (system.setLane id (system.lanes id).recvRequest.2) :=
  sound.setLane ((sound id).rings.recvRequest sized) (system.lanes id).served_recvRequest

theorem scan (left : Nat) : Sound depth maxInflight (system.scan left).2 := by
  have later := sound.recvRequest sized system.server.scanPos
  unfold Mpsc.scan
  dsimp only
  split
  all_goals
    rename_i result
    rw [result] at later
    exact later

theorem receive (callerId : Nat) : Sound depth maxInflight (system.receive callerId).2 := by
  have later := sound.recvRequest sized callerId
  unfold Mpsc.receive
  split
  all_goals
    rename_i result
    rw [result] at later
    exact later

theorem recvResponse (id : Nat) : Sound depth maxInflight (system.recvResponse id).2 := by
  rcases system.recvResponse_cases id with
    ⟨_, response, lane, received, result⟩ | ⟨lane, busy, result⟩ | result
  · rw [result]
    exact sound.set ((sound id).recvResponse sized received)
  · rw [result]
    exact sound.set (((sound id).busyResponse sized busy).pause (by decide))
  · rw [result]
    exact sound.setCaller ((sound id).pause (by decide))

/-- No slot is written again before it was read if the limit is within the depth. -/
theorem step
    (fits : maxInflight ≤ depth) (action : Action Req Resp) :
    Sound depth maxInflight (system.next action) := by
  unfold next Mpsc.step
  cases action with
  | call id req =>
    dsimp only
    split
    · unfold Mpsc.startCall
      dsimp only
      split
      · exact sound
      · rename_i admitted
        rw [(sound id).limit] at admitted
        exact sound.set ((sound id).startCall sized fits (by omega) req)
    · exact sound
  | tryRecvResponse id =>
    dsimp only
    split
    · exact sound.recvResponse sized id
    · exact sound
  | caller id =>
    dsimp only
    split
    · exact sound
    · rename_i calling
      unfold Mpsc.finishCall
      split
      · exact sound
      · rename_i result
        exact sound.set ((sound id).finishCall sized calling result)
    · exact sound.recvResponse sized id
  | tryRecv =>
    dsimp only
    split <;> exact sound
  | reply id index resp =>
    dsimp only
    split
    · split
      · exact sound.setLane ((sound id).rings.startReply sized index resp)
          ((system.lanes id).served_startReply index resp)
      · exact sound
    · exact sound
  | server =>
    dsimp only
    split
    · exact sound
    · exact sound
    · exact sound.scan sized _
    · exact sound.receive sized _
    · rename_i callerId _
      exact sound.setLane ((sound callerId).rings.finishReply sized)
        (system.lanes callerId).served_finishReply

end Sound

/-- Each caller's requests are received in their order and the replies in theirs, each with the
token of its call. Neither side writes a slot whose previous message was not read. -/
theorem onesided_delivery {depth maxInflight : Nat} (sized : Spsc.IsDepth depth)
    (fits : maxInflight ≤ depth) (maxCallers : Nat) (actions : List (Action Req Resp)) (id : Nat) :
    let system := run next (create Req Resp maxCallers depth maxInflight) actions
    let lane := system.lanes id
    let caller := system.callers id
    lane.requests.received <+: lane.requests.sent ∧
      caller.tokens.length = lane.requests.sent.length ∧
      lane.responses.received <+: lane.responses.sent ∧
      (∀ (index : Nat) (response : Response Resp), lane.responses.sent[index]? = some response →
        ∃ number, lane.answered[index]? = some number ∧ number < lane.requests.received.length ∧
          caller.tokens[number]? = some response.token) ∧
      lane.answered.Nodup ∧
      (lane.requests.writing.isSome →
        lane.requests.sent.length < lane.requests.received.length + depth) ∧
      (lane.responses.writing.isSome →
        lane.responses.sent.length < lane.responses.received.length + depth) := by
  intro system lane caller
  have sound : Sound depth maxInflight system :=
    run_always (fun _ action sound => sound.step sized fits action)
      (.create Req Resp maxCallers depth maxInflight)
  obtain ⟨rings, _, _, _, _, tokens⟩ := sound id
  refine ⟨rings.requests.received, ?_, rings.responses.received, ?_, rings.exchange.nodup,
    rings.requests.room, rings.responses.room⟩
  · rw [tokens, List.length_map, List.length_range]
  · intro index response here
    obtain ⟨number, answered, token⟩ := rings.reply_at here
    have inside := rings.exchange.lt_of_mem_answered (List.mem_of_getElem? answered)
    refine ⟨number, answered, inside, ?_⟩
    rw [tokens, List.getElem?_map, List.getElem?_range
      (Nat.lt_of_lt_of_le inside rings.exchange.delivered_le), token]
    rfl

/-- Two callers; the server answers the second request of the first caller before its first. -/
def outOfOrder : List (Action Nat Nat) :=
  [.call 0 10, .tryRecv, .server, .caller 0, .call 1 20, .caller 1, .server, .server, .call 0 11,
    .caller 0, .tryRecv, .server, .server, .tryRecv, .server, .server, .server, .reply 0 1 111,
    .server, .reply 0 0 110, .tryRecvResponse 0, .server, .caller 0, .call 0 12]

theorem onesided_delivery_outOfOrder :
    let lane := (run next (create Nat Nat 2 2 2) outOfOrder).lanes 0
    lane.requests.received = [10, 11] ∧ lane.requests.writing = some 12 ∧
      lane.responses.received = [⟨1, 111⟩] ∧ lane.responses.sent = [⟨1, 111⟩, ⟨0, 110⟩] ∧
      lane.requests.sent.length < lane.requests.received.length + 2 := by
  intro lane
  exact ⟨by decide +kernel, by decide +kernel, by decide +kernel, by decide +kernel,
    (onesided_delivery ⟨⟨1, rfl⟩, by decide⟩ (Nat.le_refl 2) 2 outOfOrder 0).2.2.2.2.2.1
      (by decide +kernel)⟩

end Mpsc

end Locasta.Mempc
