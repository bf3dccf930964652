import Locasta.Mempc.LamportRing
import Locasta.Mempc.QueueMpsc

namespace Locasta.Mempc

open Data

/-! `LamportMpsc`: a ring of requests and a ring of responses for each caller.

What the server sees and what it has room for is what the caller has published. `sync` publishes the
calls first and the free slots of the responses after them.
-/

namespace Lamport

/-- A received request that was not replied to; `number` is auxiliary. -/
structure Handle where
  number : Nat
  slotToken : Nat

/-- A `LamportCaller` and the server's `CallerLane`. -/
structure Lane (Req Resp : Type) where
  calls : Ring Req
  responses : Ring (Response Resp)
  sendCount : Nat
  inflight : Nat
  maxInflight : Nat
  /-- In `sync` the calls are published, the free slots of the responses are not yet. -/
  syncing : Bool
  recvCount : Nat
  available : Nat
  handles : List Handle
  /-- Auxiliary: what the accepted calls returned, the numbers of the requests whose response was
  stored, and the replies that returned. -/
  tokens : List Nat
  answered : List Nat
  replied : List (Response Resp)

namespace Lane

variable {Req Resp : Type}

def new (Req Resp : Type) (ringDepth maxInflight : Nat) : Lane Req Resp where
  calls := .new Req ringDepth
  responses := .new (Response Resp) ringDepth
  sendCount := 0
  inflight := 0
  maxInflight
  syncing := false
  recvCount := 0
  available := 0
  handles := []
  tokens := []
  answered := []
  replied := []

/-- `call` up to the write. -/
def startCall (lane : Lane Req Resp) (req : Req) : Option (CallError Req) × Lane Req Resp :=
  if lane.inflight ≥ lane.maxInflight then (some (.inflightExceeded req), lane)
  else
    match lane.calls.startSend req with
    | (false, calls) => (some (.full req), { lane with calls })
    | (true, calls) => (none, { lane with calls })

def finishCall (lane : Lane Req Resp) : Option Nat × Lane Req Resp :=
  match lane.calls.finishSend with
  | (false, _) => (none, lane)
  | (true, calls) =>
    (some lane.sendCount, { lane with
      calls
      sendCount := (lane.sendCount + 1) % 2 ^ 64
      inflight := lane.inflight + 1
      tokens := lane.tokens ++ [lane.sendCount] })

def startSync (lane : Lane Req Resp) : Lane Req Resp :=
  { lane with calls := lane.calls.publish, syncing := true }

def finishSync (lane : Lane Req Resp) : Lane Req Resp :=
  { lane with responses := lane.responses.release, syncing := false }

/-- `try_recv_response` up to the read. -/
def startResponse (lane : Lane Req Resp) : Bool × Lane Req Resp :=
  (lane.responses.startRecv.1, { lane with responses := lane.responses.startRecv.2 })

def finishResponse (lane : Lane Req Resp) : Option (Response Resp) × Lane Req Resp :=
  match lane.responses.finishRecv with
  | (none, _) => (none, lane)
  | (some response, responses) =>
    (some response, { lane with responses, inflight := lane.inflight - 1 })

/-- The load of `poll`. -/
def refresh (lane : Lane Req Resp) : Lane Req Resp :=
  { lane with calls := lane.calls.refresh, available := lane.calls.refresh.available }

def startReceive (lane : Lane Req Resp) : Bool × Lane Req Resp :=
  (lane.calls.startRecv.1, { lane with calls := lane.calls.startRecv.2 })

def finishReceive (lane : Lane Req Resp) : Option (Nat × Req) × Lane Req Resp :=
  match lane.calls.finishRecv with
  | (none, _) => (none, lane)
  | (some data, calls) =>
    (some (lane.recvCount, data), { lane with
      calls
      available := lane.available - 1
      recvCount := (lane.recvCount + 1) % 2 ^ 64
      handles := lane.handles ++ [⟨lane.calls.received.length, lane.recvCount⟩] })

/-- A response that finds no room is dropped. -/
def answer (lane : Lane Req Resp) (index number : Nat) (response : Response Resp) :
    Bool × Ring (Response Resp) → Bool × Lane Req Resp
  | (true, responses) =>
    (true, { lane with
      responses
      handles := lane.handles.eraseIdx index
      answered := lane.answered ++ [number] })
  | (false, responses) =>
    (false, { lane with
      responses
      handles := lane.handles.eraseIdx index
      replied := lane.replied ++ [response] })

/-- `reply` up to the write, and whether there was room. -/
def startReply (lane : Lane Req Resp) (index number : Nat) (response : Response Resp) :
    Bool × Lane Req Resp :=
  lane.answer index number response (lane.responses.startSend response)

def finishReply (lane : Lane Req Resp) : Lane Req Resp :=
  { lane with
    responses := lane.responses.finishSend.2
    replied := lane.replied ++ lane.responses.writing.toList }

end Lane

/-- The caller leaves the server's threads alone. -/
structure Called {Req Resp : Type} (before after : Lane Req Resp) : Prop where
  reading : after.calls.reading = before.calls.reading
  writing : after.responses.writing = before.responses.writing

namespace Called

variable {Req Resp : Type} (lane : Lane Req Resp)

theorem startCall (req : Req) : Called lane (lane.startCall req).2 := by
  have reading := (lane.calls.startSend_frame req).2.2.2.2.1
  unfold Lane.startCall
  split
  · exact ⟨rfl, rfl⟩
  · split <;>
    · rename_i result
      rw [result] at reading
      exact ⟨reading, rfl⟩

theorem finishCall : Called lane lane.finishCall.2 := by
  unfold Lane.finishCall
  rcases lane.calls.finishSend_cases with ⟨_, result⟩ |
    ⟨_, after, _, result, _, _, _, _, _, reading⟩
  · rw [result]
    exact ⟨rfl, rfl⟩
  · rw [result]
    exact ⟨reading, rfl⟩

theorem startResponse : Called lane lane.startResponse.2 :=
  ⟨rfl, lane.responses.startRecv_frame.2.2.2.2.1⟩

theorem finishResponse : Called lane lane.finishResponse.2 := by
  unfold Lane.finishResponse
  rcases lane.responses.finishRecv_cases with result | ⟨_, after, result, _, _, _, _, writing, _⟩
  · rw [result]
    exact ⟨rfl, rfl⟩
  · rw [result]
    exact ⟨rfl, writing⟩

end Called

/-- The caller's counter bounds what is under way, and outside of `sync` so does what is published.
-/
structure Lane.Sound {Req Resp : Type} (depth maxInflight : Nat) (lane : Lane Req Resp) : Prop where
  calls : lane.calls.Sound depth
  responses : lane.responses.Sound depth
  exchange : Exchange lane.calls.sent.length lane.calls.received.length
    lane.responses.received.length (lane.handles.map Handle.number) lane.answered
  limit : lane.maxInflight = maxInflight
  inflight : lane.inflight + lane.responses.received.length = lane.calls.sent.length
  most : lane.inflight + lane.calls.writing.toList.length ≤ maxInflight
  sendCount : lane.sendCount = lane.calls.sent.length % 2 ^ 64
  tokens : lane.tokens = (List.range lane.calls.sent.length).map (· % 2 ^ 64)
  recvCount : lane.recvCount = lane.calls.received.length % 2 ^ 64
  handles : ∀ handle ∈ lane.handles, handle.slotToken = handle.number % 2 ^ 64
  replies : (lane.responses.sent ++ lane.responses.writing.toList).map Response.token =
    lane.answered.map (· % 2 ^ 64)
  replied : lane.replied = lane.responses.sent
  synced : lane.syncing = false → lane.calls.published ≤ lane.responses.freed + maxInflight

namespace Lane.Sound

variable {Req Resp : Type} {depth maxInflight : Nat} {lane : Lane Req Resp}

theorem new (Req Resp : Type) (sized : Spsc.IsDepth depth) (maxInflight : Nat) :
    Sound depth maxInflight (new Req Resp depth maxInflight) where
  calls := .new Req sized
  responses := .new _ sized
  exchange := .nil
  limit := rfl
  inflight := rfl
  most := Nat.zero_le _
  sendCount := rfl
  tokens := rfl
  recvCount := rfl
  handles _ member := by cases member
  replies := rfl
  replied := rfl
  synced _ := Nat.zero_le _

variable (sound : Sound depth maxInflight lane)
include sound

theorem startCall (sized : Spsc.IsDepth depth) (idle : lane.calls.writing = none) (req : Req) :
    Sound depth maxInflight (lane.startCall req).2 := by
  have calls := sound.calls.startSend sized idle req
  have most := sound.most
  have limit := sound.limit
  obtain ⟨sent, received, published, _, _, writing⟩ := lane.calls.startSend_frame req
  unfold Lane.startCall
  split
  · exact sound
  · split <;>
    · rename_i after result
      rw [result] at calls sent received published writing
      refine { sound with
        calls
        exchange := ?_, inflight := ?_, most := ?_, sendCount := ?_, tokens := ?_, recvCount := ?_
        synced := ?_ } <;> dsimp only
      · rw [sent, received]
        exact sound.exchange
      · rw [sent]
        exact sound.inflight
      · rw [writing]
        simp only [idle, Bool.false_eq_true, if_false, if_true, Option.toList_none,
          Option.toList_some, List.length_nil, List.length_singleton]
        omega
      · rw [sent]
        exact sound.sendCount
      · rw [sent]
        exact sound.tokens
      · rw [received]
        exact sound.recvCount
      · rw [published]
        exact sound.synced

theorem finishCall (sized : Spsc.IsDepth depth) : Sound depth maxInflight lane.finishCall.2 := by
  have calls := sound.calls.finishSend sized
  have most := sound.most
  unfold Lane.finishCall
  rcases lane.calls.finishSend_cases with ⟨_, result⟩ |
    ⟨value, after, on, result, sent, received, published, _, writing, _⟩
  · rw [result]
    exact sound
  · rw [result] at calls ⊢
    have more : after.sent.length = lane.calls.sent.length + 1 := by
      rw [sent]
      exact List.length_append
    rw [on, Option.toList_some, List.length_singleton] at most
    refine { sound with
      calls
      exchange := ?_, inflight := ?_, most := ?_, sendCount := ?_, tokens := ?_, recvCount := ?_
      synced := ?_ } <;> dsimp only
    · rw [more, received]
      exact sound.exchange.request
    · rw [more, ← sound.inflight]
      omega
    · rw [writing]
      exact most
    · rw [more, sound.sendCount, Nat.mod_add_mod]
    · rw [more, sound.tokens, sound.sendCount, List.range_succ, List.map_append]
      rfl
    · rw [received]
      exact sound.recvCount
    · rw [published]
      exact sound.synced

theorem startSync : Sound depth maxInflight lane.startSync :=
  { sound with calls := sound.calls.publish, synced := fun done => by cases done }

theorem finishSync : Sound depth maxInflight lane.finishSync :=
  { sound with
    responses := sound.responses.release
    synced := fun _ => by
      have inflight := sound.inflight
      have most := sound.most
      have published := sound.calls.published_le
      change lane.calls.published ≤ lane.responses.received.length + maxInflight
      omega }

theorem startResponse (sized : Spsc.IsDepth depth) :
    Sound depth maxInflight lane.startResponse.2 := by
  obtain ⟨sent, received, _, freed, writing, _⟩ := lane.responses.startRecv_frame
  unfold Lane.startResponse
  refine { sound with
    responses := sound.responses.startRecv sized
    exchange := ?_, inflight := ?_, replies := ?_, replied := ?_, synced := ?_ } <;> dsimp only
  · rw [received]
    exact sound.exchange
  · rw [received]
    exact sound.inflight
  · rw [sent, writing]
    exact sound.replies
  · rw [sent]
    exact sound.replied
  · rw [freed]
    exact sound.synced

theorem answered_length :
    lane.answered.length = lane.responses.sent.length + lane.responses.writing.toList.length := by
  have lengths := congrArg List.length sound.replies
  rw [List.length_map, List.length_map, List.length_append] at lengths
  exact lengths.symm

theorem finishResponse (sized : Spsc.IsDepth depth) :
    Sound depth maxInflight lane.finishResponse.2 := by
  have responses := sound.responses.finishRecv sized
  have inflight := sound.inflight
  have most := sound.most
  have length := sound.answered_length
  have total := sound.exchange.length_add
  have order := sound.exchange.delivered_le
  unfold Lane.finishResponse
  rcases lane.responses.finishRecv_cases with result |
    ⟨value, after, result, received, sent, _, freed, writing, _⟩
  · rw [result]
    exact sound
  · rw [result] at responses ⊢
    have more : after.received.length = lane.responses.received.length + 1 := by
      rw [received]
      exact List.length_append
    have stored := responses.received.length_le
    rw [more, sent] at stored
    refine { sound with
      responses
      exchange := ?_, inflight := ?_, most := ?_, replies := ?_, replied := ?_
      synced := ?_ } <;> dsimp only
    · rw [more]
      exact sound.exchange.giveBack (by omega)
    · omega
    · omega
    · rw [sent, writing]
      exact sound.replies
    · rw [sent]
      exact sound.replied
    · rw [freed]
      exact sound.synced

theorem refresh (idle : lane.calls.reading = false) : Sound depth maxInflight lane.refresh :=
  { sound with calls := sound.calls.refresh idle }

theorem release : Sound depth maxInflight { lane with calls := lane.calls.release } :=
  { sound with calls := sound.calls.release }

theorem publish : Sound depth maxInflight { lane with responses := lane.responses.publish } :=
  { sound with responses := sound.responses.publish }

theorem startReceive (sized : Spsc.IsDepth depth) :
    Sound depth maxInflight lane.startReceive.2 := by
  obtain ⟨sent, received, published, _, writing, _⟩ := lane.calls.startRecv_frame
  unfold Lane.startReceive
  refine { sound with
    calls := sound.calls.startRecv sized
    exchange := ?_, inflight := ?_, most := ?_, sendCount := ?_, tokens := ?_, recvCount := ?_
    synced := ?_ } <;> dsimp only
  · rw [sent, received]
    exact sound.exchange
  · rw [sent]
    exact sound.inflight
  · rw [writing]
    exact sound.most
  · rw [sent]
    exact sound.sendCount
  · rw [sent]
    exact sound.tokens
  · rw [received]
    exact sound.recvCount
  · rw [published]
    exact sound.synced

theorem finishReceive (sized : Spsc.IsDepth depth) :
    Sound depth maxInflight lane.finishReceive.2 := by
  have calls := sound.calls.finishRecv sized
  unfold Lane.finishReceive
  rcases lane.calls.finishRecv_cases with result |
    ⟨value, after, result, received, sent, published, _, writing, _⟩
  · rw [result]
    exact sound
  · rw [result] at calls ⊢
    have more : after.received.length = lane.calls.received.length + 1 := by
      rw [received]
      exact List.length_append
    have waiting := calls.received.length_le
    rw [more, sent] at waiting
    refine { sound with
      calls
      exchange := ?_, inflight := ?_, most := ?_, sendCount := ?_, tokens := ?_, recvCount := ?_
      handles := ?_, synced := ?_ } <;> dsimp only
    · rw [sent, more, List.map_append]
      exact sound.exchange.deliver waiting
    · rw [sent]
      exact sound.inflight
    · rw [writing]
      exact sound.most
    · rw [sent]
      exact sound.sendCount
    · rw [sent]
      exact sound.tokens
    · rw [more, sound.recvCount, Nat.mod_add_mod]
    · intro handle member
      rcases List.mem_append.mp member with earlier | last
      · exact sound.handles handle earlier
      · cases List.mem_singleton.mp last
        exact sound.recvCount
    · rw [published]
      exact sound.synced

variable {index : Nat} {handle : Handle}

theorem answer (idle : lane.responses.writing = none) (here : lane.handles[index]? = some handle)
    {response : Response Resp} (token : response.token = handle.slotToken)
    {after : Ring (Response Resp)} (responses : after.Sound depth)
    (sent : after.sent = lane.responses.sent) (received : after.received = lane.responses.received)
    (freed : after.freed = lane.responses.freed) (writing : after.writing = some response) :
    Sound depth maxInflight (lane.answer index handle.number response (true, after)).2 := by
  have opened : (lane.handles.map Handle.number)[index]? = some handle.number := by
    rw [List.getElem?_map, here]
    rfl
  unfold Lane.answer
  refine { sound with
    responses
    exchange := ?_, inflight := ?_, handles := ?_, replies := ?_, replied := ?_
    synced := ?_ } <;> dsimp only
  · have erased : (lane.handles.eraseIdx index).map Handle.number =
        (lane.handles.map Handle.number).eraseIdx index := by
      rw [List.eraseIdx_eq_take_drop_succ, List.eraseIdx_eq_take_drop_succ, List.map_append,
        List.map_take, List.map_drop]
    rw [erased, received]
    exact sound.exchange.reply opened
  · rw [received]
    exact sound.inflight
  · intro other member
    exact sound.handles other (List.mem_of_mem_eraseIdx member)
  · have replies := sound.replies
    rw [idle, Option.toList_none, List.append_nil] at replies
    rw [sent, writing, Option.toList_some, List.map_append, List.map_append, replies,
      List.map_singleton, List.map_singleton, ← sound.handles handle (List.mem_of_getElem? here),
      token]
  · rw [sent]
    exact sound.replied
  · rw [freed]
    exact sound.synced

/-- There is room for the reply to an open request, unless its caller is in the middle of `sync`. -/
theorem room (fits : maxInflight < depth)
    (synced : lane.syncing = false) (idle : lane.responses.writing = none)
    (here : lane.handles[index]? = some handle) :
    lane.responses.sent.length + 1 < lane.responses.freed + depth := by
  have length := sound.answered_length
  have inside := (List.getElem?_eq_some_iff.mp here).1
  have total := sound.exchange.length_add
  have visible := sound.calls.received_le
  have bound := sound.synced synced
  rw [idle, Option.toList_none, List.length_nil, Nat.add_zero] at length
  rw [List.length_map] at total
  omega

theorem startReply (sized : Spsc.IsDepth depth)
    (fits : maxInflight < depth) (synced : lane.syncing = false)
    (idle : lane.responses.writing = none)
    (here : lane.handles[index]? = some handle) (response : Response Resp)
    (token : response.token = handle.slotToken) :
    ∃ after, lane.startReply index handle.number response = (true, after) ∧
      Sound depth maxInflight after ∧ after.calls = lane.calls := by
  have responses := sound.responses.startSend sized idle response
  have found := sound.responses.startSend_ok sized (sound.room fits synced idle here) response
  obtain ⟨sent, received, _, freed, _, writing⟩ := lane.responses.startSend_frame response
  unfold Lane.startReply
  generalize lane.responses.startSend response = result at *
  obtain ⟨ok, after⟩ := result
  cases found
  exact ⟨_, rfl, sound.answer idle here token responses sent received freed writing, rfl⟩

theorem finishReply (sized : Spsc.IsDepth depth) : Sound depth maxInflight lane.finishReply := by
  have responses := sound.responses.finishSend sized
  have replies := sound.replies
  unfold Lane.finishReply
  rcases lane.responses.finishSend_cases with ⟨idle, result⟩ |
    ⟨value, after, on, result, sent, received, _, freed, writing, _⟩
  · rw [result, idle, Option.toList_none, List.append_nil]
    exact sound
  · rw [result] at responses ⊢
    rw [on, Option.toList_some] at replies ⊢
    refine { sound with
      responses
      exchange := ?_, inflight := ?_, replies := ?_, replied := ?_, synced := ?_ } <;> dsimp only
    · rw [received]
      exact sound.exchange
    · rw [received]
      exact sound.inflight
    · rw [sent, writing, Option.toList_none, List.append_nil]
      exact replies
    · rw [sent, sound.replied]
    · rw [freed]
      exact sound.synced

theorem reply_at {response : Response Resp} (here : lane.responses.sent[index]? = some response) :
    ∃ number, lane.answered[index]? = some number ∧ number < lane.calls.received.length ∧
      lane.tokens[number]? = some response.token := by
  have replies := congrArg (·[index]?) sound.replies
  have inside := (List.getElem?_eq_some_iff.mp here).1
  simp only [List.getElem?_map, List.getElem?_append_left inside, here, Option.map_some] at replies
  obtain ⟨number, answered, token⟩ := Option.map_eq_some_iff.mp replies.symm
  have before := sound.exchange.lt_of_mem_answered (List.mem_of_getElem? answered)
  refine ⟨number, answered, before, ?_⟩
  rw [sound.tokens, List.getElem?_map, List.getElem?_range
    (Nat.lt_of_lt_of_le before sound.exchange.delivered_le), Option.map_some, token]

end Lane.Sound

inductive PollStage where
  | load
  | release
  | publish

inductive ServerPc where
  | idle
  | polling (idx : Nat) (stage : PollStage) (total : Nat)
  /-- The loop of `try_recv` has `left` turns to go. -/
  | scanning (left : Nat)
  | receiving (callerId left : Nat)
  | replying (callerId : Nat)

structure Mpsc (Req Resp : Type) where
  numCallers : Nat
  lanes : Nat → Lane Req Resp
  currentLane : Nat
  pc : ServerPc

namespace Mpsc

variable {Req Resp : Type}

def create (Req Resp : Type) (maxCallers ringDepth maxInflight : Nat) : Mpsc Req Resp where
  numCallers := maxCallers
  lanes _ := .new Req Resp ringDepth maxInflight
  currentLane := 0
  pc := .idle

inductive Action (Req Resp : Type) where
  | call (id : Nat) (req : Req)
  | sync (id : Nat)
  | tryRecvResponse (id : Nat)
  /-- The caller goes on with what it is in. -/
  | caller (id : Nat)
  | poll
  | tryRecv
  | reply (id index : Nat) (resp : Resp)
  /-- The server goes on with what it is in. -/
  | server

def setLane (mpsc : Mpsc Req Resp) (id : Nat) (lane : Lane Req Resp) : Mpsc Req Resp :=
  { mpsc with lanes := Function.update mpsc.lanes id lane }

def callerIdle (mpsc : Mpsc Req Resp) (id : Nat) : Bool :=
  let lane := mpsc.lanes id
  decide (id < mpsc.numCallers) && lane.calls.writing.isNone && !lane.responses.reading &&
    !lane.syncing

def startCall (mpsc : Mpsc Req Resp) (id : Nat) (req : Req) :
    Option (Outcome Req Resp) × Mpsc Req Resp :=
  let started := (mpsc.lanes id).startCall req
  (started.1.map fun error => .call id (.error error), mpsc.setLane id started.2)

def startResponse (mpsc : Mpsc Req Resp) (id : Nat) : Option (Outcome Req Resp) × Mpsc Req Resp :=
  let started := (mpsc.lanes id).startResponse
  (if started.1 then none else some (.tryRecvResponse id none), mpsc.setLane id started.2)

def caller (mpsc : Mpsc Req Resp) (id : Nat) : Option (Outcome Req Resp) × Mpsc Req Resp :=
  let lane := mpsc.lanes id
  if lane.syncing then (none, mpsc.setLane id lane.finishSync)
  else if lane.responses.reading then
    let finished := lane.finishResponse
    (finished.1.map fun response => .tryRecvResponse id (some (response.token, response.data)),
      mpsc.setLane id finished.2)
  else
    let finished := lane.finishCall
    (finished.1.map fun token => .call id (.ok token), mpsc.setLane id finished.2)

/-- The next access of `poll`, to the lane `idx`. -/
def poll (mpsc : Mpsc Req Resp) (idx : Nat) (stage : PollStage) (total : Nat) : Mpsc Req Resp :=
  let lane := mpsc.lanes idx
  match stage with
  | .load => { mpsc.setLane idx lane.refresh with pc := .polling idx .release total }
  | .release =>
    { mpsc.setLane idx { lane with calls := lane.calls.release } with
      pc := .polling idx .publish total }
  | .publish =>
    { mpsc.setLane idx { lane with responses := lane.responses.publish } with
      pc := .polling (idx + 1) .load ((total + lane.available) % 2 ^ 32) }

def scan (mpsc : Mpsc Req Resp) (left : Nat) : Mpsc Req Resp :=
  let idx := mpsc.currentLane
  let lane := mpsc.lanes idx
  let mpsc := { mpsc with currentLane := if idx + 1 ≥ mpsc.numCallers then 0 else idx + 1 }
  if lane.available > 0 then
    match lane.startReceive with
    | (true, lane) => { mpsc.setLane idx lane with pc := .receiving idx left }
    | (false, lane) => { mpsc.setLane idx lane with pc := .scanning left }
  else { mpsc with pc := .scanning left }

def receive (mpsc : Mpsc Req Resp) (callerId left : Nat) :
    Option (Outcome Req Resp) × Mpsc Req Resp :=
  match (mpsc.lanes callerId).finishReceive with
  | (none, lane) => (none, { mpsc.setLane callerId lane with pc := .scanning left })
  | (some (slotToken, data), lane) =>
    (some (.tryRecv (some ({ callerId, slotToken }, data))),
      { mpsc.setLane callerId lane with pc := .idle })

def startReply (mpsc : Mpsc Req Resp) (id index : Nat) (resp : Resp) :
    Option (Outcome Req Resp) × Mpsc Req Resp :=
  match (mpsc.lanes id).handles[index]? with
  | none => (none, mpsc)
  | some handle =>
    match (mpsc.lanes id).startReply index handle.number ⟨handle.slotToken, resp⟩ with
    | (true, lane) => (none, { mpsc.setLane id lane with pc := .replying id })
    | (false, lane) => (some .reply, mpsc.setLane id lane)

def step (mpsc : Mpsc Req Resp) : Action Req Resp → Option (Outcome Req Resp) × Mpsc Req Resp
  | .call id req => if mpsc.callerIdle id then mpsc.startCall id req else (none, mpsc)
  | .sync id =>
    (none, if mpsc.callerIdle id then mpsc.setLane id (mpsc.lanes id).startSync else mpsc)
  | .tryRecvResponse id => if mpsc.callerIdle id then mpsc.startResponse id else (none, mpsc)
  | .caller id => mpsc.caller id
  | .poll =>
    match mpsc.pc with
    | .idle => (none, { mpsc with pc := .polling 0 .load 0 })
    | _ => (none, mpsc)
  | .tryRecv =>
    match mpsc.pc with
    | .idle => (none, { mpsc with pc := .scanning mpsc.numCallers })
    | _ => (none, mpsc)
  | .reply id index resp =>
    match mpsc.pc with
    | .idle => mpsc.startReply id index resp
    | _ => (none, mpsc)
  | .server =>
    match mpsc.pc with
    | .idle => (none, mpsc)
    | .polling idx stage total =>
      if idx < mpsc.numCallers then (none, mpsc.poll idx stage total)
      else (some (.poll total), { mpsc with pc := .idle })
    | .scanning 0 => (some (.tryRecv none), { mpsc with pc := .idle })
    | .scanning (left + 1) => (none, mpsc.scan left)
    | .receiving callerId left => mpsc.receive callerId left
    | .replying callerId =>
      (some .reply, { mpsc.setLane callerId (mpsc.lanes callerId).finishReply with pc := .idle })

def next (mpsc : Mpsc Req Resp) (action : Action Req Resp) : Mpsc Req Resp := (mpsc.step action).2

end Mpsc

namespace Mpsc

variable {Req Resp : Type}

def busy (mpsc : Mpsc Req Resp) : Option Nat :=
  match mpsc.pc with
  | .receiving callerId _ | .replying callerId => some callerId
  | .idle | .polling .. | .scanning _ => none

/-- Every lane is sound, and the server is busy with one lane at most. -/
structure Sound (depth maxInflight : Nat) (mpsc : Mpsc Req Resp) : Prop where
  lanes : ∀ id, (mpsc.lanes id).Sound depth maxInflight
  quiet : ∀ id, mpsc.busy ≠ some id →
    (mpsc.lanes id).calls.reading = false ∧ (mpsc.lanes id).responses.writing = none
  receiving : ∀ id left, mpsc.pc = .receiving id left → (mpsc.lanes id).responses.writing = none
  replying : ∀ id, mpsc.pc = .replying id → (mpsc.lanes id).calls.reading = false

namespace Sound

variable {depth maxInflight : Nat} {mpsc : Mpsc Req Resp}

theorem create (Req Resp : Type) (maxCallers : Nat) (sized : Spsc.IsDepth depth)
    (maxInflight : Nat) : Sound depth maxInflight (create Req Resp maxCallers depth maxInflight) where
  lanes _ := .new Req Resp sized maxInflight
  quiet _ _ := ⟨rfl, rfl⟩
  receiving _ _ pc := by cases pc
  replying _ pc := by cases pc

variable (sound : Sound depth maxInflight mpsc)
include sound

theorem called {id : Nat} {lane : Lane Req Resp}
    (here : lane.Sound depth maxInflight) (called : Called (mpsc.lanes id) lane) :
    Sound depth maxInflight (mpsc.setLane id lane) := by
  have same : ∀ other, ((mpsc.setLane id lane).lanes other).calls.reading =
        (mpsc.lanes other).calls.reading ∧
      ((mpsc.setLane id lane).lanes other).responses.writing =
        (mpsc.lanes other).responses.writing := by
    intro other
    by_cases own : other = id
    · subst own
      simpa [Mpsc.setLane] using ⟨called.reading, called.writing⟩
    · simp [Mpsc.setLane, own]
  constructor
  case lanes =>
    intro other
    by_cases own : other = id
    · subst own
      simpa [Mpsc.setLane] using here
    · simpa [Mpsc.setLane, own] using sound.lanes other
  case quiet =>
    intro other free
    rw [(same other).1, (same other).2]
    exact sound.quiet other free
  case receiving =>
    intro other left pc
    rw [(same other).2]
    exact sound.receiving other left pc
  case replying =>
    intro other pc
    rw [(same other).1]
    exact sound.replying other pc

theorem served {id : Nat} {lane : Lane Req Resp}
    {pc : ServerPc} {currentLane : Nat} (alone : ∀ other, other ≠ id → mpsc.busy ≠ some other)
    (here : lane.Sound depth maxInflight)
    (reading : lane.calls.reading = false ∨ ∃ left, pc = .receiving id left)
    (writing : lane.responses.writing = none ∨ pc = .replying id) :
    Sound depth maxInflight { mpsc.setLane id lane with pc, currentLane } := by
  have own : Function.update mpsc.lanes id lane id = lane := Function.update_self ..
  have others : ∀ other, other ≠ id → Function.update mpsc.lanes id lane other = mpsc.lanes other :=
    fun other different => Function.update_of_ne different ..
  constructor <;> dsimp only [Mpsc.setLane]
  case lanes =>
    intro other
    by_cases same : other = id
    · subst same
      rw [own]
      exact here
    · rw [others other same]
      exact sound.lanes other
  case quiet =>
    intro other free
    by_cases same : other = id
    · subst same
      rw [own]
      constructor
      · rcases reading with off | ⟨left, rfl⟩
        · exact off
        · exact absurd rfl free
      · rcases writing with off | rfl
        · exact off
        · exact absurd rfl free
    · rw [others other same]
      exact sound.quiet other (alone other same)
  case receiving =>
    rintro other left rfl
    by_cases same : other = id
    · subst same
      rw [own]
      exact writing.resolve_right nofun
    · rw [others other same]
      exact (sound.quiet other (alone other same)).2
  case replying =>
    rintro other rfl
    by_cases same : other = id
    · subst same
      rw [own]
      exact reading.resolve_right nofun
    · rw [others other same]
      exact (sound.quiet other (alone other same)).1

theorem turn (free : mpsc.busy = none) {pc : ServerPc}
    {currentLane : Nat} (receiving : ∀ id left, pc ≠ .receiving id left)
    (replying : ∀ id, pc ≠ .replying id) :
    Sound depth maxInflight { mpsc with pc, currentLane } where
  lanes := sound.lanes
  quiet id _ := sound.quiet id (by rw [free]; exact nofun)
  receiving id left same := absurd same (receiving id left)
  replying id same := absurd same (replying id)

theorem caller (sized : Spsc.IsDepth depth) (id : Nat) :
    Sound depth maxInflight (mpsc.caller id).2 := by
  unfold Mpsc.caller
  dsimp only
  split
  · exact sound.called (sound.lanes id).finishSync ⟨rfl, rfl⟩
  · split
    · exact sound.called ((sound.lanes id).finishResponse sized) (.finishResponse _)
    · exact sound.called ((sound.lanes id).finishCall sized) (.finishCall _)

theorem poll {idx total : Nat} {stage : PollStage} (pc : mpsc.pc = .polling idx stage total) :
    Sound depth maxInflight (mpsc.poll idx stage total) := by
  have free : ∀ other, mpsc.busy ≠ some other := by
    intro other
    unfold busy
    rw [pc]
    exact nofun
  obtain ⟨reading, writing⟩ := sound.quiet idx (free idx)
  cases stage with
  | load =>
    exact sound.served (fun other _ => free other) ((sound.lanes idx).refresh reading)
      (.inl reading) (.inl writing)
  | release =>
    exact sound.served (fun other _ => free other) (sound.lanes idx).release
      (.inl reading) (.inl writing)
  | publish =>
    exact sound.served (fun other _ => free other) (sound.lanes idx).publish
      (.inl reading) (.inl writing)

variable (sized : Spsc.IsDepth depth)
include sized

theorem scan (free : mpsc.busy = none) (left : Nat) : Sound depth maxInflight (mpsc.scan left) := by
  have alone : ∀ other, mpsc.busy ≠ some other := fun other => by rw [free]; exact nofun
  obtain ⟨reading, writing⟩ := sound.quiet mpsc.currentLane (alone _)
  have later := (sound.lanes mpsc.currentLane).startReceive sized
  obtain ⟨_, _, _, _, _, flag⟩ := (mpsc.lanes mpsc.currentLane).calls.startRecv_frame
  unfold Mpsc.scan
  dsimp only
  split
  · split
    · rename_i lane result
      have same : lane.responses = (mpsc.lanes mpsc.currentLane).responses :=
        congrArg (·.2.responses) result.symm
      rw [result] at later
      exact sound.served (fun other _ => alone other) later (.inr ⟨left, rfl⟩)
        (.inl (by rw [same]; exact writing))
    · rename_i lane result
      have same : lane.responses = (mpsc.lanes mpsc.currentLane).responses :=
        congrArg (·.2.responses) result.symm
      have found : (mpsc.lanes mpsc.currentLane).calls.startRecv.1 = false :=
        congrArg Prod.fst result
      have calls : lane.calls = (mpsc.lanes mpsc.currentLane).calls.startRecv.2 :=
        congrArg (·.2.calls) result.symm
      rw [result] at later
      refine sound.served (fun other _ => alone other) later (.inl ?_)
        (.inl (by rw [same]; exact writing))
      rw [calls, flag, found, reading]
      rfl
  · exact sound.turn free nofun nofun

theorem receive {callerId left : Nat} (pc : mpsc.pc = .receiving callerId left) :
    Sound depth maxInflight (mpsc.receive callerId left).2 := by
  have later := (sound.lanes callerId).finishReceive sized
  have writing := sound.receiving callerId left pc
  have alone : ∀ other, other ≠ callerId → mpsc.busy ≠ some other := by
    intro other different
    unfold busy
    rw [pc]
    exact fun same => different (Option.some.inj same).symm
  unfold Mpsc.receive
  unfold Lane.finishReceive at later ⊢
  rcases (mpsc.lanes callerId).calls.finishRecv_cases with result |
    ⟨_, after, result, _, _, _, _, _, reading⟩
  · have reading := (sound.lanes callerId).calls.finishRecv_none sized result
    rw [result] at later ⊢
    exact sound.served alone later (.inl reading) (.inl writing)
  · rw [result] at later ⊢
    exact sound.served alone later (.inl reading) (.inl writing)

theorem startReply
    (fits : maxInflight < depth) {id : Nat} (synced : (mpsc.lanes id).syncing = false)
    (pc : mpsc.pc = .idle) (index : Nat) (resp : Resp) :
    Sound depth maxInflight (mpsc.startReply id index resp).2 := by
  have free : ∀ other, mpsc.busy ≠ some other := by
    intro other
    unfold busy
    rw [pc]
    exact nofun
  obtain ⟨reading, writing⟩ := sound.quiet id (free id)
  unfold Mpsc.startReply
  split
  · exact sound
  · rename_i handle here
    obtain ⟨lane, result, later, calls⟩ :=
      (sound.lanes id).startReply sized fits synced writing here ⟨handle.slotToken, resp⟩ rfl
    rw [result]
    exact sound.served (fun other _ => free other) later (.inl (by rw [calls]; exact reading))
      (.inr rfl)

theorem finishReply {callerId : Nat} (pc : mpsc.pc = .replying callerId) : Sound depth maxInflight
      { mpsc.setLane callerId (mpsc.lanes callerId).finishReply with pc := .idle } := by
  have reading := sound.replying callerId pc
  have alone : ∀ other, other ≠ callerId → mpsc.busy ≠ some other := by
    intro other different
    unfold busy
    rw [pc]
    exact fun same => different (Option.some.inj same).symm
  refine sound.served alone ((sound.lanes callerId).finishReply sized) (.inl reading) (.inl ?_)
  unfold Lane.finishReply
  rcases (mpsc.lanes callerId).responses.finishSend_cases with ⟨idle, result⟩ |
    ⟨_, after, _, result, _, _, _, _, writing, _⟩
  · rw [result]
    exact idle
  · rw [result]
    exact writing

end Sound

/-- No reply looks for room while its caller is between the two stores of `sync`. -/
def RepliesOutsideSync (mpsc : Mpsc Req Resp) : Action Req Resp → Prop
  | .reply id _ _ => (mpsc.lanes id).syncing = false
  | _ => True

instance (mpsc : Mpsc Req Resp) (action : Action Req Resp) :
    Decidable (mpsc.RepliesOutsideSync action) :=
  match action with
  | .reply id _ _ => inferInstanceAs (Decidable ((mpsc.lanes id).syncing = false))
  | .call .. | .sync _ | .tryRecvResponse _ | .caller _ | .poll | .tryRecv | .server => isTrue trivial

/-- The rings of all callers stay sound if no reply looks for room inside `sync`. -/
theorem Sound.next {depth maxInflight : Nat} {mpsc : Mpsc Req Resp}
    (sound : Sound depth maxInflight mpsc) (sized : Spsc.IsDepth depth) (fits : maxInflight < depth)
    {action : Action Req Resp} (outside : mpsc.RepliesOutsideSync action) :
    Sound depth maxInflight (mpsc.next action) := by
  unfold Mpsc.next Mpsc.step
  cases action with
  | call id req =>
    dsimp only
    split
    · rename_i idle
      have free : (mpsc.lanes id).calls.writing = none := by
        simp only [callerIdle, Bool.and_eq_true] at idle
        exact Option.isNone_iff_eq_none.mp idle.1.1.2
      exact sound.called ((sound.lanes id).startCall sized free req) (.startCall _ req)
    · exact sound
  | sync id =>
    dsimp only
    split
    · exact sound.called (sound.lanes id).startSync ⟨rfl, rfl⟩
    · exact sound
  | tryRecvResponse id =>
    dsimp only
    split
    · exact sound.called ((sound.lanes id).startResponse sized) (.startResponse _)
    · exact sound
  | caller id => exact sound.caller sized id
  | poll =>
    dsimp only
    split
    · rename_i pc
      exact sound.turn (by unfold busy; rw [pc]) nofun nofun
    · exact sound
  | tryRecv =>
    dsimp only
    split
    · rename_i pc
      exact sound.turn (by unfold busy; rw [pc]) nofun nofun
    · exact sound
  | reply id index resp =>
    dsimp only
    split
    · rename_i pc
      exact sound.startReply sized fits outside pc index resp
    · exact sound
  | server =>
    dsimp only
    split
    · exact sound
    · rename_i pc
      split
      · exact sound.poll pc
      · exact sound.turn (by unfold busy; rw [pc]) nofun nofun
    · rename_i pc
      exact sound.turn (by unfold busy; rw [pc]) nofun nofun
    · rename_i pc
      exact sound.scan sized (by unfold busy; rw [pc]) _
    · rename_i pc
      exact sound.receive sized pc
    · rename_i pc
      exact sound.finishReply sized pc

/-- If no reply looks for room in the middle of its caller's `sync`, every reply is stored and
received in its order, once and with the token of its call. -/
theorem lamport_responses {depth maxInflight : Nat} (sized : Spsc.IsDepth depth)
    (fits : maxInflight < depth) (maxCallers : Nat) {actions : List (Action Req Resp)}
    (outside : Along next RepliesOutsideSync (create Req Resp maxCallers depth maxInflight) actions)
    (id : Nat) :
    let lane := (run next (create Req Resp maxCallers depth maxInflight) actions).lanes id
    lane.replied = lane.responses.sent ∧ lane.responses.received <+: lane.responses.sent ∧
      (∀ (index : Nat) (response : Response Resp), lane.responses.sent[index]? = some response →
        ∃ number, lane.answered[index]? = some number ∧ number < lane.calls.received.length ∧
          lane.tokens[number]? = some response.token) ∧
      lane.answered.Nodup ∧ lane.calls.received <+: lane.calls.sent ∧
      lane.tokens.length = lane.calls.sent.length := by
  intro lane
  have kept : ∀ (mpsc : Mpsc Req Resp) (action : Action Req Resp), Sound depth maxInflight mpsc →
      mpsc.RepliesOutsideSync action → Sound depth maxInflight (mpsc.next action) :=
    fun _ _ sound outside => sound.next sized fits outside
  have sound := run_invariant kept (.create Req Resp maxCallers sized maxInflight) outside
  have own : lane.Sound depth maxInflight := sound.lanes id
  refine ⟨own.replied, own.responses.received, fun _ _ here => own.reply_at here,
    own.exchange.nodup, own.calls.received, ?_⟩
  rw [own.tokens, List.length_map, List.length_range]

/-- A call with its reply, up to the response. -/
def roundTrip : List (Action Nat Nat) :=
  [.call 0 10, .caller 0, .sync 0, .caller 0, .poll, .server, .server, .server, .server,
    .tryRecv, .server, .server, .reply 0 0 110, .server, .poll, .server, .server, .server, .server,
    .tryRecvResponse 0, .caller 0]

/-- The next call, whose reply waits until the caller's `sync` is over. -/
def patientReply : List (Action Nat Nat) :=
  roundTrip ++ [.call 0 11, .caller 0, .sync 0, .poll, .server, .server, .server, .server,
    .tryRecv, .server, .server, .caller 0, .reply 0 0 111, .server]

theorem lamport_responses_patientReply :
    let lane := (run next (create Nat Nat 1 2 1) patientReply).lanes 0
    Along next RepliesOutsideSync (create Nat Nat 1 2 1) patientReply ∧
      lane.replied = [⟨0, 110⟩, ⟨1, 111⟩] ∧ lane.responses.received = [⟨0, 110⟩] ∧
      lane.replied = lane.responses.sent := by
  intro lane
  have outside : Along next RepliesOutsideSync (create Nat Nat 1 2 1) patientReply := by
    decide +kernel
  have stored := (lamport_responses ⟨⟨1, rfl⟩, by decide⟩ (by decide) 1 outside 0).1
  exact ⟨outside, by decide +kernel, by decide +kernel, stored⟩

/-- The slot of the response that the caller has read is not free yet, and the reply is dropped. -/
theorem reply_within_sync_is_dropped :
    let lane := (run next (create Nat Nat 1 2 1) (roundTrip ++ [.call 0 11, .caller 0, .sync 0,
      .poll, .server, .server, .server, .server, .tryRecv, .server, .server, .reply 0 0 111,
      .caller 0])).lanes 0
    lane.replied = [⟨0, 110⟩, ⟨1, 111⟩] ∧ lane.responses.sent = [⟨0, 110⟩] ∧
      lane.handles = [] ∧ lane.inflight = 1 := by
  decide +kernel

end Mpsc

end Lamport

end Locasta.Mempc
