import Locasta.Copyrpc.Dc.Cramped
import Locasta.Copyrpc.Matching

namespace Locasta.Copyrpc.Dc

open Data EndpointInner Function

/-! Calls and responses over the DC transport, end to end. -/

variable {U : Type} {size : Nat} {own peer sender receiver : DcSide U} {write : WriteImm}

/-- The headers of what is sent to the endpoint `endpointId`. -/
def codec (endpointId : UInt32) : Codec (messageWire endpointId) U where
  header
    | .request key _ _ _ => UInt32.ofNat key
    | .response request _ => toResponseId request.message.callId
  callId := RecvMessage.callId
  request_callId _ _ _ _ := rfl
  response_callId _ _ := rfl

theorem message_eq_codec (endpointId : UInt32) (sent : List (Sent RecvMessage U)) :
    sent.map message = sent.map (codec endpointId).message := by
  apply List.map_congr_left
  intro entry _
  cases entry <;> rfl

/-- The slab hands out a vacant key that leaves room for the response flag. -/
def VacantKey (own : DcSide U) : Action U → Prop
  | .call _ key _ _ _ => (own.ep.pendingCalls key).isNone ∧ key < 2 ^ 31
  | _ => True

/-- The length of the data fits the length field of the header. -/
def ShortPayload : Action U → Prop
  | .call _ _ data _ _ | .reply _ _ data => data.length < 2 ^ 32
  | _ => True

instance (own : DcSide U) : (action : Action U) → Decidable (VacantKey own action)
  | .call .. => inferInstanceAs (Decidable (_ ∧ _))
  | .reply .. | .flush _ | .recv | .drop _ | .land | .process => isTrue trivial

instance : (action : Action U) → Decidable (ShortPayload action)
  | .call .. | .reply .. => inferInstanceAs (Decidable (_ < _))
  | .flush _ | .recv | .drop _ | .land | .process => isTrue trivial

section Attached

variable {ep : EndpointInner U} {ring : RemoteRingInfo}

theorem call_outcome {key : Nat} {data : List UInt8} {userData : U} (responseAllowance : Nat)
    {result : Except (CallError U) UInt32} {after : EndpointInner U}
    (connected : ep.remoteRecvRing = some ring)
    (outcome : ep.call key data userData responseAllowance = (result, after)) :
    (∃ callId, result = .ok callId ∧ after = ep.acceptCall key data userData) ∨
      ∃ wrapPending, result = .error (.ringFull userData) ∧
        after = markDirty { ep with wrapPending } := by
  revert outcome
  refine call_elim (motive := fun value => value = (result, after) → _) connected
    responseAllowance ?_ ?_
  · rintro _ ⟨⟩
    exact .inl ⟨_, rfl, rfl⟩
  · rintro wrapPending _ ⟨⟩
    exact .inr ⟨wrapPending, rfl, rfl⟩

theorem reply_outcome {handle : RecvMessage} {data : List UInt8} {result : Except Error Unit}
    {after : EndpointInner U} (connected : ep.remoteRecvRing = some ring)
    (outcome : ep.reply handle data = (result, after)) :
    (result = .ok () ∧ after = ep.acceptReply handle data) ∨
      ∃ wrapPending, result = .error .ringFull ∧ after = markDirty { ep with wrapPending } := by
  revert outcome
  refine reply_elim (motive := fun value => value = (result, after) → _) connected ?_ ?_
  · rintro _ ⟨⟩
    exact .inl ⟨rfl, rfl⟩
  · rintro wrapPending _ ⟨⟩
    exact .inr ⟨wrapPending, rfl, rfl⟩

end Attached

variable {target : Target}

theorem remoteRecvRing_offer {stream : List Message} {ep : EndpointInner U}
    (sending : Sending target size stream ep) (answers : List Bool) :
    (ep.offer answers).remoteRecvRing = some target.ring := by
  obtain ⟨_, connected⟩ := sending.attached
  exact connected.ring

variable {action : Action U}

theorem act_messages {motive : List (Sent RecvMessage U) → List Nat → Slab U → Prop}
    (sending : Sending target size (own.sent.map message) own.ep) (peer : DcSide U)
    (other : action ≠ .process)
    (kept : motive own.sent own.replied own.ep.pendingCalls)
    (called : ∀ answers key data userData responseAllowance,
      action = .call answers key data userData responseAllowance →
      motive (own.sent ++ [.request key data userData responseAllowance]) own.replied
        (own.ep.pendingCalls.insert key userData))
    (replied : ∀ answers index data request, action = .reply answers index data →
      own.handles[index]? = some request →
      motive (own.sent ++ [.response request data]) (request.seq :: own.replied)
        own.ep.pendingCalls) :
    motive (own.act transport peer action).sent (own.act transport peer action).replied
      (own.act transport peer action).ep.pendingCalls := by
  refine Side.act_elim
    (motive := fun side : DcSide U => motive side.sent side.replied side.ep.pendingCalls)
    action kept ?_ ?_ ?_ ?_ ?_ ?_ ?_ ?_ ?_
  · rintro answers key data userData responseAllowance callId ep isCall outcome
    obtain ⟨_, _, rfl⟩ | ⟨_, failed, _⟩ :=
      call_outcome responseAllowance (remoteRecvRing_offer sending answers) outcome
    · exact called _ _ _ _ _ isCall
    · cases failed
  · rintro answers key data userData responseAllowance error ep _ outcome
    obtain ⟨_, accepted, _⟩ | ⟨_, _, rfl⟩ :=
      call_outcome responseAllowance (remoteRecvRing_offer sending answers) outcome
    · cases accepted
    · exact kept
  · rintro answers index data request value ep isReply live outcome
    obtain ⟨_, rfl⟩ | ⟨_, failed, _⟩ :=
      reply_outcome (remoteRecvRing_offer sending answers) outcome
    · exact replied _ _ _ _ isReply live
    · cases failed
  · rintro answers index data request error ep _ _ outcome
    obtain ⟨accepted, _⟩ | ⟨_, _, rfl⟩ :=
      reply_outcome (remoteRecvRing_offer sending answers) outcome
    · cases accepted
    · exact kept
  · intro answers _
    have flushed := (frame_stable fun _ pending => pending = own.ep.pendingCalls).flushEndpoint
      ⟨sending.offer answers, rfl⟩ (fun _ _ _ => trivial) (fun _ _ _ => trivial)
    change motive own.sent own.replied (own.ep.offer answers).flushEndpoint.pendingCalls
    rw [flushed.2]
    exact kept
  · intro request rest _
    exact kept
  · intro index
    exact kept
  · intro write _ _
    exact kept
  · intro write _ _ _ isProcess
    exact absurd isProcess other

theorem endpointId_act
    (sending : Sending target size (own.sent.map message) own.ep) (peer : DcSide U)
    (action : Action U) : (own.act transport peer action).ep.endpointId = own.ep.endpointId := by
  have receiving := act_receiving sending peer action
  generalize own.act transport peer action = after at receiving
  cases receiving with
  | kept incoming => exact congrArg (fun incoming => incoming.target.endpointId) incoming
  | landed next => rfl
  | @processed write =>
    obtain ⟨_, _, _, _, _, _, shape⟩ := own.ep.processCqeStatic_shape write.imm
    change (own.ep.processCqeStatic write.imm).1.endpointId = _
    rw [shape]

theorem Lockstep.batch_sent (lockstep : Lockstep size sender receiver)
    (next : sender.ep.dci.posted[receiver.processed]? = some write) :
    ((sender.sent.drop receiver.seen).take write.batch.messages.length).map message =
      write.batch.messages := by
  rw [List.map_take, List.map_drop, lockstep.seen]
  exact lockstep.outgoing.sending.outlet.next_messages next

theorem Lockstep.carried_length (lockstep : Lockstep size sender receiver) :
    receiver.seen ≤ sender.sent.length ∧
      (sender.ep.batchMessageCount = 0 → receiver.processed = sender.ep.dci.posted.length →
        receiver.seen = sender.sent.length) := by
  have carried := lockstep.outgoing.sending.outlet.carried_length receiver.processed
  rw [List.length_map] at carried
  rw [lockstep.seen]
  exact carried

def IsCall (sent : List (Sent RecvMessage U)) (request : Request RecvMessage) : Prop :=
  ∃ key data userData responseAllowance,
    sent[request.seq]? = some (.request key data userData responseAllowance) ∧
    request.message.callId = UInt32.ofNat key ∧
    request.message.dataLen = asU32 data.length

def Requests (sender receiver : DcSide U) : Prop :=
  ∀ request ∈ receiver.live, IsCall sender.sent request

theorem request_of_event (lockstep : Lockstep size peer own)
    (next : peer.ep.dci.posted[own.processed]? = some write) {index : Nat}
    {request : Request RecvMessage}
    (event : (deliver (messageWire own.ep.endpointId) size write.batch.messages
      (own.ep.lastRecvPos + batchHeaderSize) own.ep.pendingCalls).2[index]? =
        some (.request request.message))
    (seq : request.seq = own.seen + index) : IsCall peer.sent request := by
  obtain ⟨frame, here, isRequest, shape⟩ := deliver_request event
  have inside : index < write.batch.messages.length := (List.getElem?_eq_some_iff.mp here).1
  rw [← lockstep.batch_sent next, List.getElem?_map, List.getElem?_take_of_lt inside,
    List.getElem?_drop] at here
  obtain ⟨entry, sent, same⟩ := Option.map_eq_some_iff.mp here
  cases entry with
  | request key data userData responseAllowance =>
    refine ⟨key, data, userData, responseAllowance, seq ▸ sent, ?_⟩
    rw [shape, ← same]
    refine ⟨rfl, ?_⟩
    change (data.take (data.length % 2 ^ 32)).length = _
    rw [List.length_take, Nat.min_eq_left (Nat.mod_le ..)]
    rfl
  | response request data =>
    rw [← same] at isRequest
    change isResponse (toResponseId request.message.callId) = false at isRequest
    rw [isResponse_toResponseId] at isRequest
    cases isRequest

theorem Requests.acting (requests : Requests own peer) (action : Action U) :
    Requests (own.act transport peer action) peer := by
  intro request member
  obtain ⟨key, data, userData, responseAllowance, here, fields⟩ := requests request member
  exact ⟨key, data, userData, responseAllowance, getElem?_extend (Side.sent_act action) here, fields⟩

theorem Requests.observing (requests : Requests peer own) (lockstep : Lockstep size peer own)
    (intact : IntactProcess size own peer action) :
    Requests peer (own.act transport peer action) := by
  intro request member
  rcases Side.live_act member with
    ⟨old, _⟩ | ⟨write, index, isProcess, ready, next, event, seq, _⟩
  · exact requests request old
  · subst isProcess
    rw [lockstep.process_eq next (intact ready write next)] at event
    exact request_of_event lockstep next event seq

/-- One direction: the calls and responses of the sender match what the receiver has. -/
structure Matched (size : Nat) (sender receiver : DcSide U) : Prop where
  lockstep : Lockstep size sender receiver
  requests : Requests receiver sender
  conversation : (codec receiver.ep.endpointId).Conversation RecvMessage.endpointId
    (fun _ => receiver.ep.endpointId) sender receiver receiver.ep.pendingCalls

theorem outbox_act {endpointId : UInt32}
    (outbox : (codec endpointId).Outbox peer.sent own.sent own.replied)
    (sending : Sending target size (own.sent.map message) own.ep) (requests : Requests peer own)
    (peerSmall : ∀ entry ∈ peer.sent, entry.Small messageFraming.lengthLimit)
    (once : own.RepliesOnce action) (vacant : VacantKey own action) (short : ShortPayload action) :
    (codec endpointId).Outbox peer.sent (own.act transport peer action).sent
      (own.act transport peer action).replied := by
  by_cases isProcess : action = .process
  · subst isProcess
    obtain ⟨sent, replied⟩ := Side.sent_process transport own peer
    rw [sent, replied]
    exact outbox
  · refine act_messages (motive := fun sent replied _ =>
      (codec endpointId).Outbox peer.sent sent replied) sending peer isProcess outbox ?_ ?_
    · rintro answers key data userData responseAllowance rfl
      exact outbox.appendRequest vacant.2 short
    · rintro answers index data request rfl live
      have held : request ∈ own.live := List.mem_append_right _ (List.mem_of_getElem? live)
      obtain ⟨key, bytes, userData, responseAllowance, here, callId, _⟩ := requests request held
      have smallCall := peerSmall _ (List.mem_of_getElem? here)
      exact outbox.appendResponse short
        ⟨key, bytes, userData, responseAllowance, here, smallCall.1, callId⟩ (once request live)

namespace Matched

variable {action : Action U}

theorem acting (matched : Matched size own peer) (back : Matched size peer own)
    (intact : IntactProcess size own peer action) (once : own.RepliesOnce action)
    (vacant : VacantKey own action) (short : ShortPayload action) :
    Matched size (own.act transport peer action) peer where
  lockstep := matched.lockstep.acting action
  requests := matched.requests.observing back.lockstep intact
  conversation := matched.conversation.extend (Side.sent_act action)
    (outbox_act matched.conversation.outbox matched.lockstep.outgoing.sending matched.requests
      back.conversation.outbox.small once vacant short)

variable (matched : Matched size peer own)
include matched

theorem observing_other (back : Lockstep size own peer) (other : action ≠ .process)
    (vacant : VacantKey own action) :
    Pending (own.act transport peer action).sent (answerSeqs (peer.sent.take own.seen))
      (own.act transport peer action).ep.pendingCalls := by
  have pending := matched.conversation.pending
  refine act_messages (motive := fun sent _ pending =>
      Pending sent (answerSeqs (peer.sent.take own.seen)) pending)
    back.outgoing.sending peer other pending ?_ ?_
  · rintro answers key data userData responseAllowance rfl
    exact pending.appendRequest (Option.isNone_iff_eq_none.mp vacant.1)
  · intro answers index data request _ _
    exact pending.appendResponse

theorem process (intact : IntactProcess size own peer .process) :
    (codec own.ep.endpointId).Conversation RecvMessage.endpointId (fun _ => own.ep.endpointId) peer
      (own.act transport peer .process) (own.act transport peer .process).ep.pendingCalls := by
  have lockstep := matched.lockstep
  rcases Side.act_process transport own peer with idle | ⟨write, ready, next, result⟩
  · rw [idle]
    exact matched.conversation
  · have whole := intact ready write next
    have batch := lockstep.batch_sent next
    rw [message_eq_codec own.ep.endpointId] at batch
    have position : own.ep.lastRecvPos = write.start :=
      lockstep.position.trans (lockstep.next_start next).1.symm
    obtain ⟨frames, inside⟩ := (lockstep.emitted (List.mem_of_getElem? next)).sound.frames_at whole
      (Nat.pos_of_isPowerOfTwo lockstep.power) (congrArg (· % size) position)
    have delivered := matched.conversation.process transport (own.ep.receive size write)
      (own.processed + 1) batch frames inside (fun _ _ _ => rfl) (fun _ _ _ _ _ _ => rfl)
    obtain ⟨_, _, _, observed⟩ := Side.foldl_observe transport
      (deliver (messageWire own.ep.endpointId) size write.batch.messages
        (own.ep.lastRecvPos + batchHeaderSize) own.ep.pendingCalls).2
      { own with ep := own.ep.receive size write, processed := own.processed + 1 }
    change (codec own.ep.endpointId).Conversation _ _ peer
      (List.foldl _ _ (deliver (messageWire own.ep.endpointId) size write.batch.messages
        (own.ep.lastRecvPos + batchHeaderSize) own.ep.pendingCalls).2) _ at delivered
    rw [lockstep.process_eq next whole] at result
    rw [result]
    rw [observed] at delivered ⊢
    exact delivered

theorem observing (back : Matched size own peer) (intact : IntactProcess size own peer action)
    (vacant : VacantKey own action) : Matched size peer (own.act transport peer action) where
  lockstep := matched.lockstep.observing back.lockstep intact
  requests := matched.requests.acting action
  conversation := by
    rw [endpointId_act back.lockstep.outgoing.sending]
    by_cases isProcess : action = .process
    · subst isProcess
      exact matched.process intact
    · exact matched.conversation.respond (Side.sent_act action)
        (Side.logs_act transport own peer isProcess)
        (matched.observing_other back.lockstep isProcess vacant)

end Matched

/-- Batches are intact when processed, handles are replied to once, and keys are vacant. -/
def MatchGuard (size : Nat) (own peer : DcSide U) (action : Action U) : Prop :=
  IntactProcess size own peer action ∧ own.RepliesOnce action ∧ VacantKey own action

instance (size : Nat) (own peer : DcSide U) (action : Action U) :
    Decidable (MatchGuard size own peer action) :=
  inferInstanceAs (Decidable (_ ∧ _ ∧ _))

section Connected

variable {config : Party → EndpointConfig} {host : Party → Host}
  {actions : List (Party × Action U)}

/-- Pending calls, open calls and responses match along every guarded run. -/
theorem matched_run (rings : EqualRings config size) (roomy : 2 * flowMetadataSize ≤ size)
    (guarded : Along step (Duplex fun own peer action =>
      MatchGuard size own peer action ∧ ShortPayload action) (connected config host) actions) :
    Linked (Matched size) (run step (connected config host) actions) := by
  refine Linked.run ?_ ?_ ?_ guarded
  · intro own peer action matched back ⟨⟨intact, once, vacant⟩, short⟩
    exact matched.acting back intact once vacant short
  · intro own peer action matched back ⟨⟨intact, _, vacant⟩, _⟩
    exact back.observing matched intact vacant
  · intro party
    exact {
      lockstep := connected_lockstep rings roomy party
      requests := by
        intro request member
        cases member
      conversation := .new .. }

/-- The action is a call or a reply that finds the ring full. -/
def TurnedAway (own : DcSide U) : Action U → Prop
  | .call answers key data userData responseAllowance => ∃ returned,
      (transport.call own.ep answers key data userData responseAllowance).1 =
        .error (.ringFull returned)
  | .reply answers index data => ∃ request, own.handles[index]? = some request ∧
      (transport.reply own.ep answers request.message data).1 = .error .ringFull
  | _ => False

theorem turnedAway_act {ring : RemoteRingInfo} (attached : own.ep.Attached ring) (peer : DcSide U)
    {action : Action U} (full : TurnedAway own action) :
    let after := own.act transport peer action
    after.ep.pendingCalls = own.ep.pendingCalls ∧
      after.ep.batchMessageCount = own.ep.batchMessageCount ∧
      after.ep.sendRingProducer = own.ep.sendRingProducer ∧ after.sent = own.sent := by
  obtain ⟨_, connected⟩ := attached
  have remote (answers : List Bool) : (own.ep.offer answers).remoteRecvRing = some ring :=
    connected.ring
  cases action with
  | call answers key data userData responseAllowance =>
    obtain ⟨returned, failed⟩ := full
    rcases outcome : transport.call own.ep answers key data userData responseAllowance
      with ⟨result, after⟩
    rw [outcome] at failed
    subst failed
    obtain ⟨_, accepted, _⟩ | ⟨_, _, rfl⟩ := call_outcome responseAllowance (remote answers) outcome
    · cases accepted
    · simp only [Side.act, outcome]
      exact ⟨rfl, rfl, rfl, trivial⟩
  | reply answers index data =>
    obtain ⟨request, live, failed⟩ := full
    rcases outcome : transport.reply own.ep answers request.message data with ⟨result, after⟩
    rw [outcome] at failed
    subst failed
    obtain ⟨accepted, _⟩ | ⟨_, _, rfl⟩ := reply_outcome (remote answers) outcome
    · cases accepted
    · simp only [Side.act, live, outcome]
      exact ⟨rfl, rfl, rfl, trivial⟩
  | _ => exact full.elim

/-- Calls are received in their order, each once and with its bytes, and the responses are the
replies in their order, each with the user data of its call. What finds the ring full leaves no
trace. -/
theorem batched_calls_and_responses_match (rings : EqualRings config size)
    (guarded : Along step (Duplex fun own peer action =>
      MatchGuard size own peer action ∧ ShortPayload action) (connected config host) actions)
    (party : Party) :
    let caller := run step (connected config host) actions party
    let server := run step (connected config host) actions party.peer
    receivedLog RecvMessage.endpointId server =
        callsFrom (fun _ => server.ep.endpointId) 0 (caller.sent.take server.seen) ∧
      responseLog caller = answersTo caller.sent (server.sent.take caller.seen) ∧
      (answerSeqs server.sent).Nodup ∧
      (∀ seq ∈ answerSeqs server.sent, (userDataOf caller.sent seq).isSome) ∧
      (caller.ep.batchMessageCount = 0 → server.processed = caller.ep.dci.posted.length →
        server.seen = caller.sent.length) ∧
      ∀ action, TurnedAway caller action →
        let after := caller.act transport server action
        after.ep.pendingCalls = caller.ep.pendingCalls ∧
          after.ep.batchMessageCount = caller.ep.batchMessageCount ∧
          after.ep.sendRingProducer = caller.ep.sendRingProducer ∧ after.sent = caller.sent := by
  intro caller server
  by_cases small : size < 64
  · obtain ⟨callerMute, attached⟩ := mute_run rings small host actions party
    obtain ⟨serverMute, _⟩ := mute_run rings small host actions party.peer
    have callerSent : caller.sent = [] := callerMute.sent
    have serverSent : server.sent = [] := serverMute.sent
    refine ⟨?_, ?_, ?_, ?_, ?_, fun action full => turnedAway_act attached server full⟩
    · rw [receivedLog, show server.received = [] from serverMute.received, callerSent, List.take_nil]
      rfl
    · rw [responseLog, show caller.responses = [] from callerMute.responses, serverSent, List.take_nil]
      rfl
    · rw [serverSent]
      exact .nil
    · rw [serverSent]
      intro seq member
      cases member
    · intro _ _
      rw [callerSent]
      exact serverMute.seen
  · have linked := matched_run rings (by unfold flowMetadataSize; omega) guarded
    have requests : Matched size caller server := linked party
    have replies : Matched size server caller := by
      have other := linked party.peer
      rwa [Party.peer_peer] at other
    refine ⟨requests.conversation.received, replies.conversation.responses,
      replies.conversation.outbox.distinct, ?_, requests.lockstep.carried_length.2,
      fun action full =>
        turnedAway_act requests.lockstep.outgoing.sending.attached server full⟩
    intro seq member
    obtain ⟨request, data, here, rfl⟩ := mem_answerSeqs.mp member
    obtain ⟨key, bytes, userData, responseAllowance, call, _⟩ :=
      replies.conversation.outbox.answers _ here
    rw [userDataOf, call]
    rfl

end Connected

theorem batched_calls_and_responses_match_exchange :
    let actions : List (Party × Action Nat) :=
      [(.a, .call [] 0 [1, 2, 3] 7 0), (.a, .flush [true]), (.a, .flush []), (.b, .land),
        (.b, .process), (.b, .recv), (.b, .reply [] 0 [9]), (.b, .flush []), (.a, .land),
        (.a, .process)]
    let caller := run step (connected smallRings sameHost) actions .a
    let server := run step (connected smallRings sameHost) actions .b
    callsFrom (fun _ => server.ep.endpointId) 0 (caller.sent.take server.seen) =
        [(0, [1, 2, 3], 1)] ∧
      receivedLog RecvMessage.endpointId server =
        callsFrom (fun _ => server.ep.endpointId) 0 (caller.sent.take server.seen) ∧
      answersTo caller.sent (server.sent.take caller.seen) = [(some 7, [9])] ∧
      responseLog caller = answersTo caller.sent (server.sent.take caller.seen) := by
  intro actions caller server
  have matched := batched_calls_and_responses_match (U := Nat) smallRings_equal
    (by decide +kernel : Along step (Duplex fun own peer action =>
        MatchGuard 128 own peer action ∧ ShortPayload action)
      (connected smallRings sameHost) actions) .a
  exact ⟨by decide +kernel, matched.1, by decide +kernel, matched.2.1⟩

def hugeRings (_ : Party) : EndpointConfig where
  sendRingSize := 2 ^ 33
  recvRingSize := 2 ^ 33

theorem hugeRings_equal : EqualRings hugeRings (2 ^ 33) := by
  intro party
  cases party <;> decide +kernel

def longRun (data : List UInt8) : List (Party × Action Unit) :=
  [(.a, .call [] 0 data () 0), (.a, .flush []), (.b, .land)]

def longCaller : EndpointInner Unit := (connected hugeRings sameHost .a).ep.offer []

theorem longCaller_call {data : List UInt8} (word : asU32 data.length = 0) :
    longCaller.call 0 data () 0 = (.ok 0, longCaller.acceptCall 0 data ()) := by
  let ring := (connected (U := Unit) hugeRings sameHost .b).ep.target.ring
  have cycle : longCaller.hasCycleRoomFor (dcPaddedMessageSize 0) = true := by decide +kernel
  have space : ¬ longCaller.available ring < dcPaddedMessageSize 0 := by decide +kernel
  have known : longCaller.remoteRecvRing = some ring := rfl
  simp only [EndpointInner.call, known, word, checkRoom, cycle, if_neg space]
  rfl

def longWrite (data : List UInt8) : WriteImm :=
  ((longCaller.acceptCall 0 data ()).offer []).dequeued.currentWrite
    (connected (U := Unit) hugeRings sameHost .b).ep.target.ring
    { dctn := 5, dcKey := 77, dlid := 3 } 1

def longFlushed (data : List UInt8) : EndpointInner Unit :=
  { ((longCaller.acceptCall 0 data ()).offer []).dequeued.closeBatch
      (connected (U := Unit) hugeRings sameHost .b).ep.target.ring
      { dctn := 5, dcKey := 77, dlid := 3 } with
    newlySignaledCount := 0, isDirty := false }

def longSender (data : List UInt8) : DcSide Unit :=
  { connected hugeRings sameHost .a with
    ep := longFlushed data, sent := [.request 0 data () 0] }

def longServer (data : List UInt8) : DcSide Unit :=
  { connected hugeRings sameHost .b with
    ep := (connected hugeRings sameHost .b).ep.store (longWrite data), landed := 1 }

theorem longRun_eq {data : List UInt8} (word : asU32 data.length = 0) :
    run step (connected hugeRings sameHost) (longRun data) .a = longSender data ∧
      run step (connected hugeRings sameHost) (longRun data) .b = longServer data := by
  have called : transport.call (connected hugeRings sameHost .a).ep [] 0 data () 0 = _ :=
    longCaller_call word
  have accepted : step (connected hugeRings sameHost) (.a, .call [] 0 data () 0) =
      update (connected hugeRings sameHost) .a
        { connected hugeRings sameHost .a with
          ep := longCaller.acceptCall 0 data (), sent := [.request 0 data () 0] } := by
    simp only [step, duplexStep, Side.act, called]
    rfl
  simp only [run, longRun, List.foldl_cons, List.foldl_nil]
  rw [accepted]
  exact ⟨rfl, rfl⟩

theorem EndpointInner.store_recvRing {U : Type} (ep : EndpointInner U) (write : WriteImm) :
    (ep.store write).recvRing =
      ep.recvRing.write (write.remoteAddr - ep.recvRingMr.addr) write.payload :=
  rfl

theorem longWrite_intact {data : List UInt8} (word : asU32 data.length = 0) :
    (longWrite data).Intact (2 ^ 33)
      ((connected (U := Unit) hugeRings sameHost .b).ep.store (longWrite data)).recvRing := by
  have stop : (longWrite data).stop = 64 := by
    change 32 + dcPaddedMessageSize (asU32 data.length) = 64
    rw [word]
    rfl
  have start : (longWrite data).start = 0 := rfl
  have complete : (longWrite data).payload.length = 64 := by
    change (Memory.read _ _ (asU32 ((longWrite data).stop - 0))).length = 64
    rw [stop, Memory.read_length]
    rfl
  have offset : (longWrite data).remoteAddr -
      (connected (U := Unit) hugeRings sameHost .b).ep.recvRingMr.addr = 0 := by
    change (sameHost .b).region.addr + maskOffset 0 _ - (sameHost .b).region.addr = 0
    rw [maskOffset, Nat.zero_and, Nat.add_zero, Nat.sub_self]
  refine ⟨⟨by rw [complete, stop, start], by rw [stop, start]; omega⟩, ?_⟩
  rw [store_recvRing, offset, start, Nat.zero_mod]
  exact Memory.read_write_same ..

theorem longServer_process {data : List UInt8} (word : asU32 data.length = 0) :
    let after := (longServer data).act transport (longSender data) .process
    after.seen = 1 ∧ receivedLog RecvMessage.endpointId after = [(0, [], 1)] := by
  have lockstep : Lockstep (2 ^ 33) (longSender data) (longServer data) := by
    have guarded : Along step (Duplex (IntactProcess (2 ^ 33))) (connected hugeRings sameHost)
        (longRun data) := ⟨trivial, trivial, trivial, trivial⟩
    rw [← (longRun_eq word).1, ← (longRun_eq word).2]
    exact lockstep_run hugeRings_equal (by decide) guarded .a
  have next : (longSender data).ep.dci.posted[(longServer data).processed]? =
      some (longWrite data) := rfl
  have single : (longWrite data).batch.messages.length = 1 := openMessages_length _
  have messages : (longWrite data).batch.messages = [messageFraming.stored 0 data] := by
    rw [← lockstep.batch_sent next, single]
    rfl
  have empty : (messageFraming.stored 0 data).payload = [] := by
    change data.take (data.length % 2 ^ 32) = []
    rw [show data.length % 2 ^ 32 = 0 from word, List.take_zero]
  have processed := lockstep.process_eq next (longWrite_intact word)
  have ready : (longServer data).processed < (longServer data).landed := Nat.zero_lt_one
  have posted : (transport.posted (longSender data).ep)[(longServer data).processed]? =
      some (longWrite data) := next
  have event : isResponse ((messageWire (longServer data).ep.endpointId).callId
      (messageFraming.stored 0 data).header) = false := by
    change isResponse 0 = false
    decide
  simp only [Side.act, if_pos ready, posted, processed, messages, deliver, event, empty,
    Bool.false_eq_true, if_false]
  exact ⟨rfl, rfl⟩

theorem longCall {data : List UInt8} (word : asU32 data.length = 0) :
    let actions := longRun data ++ [(.b, .process)]
    let caller := run step (connected hugeRings sameHost) actions .a
    let server := run step (connected hugeRings sameHost) actions .b
    Along step (Duplex (MatchGuard (2 ^ 33))) (connected hugeRings sameHost) actions ∧
      caller.sent = [.request 0 data () 0] ∧ server.seen = 1 ∧
      receivedLog RecvMessage.endpointId server = [(0, [], 1)] := by
  intro actions caller server
  obtain ⟨sender, receiver⟩ := longRun_eq word
  have last : run step (connected hugeRings sameHost) actions =
      step (run step (connected hugeRings sameHost) (longRun data)) (.b, .process) :=
    List.foldl_append ..
  have served : server = (longServer data).act transport (longSender data) .process := by
    change run step (connected hugeRings sameHost) actions .b = _
    rw [last, step, duplexStep, update_self, receiver]
    exact congrArg (fun peer => (longServer data).act transport peer .process) sender
  have unchanged : caller = longSender data := by
    change run step (connected hugeRings sameHost) actions .a = _
    rw [last, step, duplexStep, update_of_ne (by decide), sender]
  have intact : MatchGuard (2 ^ 33) (longServer data) (longSender data) .process := by
    refine ⟨fun _ write member => ?_, trivial, trivial⟩
    cases member
    exact longWrite_intact word
  rw [← sender, ← receiver] at intact
  have before : Along step (Duplex (MatchGuard (2 ^ 33))) (connected hugeRings sameHost)
      (longRun data) :=
    ⟨⟨trivial, trivial, rfl, by decide⟩, ⟨trivial, trivial, trivial⟩, ⟨trivial, trivial, trivial⟩,
      trivial⟩
  refine ⟨along_append.mpr ⟨before, intact, trivial⟩, ?_, ?_⟩
  · rw [unchanged]
    rfl
  · rw [served]
    exact longServer_process word

/-- A call with 4 GiB of data is accepted, and the length in its header is zero. -/
theorem longCall_loses_payload :
    let data := List.replicate (2 ^ 32) (7 : UInt8)
    let actions := longRun data ++ [(.b, .process)]
    let caller := run step (connected hugeRings sameHost) actions .a
    let server := run step (connected hugeRings sameHost) actions .b
    Along step (Duplex (MatchGuard (2 ^ 33))) (connected hugeRings sameHost) actions ∧
      caller.sent = [.request 0 data () 0] ∧ server.seen = 1 ∧
      receivedLog RecvMessage.endpointId server = [(0, [], 1)] :=
  longCall (by rw [List.length_replicate]; rfl)

end Locasta.Copyrpc.Dc
