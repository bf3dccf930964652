import Locasta.Copyrpc.Matching
import Locasta.Copyrpc.Rc.Credit

namespace Locasta.Copyrpc.Rc

open Data EndpointInner

/-! Calls and responses over the RC transport, end to end. -/

variable {U : Type} {size : Nat} {own peer sender receiver : RcSide U} {write : WriteImm}

def codec : Codec messageWire U where
  header
    | .request key _ _ responseAllowance => requestHeader key responseAllowance
    | .response request _ => responseHeader request.message
  callId := RecvMessage.callId
  request_callId _ _ _ _ := rfl
  response_callId _ _ := rfl

theorem message_eq_codec (sent : List (Sent RecvMessage U)) :
    sent.map message = sent.map codec.message := by
  apply List.map_congr_left
  intro entry _
  cases entry <;> rfl

/-- The key is vacant and leaves room for the response flag, and the data fits a length field. -/
def SmallMessage (own : RcSide U) : Action U → Prop
  | .call _ key data _ _ =>
    (own.ep.pendingCalls key).isNone ∧ key < 2 ^ 31 ∧ data.length < 2 ^ 31
  | .reply _ _ data => data.length < 2 ^ 31
  | _ => True

instance (own : RcSide U) : (action : Action U) → Decidable (SmallMessage own action)
  | .call .. => inferInstanceAs (Decidable (_ ∧ _ ∧ _))
  | .reply .. => inferInstanceAs (Decidable (_ < _))
  | .flush _ | .recv | .drop _ | .land | .process => isTrue trivial

/-- One direction: the calls and responses of the sender match what the receiver has. -/
structure Matched (size : Nat) (sender receiver : RcSide U) : Prop where
  link : Link size sender receiver
  requests : Requests receiver sender
  conversation : codec.Conversation RecvMessage.responseAllowance internalAllowance sender receiver
    receiver.ep.pendingCalls

theorem Link.carried_length (link : Link size sender receiver) :
    receiver.seen ≤ sender.sent.length ∧
      (sender.ep.batchMessageCount = 0 → receiver.processed = sender.ep.qp.posted.length →
        receiver.seen = sender.sent.length) := by
  have carried := link.outgoing.sending.outlet.carried_length receiver.processed
  rw [List.length_map] at carried
  rw [link.seen]
  exact carried

theorem outbox_act {ring : RemoteRingInfo} (outbox : codec.Outbox peer.sent own.sent own.replied)
    (sending : Sending ring size (own.sent.map message) own.ep) (requests : Requests peer own)
    (peerSmall : ∀ entry ∈ peer.sent, entry.Small messageFraming.lengthLimit) {action : Action U}
    (once : own.RepliesOnce action) (small : SmallMessage own action) :
    codec.Outbox peer.sent (own.act transport peer action).sent
      (own.act transport peer action).replied := by
  have short {length : Nat} (word : length < 2 ^ 31) : length < messageFraming.lengthLimit :=
    word.trans (by decide)
  by_cases isProcess : action = .process
  · subst isProcess
    obtain ⟨sent, replied⟩ := Side.sent_process transport own peer
    rw [sent, replied]
    exact outbox
  · refine act_messages (motive := fun sent replied _ => codec.Outbox peer.sent sent replied) sending
      peer isProcess outbox ?_ ?_
    · rintro answers key data userData responseAllowance rfl
      exact outbox.appendRequest small.2.1 (short small.2.2)
    · rintro answers index data request rfl live
      have held : request ∈ own.live := List.mem_append_right _ (List.mem_of_getElem? live)
      obtain ⟨key, bytes, userData, responseAllowance, here, callId, _, _⟩ := (requests request held).1
      have smallCall := peerSmall _ (List.mem_of_getElem? here)
      exact outbox.appendResponse (short small)
        ⟨key, bytes, userData, responseAllowance, here, smallCall.1, callId⟩ (once request live)

namespace Matched

variable {action : Action U}

theorem acting (matched : Matched size own peer) (back : Matched size peer own)
    (intact : IntactProcess size own peer action) (once : own.RepliesOnce action)
    (small : SmallMessage own action) : Matched size (own.act transport peer action) peer where
  link := matched.link.acting action
  requests := matched.requests.observing back.link intact
  conversation := matched.conversation.extend (Side.sent_act action)
    (outbox_act matched.conversation.outbox matched.link.outgoing.sending matched.requests
      back.conversation.outbox.small once small)

variable (matched : Matched size peer own)
include matched

theorem observing_other (back : Link size own peer) (other : action ≠ .process)
    (small : SmallMessage own action) :
    Pending (own.act transport peer action).sent (answerSeqs (peer.sent.take own.seen))
      (own.act transport peer action).ep.pendingCalls := by
  have pending := matched.conversation.pending
  refine act_messages (motive := fun sent _ pending =>
      Pending sent (answerSeqs (peer.sent.take own.seen)) pending)
    back.outgoing.sending peer other pending ?_ ?_
  · rintro answers key data userData responseAllowance rfl
    exact pending.appendRequest (Option.isNone_iff_eq_none.mp small.1)
  · intro answers index data request _ _
    exact pending.appendResponse

theorem process (intact : IntactProcess size own peer .process) :
    codec.Conversation RecvMessage.responseAllowance internalAllowance peer
      (own.act transport peer .process) (own.act transport peer .process).ep.pendingCalls := by
  have link := matched.link
  rcases Side.act_process transport own peer with idle | ⟨write, ready, next, result⟩
  · rw [idle]
    exact matched.conversation
  · have whole := intact ready write next
    have batch := link.batch_sent next
    rw [message_eq_codec] at batch
    obtain ⟨frames, inside⟩ := (link.emitted (List.mem_of_getElem? next)).frames_at whole
      (Nat.pos_of_isPowerOfTwo link.power)
      (link.position.trans (congrArg (· % size) (link.next_start next).1.symm))
    have delivered := matched.conversation.process transport (own.ep.receive size write)
      (own.processed + 1) batch frames inside (fun _ _ _ => rfl)
      (fun _ _ _ responseAllowance _ _ => piggyback_internalAllowance responseAllowance)
    obtain ⟨_, _, _, observed⟩ := Side.foldl_observe transport
      (deliver messageWire size write.batch.messages (own.ep.lastRecvPos + flowMetadataSize)
        own.ep.pendingCalls).2
      { own with ep := own.ep.receive size write, processed := own.processed + 1 }
    rw [link.process_eq next whole] at result
    rw [result]
    rw [observed] at delivered ⊢
    exact delivered

theorem observing (back : Matched size own peer) (intact : IntactProcess size own peer action)
    (small : SmallMessage own action) : Matched size peer (own.act transport peer action) where
  link := matched.link.observing back.link intact
  requests := matched.requests.acting action
  conversation := by
    by_cases isProcess : action = .process
    · subst isProcess
      exact matched.process intact
    · exact matched.conversation.respond (Side.sent_act action)
        (Side.logs_act transport own peer isProcess)
        (matched.observing_other back.link isProcess small)

end Matched

/-- WRITEs are intact when processed, handles are replied to once, keys are vacant and
messages small. -/
def MatchGuard (size : Nat) (own peer : RcSide U) (action : Action U) : Prop :=
  IntactProcess size own peer action ∧ own.RepliesOnce action ∧ SmallMessage own action

instance (size : Nat) (own peer : RcSide U) (action : Action U) :
    Decidable (MatchGuard size own peer action) :=
  inferInstanceAs (Decidable (_ ∧ _ ∧ _))

section Connected

variable {config : Party → EndpointConfig} {region : Party → MemoryRegion}
  {actions : List (Party × Action U)}

/-- Pending calls, open calls and responses match along every guarded run. -/
theorem matched_run (rings : EqualRings config size) (roomy : 2 * flowMetadataSize ≤ size)
    (guarded : Along step (Duplex (MatchGuard size)) (connected config region) actions) :
    Linked (Matched size) (run step (connected config region) actions) := by
  refine Linked.run ?_ ?_ ?_ guarded
  · intro own peer action matched back ⟨intact, once, small⟩
    exact matched.acting back intact once small
  · intro own peer action matched back ⟨intact, _, small⟩
    exact back.observing matched intact small
  · intro party
    exact {
      link := connected_link rings roomy party
      requests := by
        intro request member
        cases member
      conversation := .new .. }

/-- Calls are received in their order, each once, with its bytes and its internal allowance, and the
responses are the replies in their order, each with the user data of its call. -/
theorem calls_and_responses_match (rings : EqualRings config size)
    (guarded : Along step (Duplex (MatchGuard size)) (connected config region) actions)
    (party : Party) :
    let caller := run step (connected config region) actions party
    let server := run step (connected config region) actions party.peer
    receivedLog RecvMessage.responseAllowance server =
        callsFrom internalAllowance 0 (caller.sent.take server.seen) ∧
      responseLog caller = answersTo caller.sent (server.sent.take caller.seen) ∧
      (answerSeqs server.sent).Nodup ∧
      (∀ seq ∈ answerSeqs server.sent, (userDataOf caller.sent seq).isSome) ∧
      (caller.ep.batchMessageCount = 0 → server.processed = caller.ep.qp.posted.length →
        server.seen = caller.sent.length) := by
  intro caller server
  by_cases small : size < 256
  · obtain ⟨answers, callerQuiet⟩ := quiet_run rings small region actions party
    obtain ⟨others, serverQuiet⟩ := quiet_run rings small region actions party.peer
    rw [show caller = _ from callerQuiet, show server = _ from serverQuiet]
    refine ⟨rfl, rfl, .nil, ?_, fun _ _ => rfl⟩
    intro seq member
    cases member
  · have linked := matched_run rings (by unfold flowMetadataSize; omega) guarded
    have requests : Matched size caller server := linked party
    have replies : Matched size server caller := by
      have other := linked party.peer
      rwa [Party.peer_peer] at other
    refine ⟨requests.conversation.received, replies.conversation.responses,
      replies.conversation.outbox.distinct, ?_, requests.link.carried_length.2⟩
    intro seq member
    obtain ⟨request, data, here, rfl⟩ := mem_answerSeqs.mp member
    obtain ⟨key, bytes, userData, responseAllowance, call, _⟩ :=
      replies.conversation.outbox.answers _ here
    rw [userDataOf, call]
    rfl

end Connected

theorem calls_and_responses_match_exchange :
    let actions : List (Party × Action Nat) :=
      [(.a, .call [] 0 [1, 2, 3] 7 20), (.a, .flush []), (.b, .land), (.b, .process), (.b, .recv),
        (.b, .reply [] 0 [9]), (.b, .flush []), (.a, .land), (.a, .process)]
    let caller := run step (connected clientAndServer sameRegion) actions .a
    let server := run step (connected clientAndServer sameRegion) actions .b
    callsFrom internalAllowance 0 (caller.sent.take server.seen) = [(0, [1, 2, 3], 64)] ∧
      receivedLog RecvMessage.responseAllowance server =
        callsFrom internalAllowance 0 (caller.sent.take server.seen) ∧
      answersTo caller.sent (server.sent.take caller.seen) = [(some 7, [9])] ∧
      responseLog caller = answersTo caller.sent (server.sent.take caller.seen) := by
  intro actions caller server
  have matched := calls_and_responses_match (U := Nat) clientAndServer_rings
    (by decide +kernel : Along step (Duplex (MatchGuard 256))
      (connected clientAndServer sameRegion) actions) .a
  exact ⟨by decide +kernel, matched.1, by decide +kernel, matched.2.1⟩

end Locasta.Copyrpc.Rc
